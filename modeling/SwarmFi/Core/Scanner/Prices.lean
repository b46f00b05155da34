import SwarmFi.Core.Scanner
import SwarmFi.Python.Http
import SwarmFi.Python.Mapping

/-!
# The prices of a scan

`_fetch_prices` serves the prices of a few ids from a cache, and refills the
cache from the server when it is stale or when an id is missing.  What the
server sends is merged as it is: `scan_pairs` turns it into numbers later,
outside of any handler.
-/

namespace SwarmFi.Core.Scanner

open Python

/-! ## The cache -/

def cacheTtlSecs : Rat := 30

/-- `_price_cache` and `_price_cache_at` -/
structure PriceCache where
  prices : Mapping String Json
  cachedAt : Rat

/-- What `client.get` comes to, and `r.json()` of its answer. -/
abbrev Answer :=
  Except Exception (Response (Except Exception (Mapping String Json)))

namespace Answer

/-- The prices that were sent: a non-empty object, with a 200. -/
def fresh : Answer → Option (Mapping String Json)
  | .error _ => none
  | .ok response =>
      if response.statusCode = 200 then
        match response.body with
        | .error _ => none
        | .ok body => if body.items.isEmpty then none else some body
      else
        none

end Answer

namespace PriceCache

/-- The cache before the first fetch. -/
def empty : PriceCache where
  prices := .empty
  cachedAt := 0

/-- Fresh, and with every requested id. -/
def serves (cache : PriceCache) (now : Rat) (ids : List String) : Bool :=
  decide (now - cache.cachedAt < cacheTtlSecs) &&
    ids.all fun id => cache.prices.contains id

/-- `{i: _price_cache.get(i, {}) for i in ids}` -/
def quotes (cache : PriceCache) (ids : List String) : Mapping String Json :=
  ids.foldl
    (fun built id => built.set id ((cache.prices.get? id).getD (.obj [])))
    .empty

/-- `_price_cache.update(fresh)` -/
def merge (prices fresh : Mapping String Json) : Mapping String Json :=
  fresh.items.foldl (fun merged item => merged.set item.1 item.2) prices

/-- The cache after a request that was sent at `now`. -/
def receive (cache : PriceCache) (now : Rat) (answer : Answer) :
    PriceCache :=
  match answer.fresh with
  | none => cache
  | some body =>
      { prices := merge cache.prices body
        cachedAt := now }

/-! ## What the operations leave behind -/

theorem serves_iff
    (cache : PriceCache) (now : Rat) (ids : List String) :
    cache.serves now ids = true ↔
      now - cache.cachedAt < cacheTtlSecs ∧
        ∀ id ∈ ids, ∃ entry, cache.prices.get? id = some entry := by
  unfold serves
  rw [Bool.and_eq_true, decide_eq_true_eq, List.all_eq_true]
  simp only [Mapping.contains_eq_true_iff]

theorem get?_quotes (cache : PriceCache) (ids : List String) (id : String) :
    (cache.quotes ids).get? id =
      if id ∈ ids then
        some ((cache.prices.get? id).getD (.obj []))
      else
        none := by
  induction ids using List.reverseRecOn with
  | nil => rfl
  | append_singleton ids last inductionHypothesis =>
      unfold quotes at inductionHypothesis ⊢
      rw [List.foldl_append, List.foldl_cons, List.foldl_nil,
        Mapping.get?_set, inductionHypothesis]
      by_cases same : id = last
      · subst same
        simp
      · simp [same]

theorem get?_merge (prices fresh : Mapping String Json) (id : String) :
    (merge prices fresh).get? id =
      (fresh.get? id).or (prices.get? id) := by
  obtain ⟨items, distinct⟩ := fresh
  unfold merge
  dsimp only [Mapping.get?]
  induction items generalizing prices with
  | nil => rfl
  | cons item rest inductionHypothesis =>
      have new : item.1 ∉ rest.map Prod.fst :=
        (List.nodup_cons.mp distinct).1
      have later := inductionHypothesis (prices.set item.1 item.2)
        (List.nodup_cons.mp distinct).2
      have isSet := Mapping.get?_set prices item.1 id item.2
      unfold Mapping.get? at isSet
      rw [List.foldl_cons, later, isSet, List.lookup_cons]
      by_cases same : id = item.1
      · have absent : rest.lookup item.1 = none := by
          rw [List.lookup_eq_none_iff]
          intro other member
          rw [bne_iff_ne]
          intro equal
          rw [equal] at new
          exact new (List.mem_map_of_mem member)
        rw [same, absent, if_pos rfl, beq_self_eq_true]
        rfl
      · rw [if_neg same, beq_eq_false_iff_ne.mpr same]

theorem get?_receive
    (cache : PriceCache) (now : Rat) (answer : Answer) (id : String) :
    (cache.receive now answer).prices.get? id =
      (answer.fresh.bind fun body => body.get? id).or
        (cache.prices.get? id) := by
  unfold receive
  cases answer.fresh with
  | none => rfl
  | some body => exact get?_merge cache.prices body id

end PriceCache

/-! ## A call -/

/-- What a call finds: the cache and the clock before it waits for the lock
and once it holds it, and the answer if it sends a request. -/
structure Fetch where
  before : PriceCache
  early : Rat
  locked : PriceCache
  now : Rat
  answer : Answer

namespace Fetch

/-- `_fetch_prices(ids)` -/
def fetchPrices (fetch : Fetch) (ids : List String) :
    Mapping String Json :=
  if fetch.before.serves fetch.early ids then
    fetch.before.quotes ids
  else if fetch.locked.serves fetch.now ids then
    fetch.locked.quotes ids
  else
    (fetch.locked.receive fetch.now fetch.answer).quotes ids

/-- The ids that `scan_pairs` asks for. -/
def scannedIds : List String :=
  pairs.map PairSpec.coingeckoId

/-- `scan_pairs(amount_in_wei)` -/
def scan (fetch : Fetch) (amountInWei : Int) :
    Except Exception ScanResult :=
  scanPairs (fetch.fetchPrices scannedIds).items amountInWei

/-- Where the entry of an id comes from. -/
def entry (fetch : Fetch) (ids : List String) (id : String) : Option Json :=
  if fetch.before.serves fetch.early ids then
    fetch.before.prices.get? id
  else if fetch.locked.serves fetch.now ids then
    fetch.locked.prices.get? id
  else
    (fetch.answer.fresh.bind fun body => body.get? id).or
      (fetch.locked.prices.get? id)

theorem get?_fetchPrices (fetch : Fetch) {ids : List String} {id : String}
    (asked : id ∈ ids) :
    (fetch.fetchPrices ids).get? id =
      some ((fetch.entry ids id).getD (.obj [])) := by
  unfold fetchPrices entry
  by_cases early : fetch.before.serves fetch.early ids = true
  · rw [if_pos early, if_pos early, PriceCache.get?_quotes, if_pos asked]
  · rw [if_neg early, if_neg early]
    by_cases late : fetch.locked.serves fetch.now ids = true
    · rw [if_pos late, if_pos late, PriceCache.get?_quotes, if_pos asked]
    · rw [if_neg late, if_neg late, PriceCache.get?_quotes, if_pos asked,
        PriceCache.get?_receive]

end Fetch

end SwarmFi.Core.Scanner
