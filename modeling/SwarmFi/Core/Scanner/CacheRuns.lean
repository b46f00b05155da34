import SwarmFi.Foundation.Moves
import SwarmFi.Core.Scanner.Prices

/-!
# The price cache over whole runs

Any number of callers of `_fetch_prices` on one event loop.  A caller checks
the cache when it comes, and once more when it has the lock; then it holds the
lock until its request is answered.  Nothing else is interrupted, so a run is
a list of moves: the clock goes on, a caller comes, a waiting caller gets the
lock, the request is answered.

The cache has one timestamp for entries that may come from different answers.
-/

namespace SwarmFi.Core.Scanner

open Foundation Python

/-! ## The system -/

/-- What a run leaves behind. -/
inductive PriceEvent where
  | served (now : Rat) (quotes : Mapping String Json)
  | requested (now : Rat) (ids : List String)
  | received (now : Rat) (body : Mapping String Json)

/-- The caller that holds the lock, from its check until its answer. -/
structure PriceRequest where
  sentAt : Rat
  ids : List String

/-- `trace` has the newest event first. -/
structure PriceLoop where
  clock : Rat
  cache : PriceCache
  waiting : List (List String)
  request : Option PriceRequest
  trace : List PriceEvent

inductive PriceMove where
  | tick (elapsed : NNRat)
  | call (ids : List String)
  | enter (place : Nat)
  | answer (answer : Answer)

namespace PriceLoop

/-- The process has not fetched anything yet. -/
def start (clock : Rat) : PriceLoop where
  clock := clock
  cache := .empty
  waiting := []
  request := none
  trace := []

variable (loop : PriceLoop)

/-- A cache-hit return. -/
def serve (ids : List String) : PriceLoop :=
  { loop with
    trace := .served loop.clock (loop.cache.quotes ids) :: loop.trace }

/-- The first check. -/
def call (ids : List String) : PriceLoop :=
  if loop.cache.serves loop.clock ids then
    loop.serve ids
  else
    { loop with waiting := loop.waiting ++ [ids] }

/-- The check of a caller that has the lock; its request starts at the time
read there. -/
def recheck (ids : List String) : PriceLoop :=
  if loop.cache.serves loop.clock ids then
    loop.serve ids
  else
    { loop with
      request := some ⟨loop.clock, ids⟩
      trace := .requested loop.clock ids :: loop.trace }

/-- A waiting caller gets the lock, if it is free. -/
def enter (place : Nat) : PriceLoop :=
  match loop.request, loop.waiting[place]? with
  | none, some ids =>
      { loop with waiting := loop.waiting.eraseIdx place }.recheck ids
  | _, _ => loop

/-- The request is answered, and the lock is free. -/
def answered (answer : Answer) : PriceLoop :=
  match loop.request with
  | none => loop
  | some request =>
      { loop with
        cache := loop.cache.receive request.sentAt answer
        request := none
        trace :=
          match answer.fresh with
          | none => loop.trace
          | some body => .received loop.clock body :: loop.trace }

def next : PriceMove → PriceLoop
  | .tick elapsed => { loop with clock := loop.clock + elapsed }
  | .call ids => loop.call ids
  | .enter place => loop.enter place
  | .answer answer => loop.answered answer

end PriceLoop

/-! ## Fresh hits -/

/-- The newest entry that was received for an id, and when. -/
def latest (id : String) : List PriceEvent → Option (Rat × Json)
  | [] => none
  | .received now body :: before =>
      match body.get? id with
      | some entry => some (now, entry)
      | none => latest id before
  | .served _ _ :: before => latest id before
  | .requested _ _ :: before => latest id before

/-- The entries that a hit returns at `now` were received for their ids, each
less than the time to live ago. -/
def FreshQuotes (before : List PriceEvent) (now : Rat)
    (quotes : Mapping String Json) : Prop :=
  ∀ id entry, quotes.get? id = some entry →
    ∃ receivedAt, latest id before = some (receivedAt, entry) ∧
      receivedAt ≤ now ∧ now - receivedAt < cacheTtlSecs

/-- Every hit of a trace. -/
def ServesFresh : List PriceEvent → Prop
  | [] => True
  | .served now quotes :: before =>
      FreshQuotes before now quotes ∧ ServesFresh before
  | .requested _ _ :: before => ServesFresh before
  | .received _ _ :: before => ServesFresh before

/-- An answer that is stored names every id that the cache has, but for those
that were received since the request was sent. -/
def KeepsUp (loop : PriceLoop) : PriceMove → Prop
  | .answer answer =>
      ∀ request ∈ loop.request, ∀ body ∈ answer.fresh,
        ∀ id ∈ loop.cache.prices.keys, body.contains id = false →
          ∀ receipt ∈ latest id loop.trace, request.sentAt ≤ receipt.1
  | _ => True

instance KeepsUp.decidable (loop : PriceLoop) :
    ∀ move, Decidable (KeepsUp loop move)
  | .answer answer =>
      inferInstanceAs (Decidable
        (∀ request ∈ loop.request, ∀ body ∈ answer.fresh,
          ∀ id ∈ loop.cache.prices.keys, body.contains id = false →
            ∀ receipt ∈ latest id loop.trace,
              request.sentAt ≤ receipt.1))
  | .tick _ => isTrue trivial
  | .call _ => isTrue trivial
  | .enter _ => isTrue trivial

/-- The cache has the newest entries, and none of them is older than its
timestamp. -/
structure UpToDate (loop : PriceLoop) : Prop where
  newest : ∀ id, loop.cache.prices.get? id =
    (latest id loop.trace).map Prod.snd
  stamped : ∀ id, ∀ receipt ∈ latest id loop.trace,
    loop.cache.cachedAt ≤ receipt.1 ∧ receipt.1 ≤ loop.clock
  sent : ∀ request ∈ loop.request, request.sentAt ≤ loop.clock
  fresh : ServesFresh loop.trace

namespace UpToDate

variable {loop : PriceLoop}

theorem start (clock : Rat) : UpToDate (PriceLoop.start clock) where
  newest := fun _ => rfl
  stamped := by
    intro id receipt absent
    cases absent
  sent := by
    intro request absent
    cases absent
  fresh := trivial

theorem tick (upToDate : UpToDate loop) (elapsed : NNRat) :
    UpToDate (loop.next (.tick elapsed)) where
  newest := upToDate.newest
  stamped := by
    intro id receipt isReceipt
    have stamped := upToDate.stamped id receipt isReceipt
    have later : loop.clock ≤ loop.clock + elapsed :=
      le_add_of_nonneg_right elapsed.coe_nonneg
    exact ⟨stamped.1, stamped.2.trans later⟩
  sent := by
    intro request isRequest
    have later : loop.clock ≤ loop.clock + elapsed :=
      le_add_of_nonneg_right elapsed.coe_nonneg
    exact (upToDate.sent request isRequest).trans later
  fresh := upToDate.fresh

/-- A hit returns what was received at or after the timestamp. -/
theorem freshQuotes (upToDate : UpToDate loop) {ids : List String}
    (serves : loop.cache.serves loop.clock ids = true) :
    FreshQuotes loop.trace loop.clock (loop.cache.quotes ids) := by
  obtain ⟨young, present⟩ := (PriceCache.serves_iff _ _ _).mp serves
  intro id entry isEntry
  rw [PriceCache.get?_quotes] at isEntry
  split at isEntry
  · next asked =>
      obtain ⟨cached, isCached⟩ := present id asked
      rw [isCached] at isEntry
      cases isEntry
      have newest := upToDate.newest id
      rw [isCached] at newest
      obtain ⟨receipt, isReceipt, same⟩ :=
        Option.map_eq_some_iff.mp newest.symm
      have stamped := upToDate.stamped id receipt isReceipt
      refine ⟨receipt.1, ?_, stamped.2, ?_⟩
      · rw [isReceipt, Option.getD_some, ← same]
      · exact (sub_le_sub_left stamped.1 loop.clock).trans_lt young
  · cases isEntry

theorem serve (upToDate : UpToDate loop) {ids : List String}
    (serves : loop.cache.serves loop.clock ids = true) :
    UpToDate (loop.serve ids) where
  newest := upToDate.newest
  stamped := upToDate.stamped
  sent := upToDate.sent
  fresh := ⟨upToDate.freshQuotes serves, upToDate.fresh⟩

theorem rewait (upToDate : UpToDate loop) (waiting : List (List String)) :
    UpToDate { loop with waiting := waiting } where
  newest := upToDate.newest
  stamped := upToDate.stamped
  sent := upToDate.sent
  fresh := upToDate.fresh

theorem call (upToDate : UpToDate loop) (ids : List String) :
    UpToDate (loop.call ids) := by
  unfold PriceLoop.call
  by_cases serves : loop.cache.serves loop.clock ids = true
  · rw [if_pos serves]
    exact upToDate.serve serves
  · rw [if_neg serves]
    exact upToDate.rewait _

theorem recheck (upToDate : UpToDate loop) (ids : List String) :
    UpToDate (loop.recheck ids) := by
  unfold PriceLoop.recheck
  by_cases serves : loop.cache.serves loop.clock ids = true
  · rw [if_pos serves]
    exact upToDate.serve serves
  · rw [if_neg serves]
    constructor
    · exact upToDate.newest
    · exact upToDate.stamped
    · intro request isRequest
      cases isRequest
      exact le_refl loop.clock
    · exact upToDate.fresh

theorem enter (upToDate : UpToDate loop) (place : Nat) :
    UpToDate (loop.enter place) := by
  unfold PriceLoop.enter
  split
  · exact (upToDate.rewait _).recheck _
  · exact upToDate

theorem answered (upToDate : UpToDate loop) {answer : Answer}
    (keepsUp : KeepsUp loop (.answer answer)) :
    UpToDate (loop.answered answer) := by
  unfold PriceLoop.answered
  cases isRequest : loop.request with
  | none => exact upToDate
  | some request =>
      cases isFresh : answer.fresh with
      | none =>
          unfold PriceCache.receive
          rw [isFresh]
          constructor
          · exact upToDate.newest
          · exact upToDate.stamped
          · intro other absent
            cases absent
          · exact upToDate.fresh
      | some body =>
          have kept := keepsUp request isRequest body isFresh
          have sent := upToDate.sent request isRequest
          unfold PriceCache.receive
          rw [isFresh]
          constructor
          · intro id
            dsimp only
            rw [PriceCache.get?_merge, latest, upToDate.newest id]
            cases body.get? id <;> rfl
          · intro id receipt isReceipt
            rw [latest] at isReceipt
            cases isEntry : body.get? id with
            | some entry =>
                rw [isEntry] at isReceipt
                cases isReceipt
                exact ⟨sent, le_refl loop.clock⟩
            | none =>
                rw [isEntry] at isReceipt
                have isReceipt : latest id loop.trace = some receipt :=
                  isReceipt
                have cached : id ∈ loop.cache.prices.keys := by
                  rw [Mapping.mem_keys_iff, upToDate.newest id, isReceipt]
                  exact ⟨receipt.2, rfl⟩
                have absent : body.contains id = false := by
                  rw [Mapping.contains, isEntry]
                  rfl
                exact ⟨kept id cached absent receipt isReceipt,
                  (upToDate.stamped id receipt isReceipt).2⟩
          · intro other absent
            cases absent
          · exact upToDate.fresh

theorem next (upToDate : UpToDate loop) {move : PriceMove}
    (keepsUp : KeepsUp loop move) : UpToDate (loop.next move) := by
  cases move with
  | tick elapsed => exact upToDate.tick elapsed
  | call ids => exact upToDate.call ids
  | enter place => exact upToDate.enter place
  | answer answer => exact upToDate.answered keepsUp

end UpToDate

/-- As long as no stored answer leaves an older entry behind, the cache serves
only fresh prices. -/
theorem run_servesFresh {clock : Rat} {moves : List PriceMove}
    (keepsUp : Meets PriceLoop.next KeepsUp (.start clock) moves) :
    ServesFresh (runMoves PriceLoop.next (.start clock) moves).trace :=
  (keepsUp.invariant (fun _ _ met upToDate => upToDate.next met)
    (UpToDate.start clock)).fresh

/-! ## Two scans -/

def ethereumQuote : Mapping String Json :=
  Mapping.empty.set "ethereum" (.obj [("usd", .int 3000)])

def bitcoinQuote : Mapping String Json :=
  Mapping.empty.set "bitcoin" (.obj [("usd", .int 60000)])

/-- A 200 with these prices. -/
def sent (body : Mapping String Json) : Answer :=
  .ok ⟨200, "OK", "/simple/price", .ok body⟩

/-- A scan fetches; 31 seconds later the next one does, and a second after
that a third one is served. -/
def threeScans (first second : Mapping String Json) : List PriceMove :=
  [.call Fetch.scannedIds, .enter 0, .answer (sent first), .tick 31,
    .call Fetch.scannedIds, .enter 0, .answer (sent second), .tick 1,
    .call Fetch.scannedIds]

theorem run_servesFresh_three :
    ServesFresh (runMoves PriceLoop.next (.start 1000)
      (threeScans (PriceCache.merge ethereumQuote bitcoinQuote)
        (PriceCache.merge ethereumQuote bitcoinQuote))).trace :=
  run_servesFresh (by decide +kernel)

/-- The ages of what a trace serves, without the entries. -/
def servesYoung : List PriceEvent → Bool
  | [] => true
  | .served now quotes :: before =>
      (quotes.keys.all fun id => (latest id before).any fun receipt =>
        decide (now - receipt.1 < cacheTtlSecs)) && servesYoung before
  | .requested _ _ :: before => servesYoung before
  | .received _ _ :: before => servesYoung before

theorem ServesFresh.young {trace : List PriceEvent}
    (fresh : ServesFresh trace) : servesYoung trace = true := by
  induction trace with
  | nil => rfl
  | cons event before inductionHypothesis =>
      cases event with
      | requested now ids => exact inductionHypothesis fresh
      | received now body => exact inductionHypothesis fresh
      | served now quotes =>
          have earlier := inductionHypothesis fresh.2
          rw [servesYoung, earlier, Bool.and_true, List.all_eq_true]
          intro id present
          rw [Mapping.mem_keys_iff] at present
          obtain ⟨entry, isEntry⟩ := present
          obtain ⟨receivedAt, isReceipt, _, young⟩ :=
            fresh.1 id entry isEntry
          rw [isReceipt, Option.any_some, decide_eq_true_eq]
          exact young

/-- The second answer omits ethereum, and the timestamp covers it. -/
theorem stale_price_served :
    ¬ ∀ (clock : Rat) (moves : List PriceMove),
      ServesFresh (runMoves PriceLoop.next (.start clock) moves).trace := by
  intro always
  have young := (always 1000 (threeScans
    (PriceCache.merge ethereumQuote bitcoinQuote) bitcoinQuote)).young
  have old : servesYoung (runMoves PriceLoop.next (.start 1000) (threeScans
      (PriceCache.merge ethereumQuote bitcoinQuote) bitcoinQuote)).trace =
        false := by
    decide +kernel
  rw [old] at young
  cases young

end SwarmFi.Core.Scanner
