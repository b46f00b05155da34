import SwarmFi.Core.Scanner.Prices

/-!
# When a scan returns

`scan_pairs` turns what the server sent into numbers outside of any handler,
and a null price is not read as no price.  So a scan returns exactly when the
amount is a float and the price and the 24h change of every id, where they are
there, can be converted.
-/

namespace SwarmFi.Core.Scanner

open Python

/-! ## What can be converted -/

/-- What `float(info.get(key, 0.0))` needs of the entry of an id. -/
def ReadableAt (key : String) (entry : Option Json) : Prop :=
  ∀ found, entry = some found →
    ∃ info, found = .obj info ∧
      ∀ value, Dict.get? info key = some value → value.Converts

/-- Both numbers of an entry are missing or can be converted. -/
def Readable (entry : Option Json) : Prop :=
  ReadableAt "usd" entry ∧ ReadableAt "usd_24h_change" entry

/-- An id without an entry is read as `{}`. -/
theorem readableAt_getD (key : String) (entry : Option Json) :
    ReadableAt key (some (entry.getD (.obj []))) ↔
      ReadableAt key entry := by
  cases entry with
  | some found => rfl
  | none =>
      constructor
      · intro _ found absent
        cases absent
      · intro _ found isEmpty
        cases isEmpty
        refine ⟨[], rfl, ?_⟩
        intro value absent
        cases absent

/-! ## A score -/

theorem quoted_returns_iff (prices : Dict) (coingeckoId key : String) :
    (∃ number, quoted prices coingeckoId key = .ok number) ↔
      ReadableAt key (some (prices.getD coingeckoId (.obj []))) := by
  unfold quoted
  constructor
  · rintro ⟨number, isNumber⟩ found isFound
    rw [bind_eq_ok_iff] at isNumber
    obtain ⟨info, isInfo, converted⟩ := isNumber
    have same : found = .obj info := by
      rw [← Option.some.inj isFound]
      cases isEntry : prices.getD coingeckoId (.obj []) with
      | obj fields =>
          rw [isEntry] at isInfo
          cases isInfo
          rfl
      | _ =>
          rw [isEntry] at isInfo
          cases isInfo
    refine ⟨info, same, ?_⟩
    intro value isValue
    refine ⟨number, ?_⟩
    rw [Dict.getD, isValue] at converted
    exact converted
  · intro readable
    obtain ⟨info, isInfo, convertible⟩ := readable _ rfl
    rw [isInfo]
    show ∃ number,
      (Dict.getD info key (.float (.fin 0))).toFloat = .ok number
    cases isValue : Dict.get? info key with
    | none =>
        refine ⟨.fin 0, ?_⟩
        rw [Dict.getD, isValue]
        rfl
    | some value =>
        rw [Dict.getD, isValue]
        exact convertible value isValue

theorem normaliseMomentum_returns (pct24h : PyFloat) :
    ∃ momentum, normaliseMomentum pct24h = .ok momentum := by
  have ten : PyFloat.fin 10 ≠ .fin 0 := by decide
  obtain ⟨ramp, isRamp⟩ :=
    PyFloat.div_of_ne_zero ten (pct24h.add (.fin 5))
  unfold normaliseMomentum
  rw [isRamp]
  exact ⟨_, rfl⟩

/-- `0.0001` is a divisor, and nothing from it on is a zero. -/
theorem smallestSize_positive : (PyFloat.fin 0).lt smallestSize = true := by
  decide +kernel

/-- Only the conversion of the amount may raise. -/
theorem sizeFit_returns_iff (amountInWei : Int) (inSym : String) :
    (∃ size, sizeFit amountInWei inSym = .ok size) ↔
      (Json.int amountInWei).Converts := by
  unfold sizeFit
  constructor
  · rintro ⟨size, isSize⟩
    rw [bind_eq_ok_iff] at isSize
    obtain ⟨amount, isAmount, _⟩ := isSize
    exact ⟨amount, isAmount⟩
  · rintro ⟨amount, isAmount⟩
    have ether : PyFloat.fin 1000000000000000000 ≠ .fin 0 := by decide
    obtain ⟨inEth, isInEth⟩ := PyFloat.div_of_ne_zero ether amount
    rw [isAmount]
    simp only [bind, Except.bind, isInEth]
    generalize (if inSym = "cbBTC" then inEth.mul (.fin 30) else inEth) =
      eth
    by_cases fits : (smallestSize.le eth && eth.le (.fin 1)) = true
    · rw [if_pos fits]
      exact ⟨_, rfl⟩
    · rw [if_neg fits]
      by_cases small : eth.lt smallestSize = true
      · have nonzero : smallestSize ≠ .fin 0 := by
          intro zero
          have positive := smallestSize_positive
          rw [zero] at positive
          cases positive
        obtain ⟨share, isShare⟩ := PyFloat.div_of_ne_zero nonzero eth
        rw [if_pos small, isShare]
        exact ⟨_, rfl⟩
      · have nonzero : eth ≠ .fin 0 := by
          intro zero
          rw [zero] at small
          exact small smallestSize_positive
        obtain ⟨share, isShare⟩ :=
          PyFloat.div_of_ne_zero nonzero (PyFloat.fin 1)
        rw [if_neg small, isShare]
        exact ⟨_, rfl⟩

theorem scorePair_returns_iff
    (prices : Dict) (amountInWei : Int) (pair : PairSpec) :
    (∃ score, scorePair prices amountInWei pair = .ok score) ↔
      (Json.int amountInWei).Converts ∧
        Readable (some (prices.getD pair.coingeckoId (.obj []))) := by
  have priced := quoted_returns_iff prices pair.coingeckoId "usd"
  have changed :=
    quoted_returns_iff prices pair.coingeckoId "usd_24h_change"
  have sized := sizeFit_returns_iff amountInWei pair.inSym
  unfold Readable
  rw [← priced, ← changed, ← sized]
  unfold scorePair priceIn
  constructor
  · rintro ⟨score, scored⟩
    simp only [bind_eq_ok_iff] at scored
    obtain ⟨price, isPrice, momPct, isChange, _, _, size, isSize, _⟩ :=
      scored
    exact ⟨⟨size, isSize⟩, ⟨price, isPrice⟩, ⟨momPct, isChange⟩⟩
  · rintro ⟨⟨size, isSize⟩, ⟨price, isPrice⟩, ⟨momPct, isChange⟩⟩
    obtain ⟨momentum, isMomentum⟩ := normaliseMomentum_returns momPct
    rw [isPrice, isChange]
    simp only [bind, Except.bind, isMomentum, isSize]
    exact ⟨_, rfl⟩

theorem scoreAll_returns_iff
    (prices : Dict) (amountInWei : Int) (specs : List PairSpec) :
    (∃ scores, scoreAll prices amountInWei specs = .ok scores) ↔
      ∀ pair ∈ specs,
        ∃ score, scorePair prices amountInWei pair = .ok score := by
  induction specs with
  | nil => simp [scoreAll]
  | cons pair rest inductionHypothesis =>
      rw [List.forall_mem_cons, ← inductionHypothesis]
      constructor
      · intro returned
        obtain ⟨scores, scored⟩ := returned
        simp only [scoreAll, bind_eq_ok_iff] at scored
        obtain ⟨score, isScore, others, areOthers, _⟩ := scored
        exact ⟨⟨score, isScore⟩, ⟨others, areOthers⟩⟩
      · intro returned
        obtain ⟨⟨score, isScore⟩, others, areOthers⟩ := returned
        simp only [scoreAll, bind, Except.bind, isScore, areOthers]
        exact ⟨_, rfl⟩

/-! ## The scan -/

theorem scanPairs_returns_iff (prices : Dict) (amountInWei : Int) :
    (∃ scan, scanPairs prices amountInWei = .ok scan) ↔
      ∃ scores, scoreAll prices amountInWei pairs = .ok scores := by
  unfold scanPairs
  split
  · next exc failed => simp [failed]
  · next scores scored => simp [scored]

/-- Every pair is ranked once, and the first one is the best. -/
def Produces (outcome : Except Exception ScanResult) : Prop :=
  ∃ scan best, outcome = .ok scan ∧
    (scan.ranked.map PairScore.pair).Perm pairs ∧
      scan.ranked.head? = some best ∧ scan.best = some best

/-- A scan that returns has its ranking. -/
theorem produces_iff (outcome : Except Exception ScanResult) :
    Produces outcome ↔ ∃ scan, outcome = .ok scan := by
  constructor
  · rintro ⟨scan, best, returned, _⟩
    exact ⟨scan, returned⟩
  · rintro ⟨scan, returned⟩
    obtain ⟨best, isBest⟩ := scan.exists_best
    refine ⟨scan, best, returned, scan.ranks_pairs, ?_, isBest⟩
    rw [← scan.best_first]
    exact isBest

theorem entry_of_fetch (fetch : Fetch) {id : String}
    (scanned : id ∈ Fetch.scannedIds) :
    Dict.getD (fetch.fetchPrices Fetch.scannedIds).items id (.obj []) =
      (fetch.entry Fetch.scannedIds id).getD (.obj []) := by
  have found := fetch.get?_fetchPrices scanned
  change Dict.get? (fetch.fetchPrices Fetch.scannedIds).items id = _ at found
  rw [Dict.getD, found]
  rfl

/-- A scan ranks every pair exactly when the amount and the two numbers of
every entry that it reads can be converted. -/
theorem scan_produces_iff (fetch : Fetch) (amountInWei : Int) :
    Produces (fetch.scan amountInWei) ↔
      (Json.int amountInWei).Converts ∧
        ∀ id ∈ Fetch.scannedIds,
          Readable (fetch.entry Fetch.scannedIds id) := by
  have readable : ∀ pair ∈ pairs,
      Readable (some (Dict.getD
        (fetch.fetchPrices Fetch.scannedIds).items pair.coingeckoId
          (.obj []))) ↔
        Readable (fetch.entry Fetch.scannedIds pair.coingeckoId) := by
    intro pair member
    rw [entry_of_fetch fetch (List.mem_map_of_mem member)]
    exact and_congr (readableAt_getD _ _) (readableAt_getD _ _)
  rw [produces_iff, Fetch.scan, scanPairs_returns_iff, scoreAll_returns_iff]
  constructor
  · intro scored
    have scored : ∀ pair ∈ pairs, (Json.int amountInWei).Converts ∧
        Readable (fetch.entry Fetch.scannedIds pair.coingeckoId) := by
      intro pair member
      rw [← readable pair member, ← scorePair_returns_iff]
      exact scored pair member
    constructor
    · exact (scored ethUsdc List.mem_cons_self).1
    · intro id scanned
      obtain ⟨pair, member, rfl⟩ := List.mem_map.mp scanned
      exact (scored pair member).2
  · rintro ⟨converts, allReadable⟩ pair member
    rw [scorePair_returns_iff, readable pair member]
    exact ⟨converts,
      allReadable pair.coingeckoId (List.mem_map_of_mem member)⟩

/-! ## A null price -/

def nullQuote : Mapping String Json :=
  Mapping.empty.set "ethereum" (.obj [("usd", .null)])

/-- The first fetch, answered with a null price. -/
def nullFetch : Fetch where
  before := .empty
  early := 100
  locked := .empty
  now := 100
  answer := .ok ⟨200, "OK", "/simple/price", .ok nullQuote⟩

theorem nullFetch_sends :
    nullFetch.entry Fetch.scannedIds "ethereum" =
      some (.obj [("usd", .null)]) := by
  have unserved :
      PriceCache.empty.serves 100 Fetch.scannedIds = false := by
    decide +kernel
  unfold Fetch.entry
  change (if PriceCache.empty.serves 100 Fetch.scannedIds then _
    else if PriceCache.empty.serves 100 Fetch.scannedIds then _
    else _) = _
  rw [unserved]
  rfl

theorem null_price_raises :
    ¬ ∀ (fetch : Fetch) (amountInWei : Int), 0 ≤ amountInWei →
      Produces (fetch.scan amountInWei) := by
  intro always
  have produced := always nullFetch 1000000000000000 (by decide)
  rw [produces_iff, Fetch.scan, scanPairs_returns_iff, scoreAll_returns_iff]
    at produced
  have scored := produced ethUsdc List.mem_cons_self
  rw [scorePair_returns_iff] at scored
  obtain ⟨info, isInfo, converts⟩ := scored.2.1 _ rfl
  have sent : Dict.getD
      (nullFetch.fetchPrices Fetch.scannedIds).items ethUsdc.coingeckoId
        (.obj []) = .obj [("usd", .null)] := by
    have scanned : ethUsdc.coingeckoId ∈ Fetch.scannedIds :=
      List.mem_cons_self
    rw [entry_of_fetch nullFetch scanned]
    exact congrArg (fun entry => entry.getD (.obj [])) nullFetch_sends
  rw [sent] at isInfo
  cases isInfo
  obtain ⟨number, converted⟩ := converts .null rfl
  cases converted

end SwarmFi.Core.Scanner
