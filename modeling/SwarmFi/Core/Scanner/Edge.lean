import SwarmFi.Foundation.Ranking
import SwarmFi.Core.Scanner.Profile

/-!
# Bounds and orders of the edge scores

In exact arithmetic every sub-score is between 0 and 1, the ranking has the
greatest composite first, and no pair has a weaker signal than one below it.
A greater 24h change of an id moves no pair of that id behind one of another.
-/

namespace SwarmFi.Core.Scanner.Profile

open Foundation Python Compute

/-! ## The scores as rational functions -/

/-- `-5% → 0.0, 0% → 0.5, +5% → 1.0; clamped` -/
def momentumOf (pct24h : Rat) : Rat := max 0 (min 1 ((pct24h + 5) / 10))

/-- The size in ETH; a cbBTC is taken for 30. -/
def ethOf (amountWei : Rat) (inSym : String) : Rat :=
  if inSym = "cbBTC" then amountWei / 1000000000000000000 * 30
  else amountWei / 1000000000000000000

def sizeOf (eth : Rat) : Rat :=
  if 1 / 10000 ≤ eth ∧ eth ≤ 1 then 1
  else if eth < 1 / 10000 then max (30 / 100) (eth / (1 / 10000))
  else max (30 / 100) (1 / eth)

def weightOf (momentum bluechip spread size : Rat) : Rat :=
  40 / 100 * momentum + 25 / 100 * bluechip + 20 / 100 * spread +
    15 / 100 * size

def changeOf (quotes : Quotes Rat) (coingeckoId : String) : Rat :=
  quoted .fraction quotes coingeckoId "usd_24h_change"

def scoreOf (quotes : Quotes Rat) (amountWei : Rat) (pair : PairSpec Rat) :
    Rat :=
  weightOf (momentumOf (changeOf quotes pair.coingeckoId))
    pair.bluechipScore pair.spreadScore
    (sizeOf (ethOf amountWei pair.inSym))

def profileOf (quotes : Quotes Rat) (amountWei : Rat)
    (pair : PairSpec Rat) : PairScore Rat where
  pair := pair
  priceUsd := quoted .fraction quotes pair.coingeckoId "usd"
  momentum24h := changeOf quotes pair.coingeckoId
  momentum := momentumOf (changeOf quotes pair.coingeckoId)
  bluechip := pair.bluechipScore
  spread := pair.spreadScore
  sizeFit := sizeOf (ethOf amountWei pair.inSym)
  composite := scoreOf quotes amountWei pair
  signal := classifySignal .fraction (scoreOf quotes amountWei pair)

theorem minOf_fraction (first second : Rat) :
    minOf .fraction first second = min first second := by
  unfold minOf
  by_cases less : second < first
  · rw [Arithmetic.fraction_lt, decide_eq_true less, if_pos rfl,
      min_eq_right less.le]
  · rw [Arithmetic.fraction_lt, decide_eq_false less,
      min_eq_left (not_lt.mp less)]
    rfl

theorem normaliseMomentum_fraction (pct24h : Rat) :
    normaliseMomentum .fraction pct24h = .ok (momentumOf pct24h) := by
  have ten : (10 : Rat) ≠ 0 := by norm_num
  unfold normaliseMomentum momentumOf
  simp only [Arithmetic.fraction_add, Arithmetic.fraction_literal,
    Arithmetic.fraction_max, minOf_fraction, Arithmetic.fraction_div ten]
  rfl

/-- The size is positive wherever it is divided by. -/
theorem sizeFit_fraction (amountWei : Rat) (inSym : String) :
    sizeFit .fraction amountWei inSym =
      .ok (sizeOf (ethOf amountWei inSym)) := by
  have ether : (1000000000000000000 : Rat) ≠ 0 := by norm_num
  have smallest : (1 / 10000 : Rat) ≠ 0 := by norm_num
  have sized : ∀ eth : Rat,
      (if (decide (1 / 10000 ≤ eth) && decide (eth ≤ 1)) = true then
        (.ok 1 : Except Exception Rat)
      else if decide (eth < 1 / 10000) = true then
        (Arithmetic.fraction.div eth (1 / 10000)).bind fun share =>
          .ok (max (30 / 100) share)
      else
        (Arithmetic.fraction.div 1 eth).bind fun share =>
          .ok (max (30 / 100) share)) = .ok (sizeOf eth) := by
    intro eth
    unfold sizeOf
    have guard : (decide (1 / 10000 ≤ eth) && decide (eth ≤ 1)) = true ↔
        1 / 10000 ≤ eth ∧ eth ≤ 1 := by
      rw [Bool.and_eq_true, decide_eq_true_iff, decide_eq_true_iff]
    by_cases usual : 1 / 10000 ≤ eth ∧ eth ≤ 1
    · rw [if_pos (guard.mpr usual), if_pos usual]
    · rw [if_neg fun isUsual => usual (guard.mp isUsual), if_neg usual]
      by_cases small : eth < 1 / 10000
      · rw [if_pos (decide_eq_true small), if_pos small,
          Arithmetic.fraction_div smallest]
        rfl
      · have nonzero : eth ≠ 0 := by
          intro isZero
          apply small
          rw [isZero]
          norm_num
        have notSmall : ¬ decide (eth < 1 / 10000) = true := by
          rw [decide_eq_true_iff]
          exact small
        rw [if_neg notSmall, if_neg small,
          Arithmetic.fraction_div nonzero]
        rfl
  unfold sizeFit
  simp only [Arithmetic.fraction_literal, Arithmetic.fraction_mul,
    Arithmetic.fraction_le, Arithmetic.fraction_lt,
    Arithmetic.fraction_max, Arithmetic.fraction_div ether]
  exact sized (ethOf amountWei inSym)

theorem scorePair_fraction (quotes : Quotes Rat) (amountWei : Rat)
    (pair : PairSpec Rat) :
    scorePair .fraction quotes amountWei pair =
      .ok (profileOf quotes amountWei pair) := by
  unfold scorePair
  rw [sizeFit_fraction]
  simp only [normaliseMomentum_fraction]
  rfl

theorem scoreAll_fraction (quotes : Quotes Rat) (amountWei : Rat)
    (pairs : List (PairSpec Rat)) :
    scoreAll .fraction quotes amountWei pairs =
      .ok (pairs.map (profileOf quotes amountWei)) := by
  induction pairs with
  | nil => rfl
  | cons pair rest inductionHypothesis =>
      rw [scoreAll, scorePair_fraction, inductionHypothesis]
      rfl

theorem rank_fraction (scores : List (PairScore Rat)) :
    rank .fraction scores =
      scores.insertionSort fun first second =>
        second.composite ≤ first.composite := by
  unfold rank
  congr 1
  funext first second
  rw [Arithmetic.fraction_le, decide_eq_true_iff]

/-! ## Bounds -/

def InUnit (value : Rat) : Prop := 0 ≤ value ∧ value ≤ 1

theorem inUnit_momentumOf (pct24h : Rat) : InUnit (momentumOf pct24h) := by
  constructor
  · exact le_max_left _ _
  · exact max_le zero_le_one (min_le_left _ _)

theorem momentumOf_mono {pct24h other : Rat} (le : pct24h ≤ other) :
    momentumOf pct24h ≤ momentumOf other := by
  unfold momentumOf
  have ramps : (pct24h + 5) / 10 ≤ (other + 5) / 10 := by linarith
  exact max_le_max le_rfl (min_le_min le_rfl ramps)

theorem inUnit_sizeOf (eth : Rat) : InUnit (sizeOf eth) := by
  unfold sizeOf
  by_cases usual : 1 / 10000 ≤ eth ∧ eth ≤ 1
  · rw [if_pos usual]
    exact ⟨zero_le_one, le_rfl⟩
  · rw [if_neg usual]
    by_cases small : eth < 1 / 10000
    · rw [if_pos small]
      refine ⟨le_max_of_le_left (by norm_num), max_le (by norm_num) ?_⟩
      rw [div_le_one (by norm_num)]
      exact small.le
    · rw [if_neg small]
      have large : 1 < eth := by
        by_contra notLarge
        exact usual ⟨not_lt.mp small, not_lt.mp notLarge⟩
      refine ⟨le_max_of_le_left (by norm_num), max_le (by norm_num) ?_⟩
      rw [div_le_one (by linarith)]
      exact large.le

theorem inUnit_weightOf {momentum bluechip spread size : Rat}
    (momentumUnit : InUnit momentum) (bluechipUnit : InUnit bluechip)
    (spreadUnit : InUnit spread) (sizeUnit : InUnit size) :
    InUnit (weightOf momentum bluechip spread size) := by
  obtain ⟨momentumLower, momentumUpper⟩ := momentumUnit
  obtain ⟨bluechipLower, bluechipUpper⟩ := bluechipUnit
  obtain ⟨spreadLower, spreadUpper⟩ := spreadUnit
  obtain ⟨sizeLower, sizeUpper⟩ := sizeUnit
  unfold weightOf
  constructor <;> linarith

/-! ## Labels -/

/-- How strong a label is. -/
def strength (signal : String) : Nat :=
  if signal = "strong" then 2 else if signal = "medium" then 1 else 0

theorem strength_classifySignal (composite : Rat) :
    strength (classifySignal .fraction composite) =
      if 72 / 100 ≤ composite then 2
      else if 55 / 100 ≤ composite then 1 else 0 := by
  unfold classifySignal
  simp only [Arithmetic.fraction_le, Arithmetic.fraction_literal,
    decide_eq_true_iff]
  split
  · rfl
  · split <;> rfl

theorem strength_mono {composite other : Rat} (le : composite ≤ other) :
    strength (classifySignal .fraction composite) ≤
      strength (classifySignal .fraction other) := by
  rw [strength_classifySignal, strength_classifySignal]
  by_cases strong : 72 / 100 ≤ composite
  · rw [if_pos strong, if_pos (strong.trans le)]
  · rw [if_neg strong]
    by_cases otherStrong : 72 / 100 ≤ other
    · rw [if_pos otherStrong]
      split <;> decide
    · rw [if_neg otherStrong]
      by_cases medium : 55 / 100 ≤ composite
      · rw [if_pos medium, if_pos (medium.trans le)]
      · rw [if_neg medium]
        exact Nat.zero_le _

/-! ## The ranking -/

/-- The positions of the pairs in the order of the scan. -/
def scanOrder (quotes : Quotes Rat) (amountWei : Rat)
    (pairs : List (PairSpec Rat)) : List Nat :=
  match scoreAll .fraction quotes amountWei pairs with
  | .ok scores => ranking (scores.map PairScore.composite)
  | .error _ => []

structure WellRanked (quotes : Quotes Rat) (amountWei : Rat)
    (pairs : List (PairSpec Rat)) (scan : ScanResult Rat) : Prop where
  normalised : ∀ score ∈ scan.ranked, InUnit score.momentum ∧
    InUnit score.sizeFit ∧ InUnit score.composite
  permuted : (scan.ranked.map PairScore.pair).Perm pairs
  ordered : scan.ranked.map PairScore.pair =
    (scanOrder quotes amountWei pairs).filterMap (pairs[·]?)
  sorted : scan.ranked.Pairwise fun first second =>
    second.composite ≤ first.composite
  bestFirst : scan.best = scan.ranked.head?
  labelled : scan.ranked.Pairwise fun first second =>
    strength second.signal ≤ strength first.signal

/-- The 24h change of one id is greater or the same, and that of every other
id is the same. -/
structure Raised (coingeckoId : String) (quotes raised : Quotes Rat) :
    Prop where
  grows : changeOf quotes coingeckoId ≤ changeOf raised coingeckoId
  others : ∀ other, other ≠ coingeckoId →
    changeOf raised other = changeOf quotes other

theorem scanOrder_eq (quotes : Quotes Rat) (amountWei : Rat)
    (pairs : List (PairSpec Rat)) :
    scanOrder quotes amountWei pairs =
      ranking (pairs.map (scoreOf quotes amountWei)) := by
  unfold scanOrder
  rw [scoreAll_fraction]
  simp only [List.map_map]
  rfl

section Scan

variable {quotes : Quotes Rat} {amountWei : Rat}
  {pairs : List (PairSpec Rat)}

theorem ranked_eq :
    rank .fraction (pairs.map (profileOf quotes amountWei)) =
      (scanOrder quotes amountWei pairs).filterMap
        ((pairs.map (profileOf quotes amountWei))[·]?) := by
  rw [rank_fraction, insertionSort_eq_ranking, List.map_map, scanOrder_eq]
  rfl

theorem scanPairs_fraction :
    scanPairs .fraction quotes amountWei pairs =
      .ok {
        ranked := rank .fraction (pairs.map (profileOf quotes amountWei))
        best := (rank .fraction
          (pairs.map (profileOf quotes amountWei))).head? } := by
  unfold scanPairs
  rw [scoreAll_fraction]
  rfl

theorem profile_of_mem {score : PairScore Rat}
    (member : score ∈
      rank .fraction (pairs.map (profileOf quotes amountWei))) :
    ∃ pair ∈ pairs, score = profileOf quotes amountWei pair := by
  unfold rank at member
  rw [(List.perm_insertionSort _ _).mem_iff, List.mem_map] at member
  obtain ⟨pair, isPair, isScore⟩ := member
  exact ⟨pair, isPair, isScore.symm⟩

theorem sorted_rank (scores : List (PairScore Rat)) :
    (rank .fraction scores).Pairwise fun first second =>
      second.composite ≤ first.composite := by
  have total : Std.Total fun first second : PairScore Rat =>
      second.composite ≤ first.composite :=
    ⟨fun first second => le_total second.composite first.composite⟩
  have transitive : IsTrans (PairScore Rat) fun first second =>
      second.composite ≤ first.composite :=
    ⟨fun _ _ _ first second => le_trans second first⟩
  rw [rank_fraction]
  exact List.pairwise_insertionSort _ scores

theorem wellRanked
    (bluechips : ∀ pair ∈ pairs, InUnit pair.bluechipScore)
    (spreads : ∀ pair ∈ pairs, InUnit pair.spreadScore) :
    WellRanked quotes amountWei pairs {
      ranked := rank .fraction (pairs.map (profileOf quotes amountWei))
      best := (rank .fraction
        (pairs.map (profileOf quotes amountWei))).head? } where
  normalised := by
    intro score member
    obtain ⟨pair, isPair, rfl⟩ := profile_of_mem member
    have momentum := inUnit_momentumOf (changeOf quotes pair.coingeckoId)
    have size := inUnit_sizeOf (ethOf amountWei pair.inSym)
    exact ⟨momentum, size, inUnit_weightOf momentum (bluechips pair isPair)
      (spreads pair isPair) size⟩
  permuted := by
    have permuted := (List.perm_insertionSort
      (fun first second : PairScore Rat => Arithmetic.fraction.le
        second.composite first.composite = true)
      (pairs.map (profileOf quotes amountWei))).map PairScore.pair
    rw [List.map_map] at permuted
    apply permuted.trans
    have same : PairScore.pair ∘ profileOf quotes amountWei = id := rfl
    rw [same, List.map_id]
  ordered := by
    change (rank .fraction (pairs.map (profileOf quotes amountWei))).map
      PairScore.pair = _
    rw [ranked_eq, List.map_filterMap]
    apply List.filterMap_congr
    intro position _
    rw [List.getElem?_map, Option.map_map]
    cases pairs[position]? <;> rfl
  sorted := sorted_rank _
  bestFirst := rfl
  labelled := by
    apply (sorted_rank _).imp_of_mem
    intro first second isFirst isSecond le
    obtain ⟨pair, -, rfl⟩ := profile_of_mem isFirst
    obtain ⟨other, -, rfl⟩ := profile_of_mem isSecond
    exact strength_mono le

/-- A greater change of its id does not lower the score of a pair. -/
theorem scoreOf_mono {coingeckoId : String} {raised : Quotes Rat}
    (isRaised : Raised coingeckoId quotes raised) {pair : PairSpec Rat}
    (isId : pair.coingeckoId = coingeckoId) :
    scoreOf quotes amountWei pair ≤ scoreOf raised amountWei pair := by
  have momentum := momentumOf_mono isRaised.grows
  unfold scoreOf weightOf
  rw [isId]
  linarith

theorem scoreOf_eq {coingeckoId : String} {raised : Quotes Rat}
    (isRaised : Raised coingeckoId quotes raised) {pair : PairSpec Rat}
    (isOther : pair.coingeckoId ≠ coingeckoId) :
    scoreOf raised amountWei pair = scoreOf quotes amountWei pair := by
  unfold scoreOf
  rw [isRaised.others _ isOther]

/-- No pair of the raised id falls behind one of another id. -/
theorem precedes_of_raised {coingeckoId : String} {raised : Quotes Rat}
    (isRaised : Raised coingeckoId quotes raised)
    {first second : Nat} {pair other : PairSpec Rat}
    (isPair : pairs[first]? = some pair)
    (isOther : pairs[second]? = some other)
    (sameId : pair.coingeckoId = coingeckoId)
    (otherId : other.coingeckoId ≠ coingeckoId)
    (precedes : Precedes first second (scanOrder quotes amountWei pairs)) :
    Precedes first second (scanOrder raised amountWei pairs) := by
  rw [scanOrder_eq] at precedes ⊢
  refine precedes_ranking_of_raised ?_ ?_ ?_ precedes
  · rw [List.length_map, List.length_map]
  · intro key grown isKey isGrown
    rw [List.getElem?_map, isPair] at isKey isGrown
    cases isKey
    cases isGrown
    exact scoreOf_mono isRaised sameId
  · rw [List.getElem?_map, List.getElem?_map, isOther]
    exact congrArg some (scoreOf_eq isRaised otherId)

end Scan

/-- In exact arithmetic the scan is normalised, ranked and labelled, and a
greater 24h change keeps the pairs of its id before those they preceded. -/
theorem scanPairs_wellRanked
    (pairs : List (PairSpec Rat))
    (bluechips : ∀ pair ∈ pairs, InUnit pair.bluechipScore)
    (spreads : ∀ pair ∈ pairs, InUnit pair.spreadScore)
    (amountWei : Int) (quotes : Quotes Rat) :
    (∃ scan, scanPairs .fraction quotes amountWei pairs = .ok scan ∧
      WellRanked quotes amountWei pairs scan) ∧
      ∀ coingeckoId raised, Raised coingeckoId quotes raised →
        ∀ first second pair other,
          pairs[first]? = some pair → pairs[second]? = some other →
            pair.coingeckoId = coingeckoId →
              other.coingeckoId ≠ coingeckoId →
                Precedes first second (scanOrder quotes amountWei pairs) →
                  Precedes first second
                    (scanOrder raised amountWei pairs) := by
  constructor
  · exact ⟨_, scanPairs_fraction, wellRanked bluechips spreads⟩
  · intro coingeckoId raised isRaised first second pair other isPair isOther
      sameId otherId precedes
    exact precedes_of_raised isRaised isPair isOther sameId otherId precedes

/-! ## Two pairs -/

def etherPair : PairSpec Rat where
  pairId := "ETH_USDC"
  inSym := "ETH"
  outSym := "USDC"
  tokenIn := nativeEth
  tokenOut := usdc
  chainId := 8453
  coingeckoId := "ethereum"
  bluechipScore := 1
  spreadScore := 92 / 100
  label := "ETH → USDC"

def bitcoinPair : PairSpec Rat where
  pairId := "cbBTC_USDC"
  inSym := "cbBTC"
  outSym := "USDC"
  tokenIn := cbBtc
  tokenOut := usdc
  chainId := 8453
  coingeckoId := "bitcoin"
  bluechipScore := 95 / 100
  spreadScore := 85 / 100
  label := "cbBTC → USDC"

def calmQuotes : Quotes Rat :=
  [("ethereum", [("usd", 2000), ("usd_24h_change", 1)]),
    ("bitcoin", [("usd", 60000), ("usd_24h_change", 1)])]

theorem scanPairs_wellRanked_two :
    (∃ scan,
      scanPairs .fraction calmQuotes (1000000000000000 : Int)
          [etherPair, bitcoinPair] = .ok scan ∧
        WellRanked calmQuotes (1000000000000000 : Int)
          [etherPair, bitcoinPair] scan) ∧
      ∀ coingeckoId raised, Raised coingeckoId calmQuotes raised →
        ∀ first second pair other,
          [etherPair, bitcoinPair][first]? = some pair →
            [etherPair, bitcoinPair][second]? = some other →
              pair.coingeckoId = coingeckoId →
                other.coingeckoId ≠ coingeckoId →
                  Precedes first second (scanOrder calmQuotes
                    (1000000000000000 : Int) [etherPair, bitcoinPair]) →
                    Precedes first second (scanOrder raised
                      (1000000000000000 : Int) [etherPair, bitcoinPair]) :=
  scanPairs_wellRanked [etherPair, bitcoinPair]
    (by simp [InUnit, etherPair, bitcoinPair]; norm_num)
    (by simp [InUnit, etherPair, bitcoinPair]; norm_num)
    1000000000000000 calmQuotes

end SwarmFi.Core.Scanner.Profile
