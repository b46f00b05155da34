import SwarmFi.Core.Pnl

/-!
# The baseline of the profit

The notional invested is documented as the sum at entry.  It is one for every
input token that is not rescaled; the size of a cbBTC position is rescaled by
the current ETH price, and the sum moves with it.
-/

namespace SwarmFi.Core.Pnl

open Python Compute

/-! ## Finite floats -/

/-- Neither an infinity nor NaN. -/
def Finite (value : PyFloat) : Prop :=
  ∃ number, value = .fin number

theorem finite_of_add {left right : PyFloat}
    (finite : Finite (left.add right)) : Finite left ∧ Finite right := by
  obtain ⟨number, isSum⟩ := finite
  cases left <;> cases right <;> first
    | exact ⟨⟨_, rfl⟩, ⟨_, rfl⟩⟩
    | cases isSum

theorem not_finite_infinityLike (value : Rat) :
    ¬ Finite (PyFloat.infinityLike value) := by
  rintro ⟨number, isNumber⟩
  unfold PyFloat.infinityLike at isNumber
  split at isNumber
  · cases isNumber
  · split at isNumber <;> cases isNumber

theorem finite_of_mul {left right : PyFloat}
    (finite : Finite (left.mul right)) : Finite right := by
  cases right with
  | fin value => exact ⟨value, rfl⟩
  | nan =>
      obtain ⟨number, isProduct⟩ := finite
      cases left <;> cases isProduct
  | posInf =>
      cases left with
      | fin value => exact absurd finite (not_finite_infinityLike value)
      | _ =>
          obtain ⟨number, isProduct⟩ := finite
          cases isProduct
  | negInf =>
      cases left with
      | fin value => exact absurd finite (not_finite_infinityLike (-value))
      | _ =>
          obtain ⟨number, isProduct⟩ := finite
          cases isProduct

/-- An infinite price has no finite quotient. -/
theorem not_finite_div {divisor share : PyFloat}
    (isShare : PyFloat.posInf.div divisor = .ok share) : ¬ Finite share := by
  unfold PyFloat.div at isShare
  split at isShare
  · cases isShare
  · rename_i same
    cases same
  · cases isShare
    exact not_finite_infinityLike _
  · rename_i same
    cases same
  · rename_i same
    cases same
  · rename_i same
    cases same
  · cases isShare
    rintro ⟨number, isNumber⟩
    cases isNumber

theorem finite_of_round {digits : Nat} {value : PyFloat}
    (finite : Finite (value.round digits)) : Finite value := by
  cases value with
  | fin number => exact ⟨number, rfl⟩
  | _ => exact finite

/-! ## What is entered -/

/-- What the loop reads of the counted results before any price is known. -/
def enteredOf : List Dict → Except Exception (List Compared)
  | [] => .ok []
  | result :: rest => do
      let compared ← comparedOf [] result
      match compared with
      | none => enteredOf rest
      | some compared =>
          let others ← enteredOf rest
          return compared :: others

/-- The same position at current prices. -/
def Compared.valuedAt (prices : SymbolPrices) (entered : Compared) :
    Compared where
  action := entered.action
  inSym := entered.inSym
  outSym := entered.outSym
  entry := entered.entry
  current :=
    priceOr (entered.inSym.str?.bind fun symbol => prices.lookup symbol)
      entered.entry

theorem lookupPrice_eq (prices : SymbolPrices) (inSym : Json) :
    lookupPrice prices inSym =
      (lookupPrice [] inSym).map fun _ =>
        inSym.str?.bind fun symbol => prices.lookup symbol := by
  cases inSym <;> rfl

theorem compareSignal_eq (prices : SymbolPrices) (action : String)
    (signal : Dict) :
    compareSignal prices action signal =
      (compareSignal [] action signal).map
        (Option.map (Compared.valuedAt prices)) := by
  unfold compareSignal
  cases ((signal.getD "price_usd" .null).orElse (.float (.fin 0))).toFloat with
  | error error => rfl
  | ok entry =>
      simp only [bind, Except.bind]
      by_cases unpriced : entry.le (.fin 0) = true
      · rw [if_pos unpriced, if_pos unpriced]
        rfl
      · rw [if_neg unpriced, if_neg unpriced, lookupPrice_eq]
        cases lookupPrice []
            ((signal.getD "token_in_sym" .null).orElse (.str "ETH")) with
        | error error => rfl
        | ok found => rfl

/-- Whether a result counts, and at which entry, no current price decides. -/
theorem comparedOf_eq (prices : SymbolPrices) (result : Dict) :
    comparedOf prices result =
      (comparedOf [] result).map
        (Option.map (Compared.valuedAt prices)) := by
  unfold comparedOf
  cases lowered ((result.getD "action" .null).orElse (.str "")) with
  | error error => rfl
  | ok action =>
      simp only [bind, Except.bind]
      by_cases commits : action = "buy" ∨ action = "sell"
      · rw [if_pos commits, if_pos commits]
        cases ((result.getD "signal" .null).orElse (.obj [])).asDict with
        | error error => rfl
        | ok signal => exact compareSignal_eq prices action signal
      · rw [if_neg commits, if_neg commits]
        rfl

theorem entered_of_comparedOf {prices : SymbolPrices} {result : Dict}
    {compared : Compared}
    (isCompared : comparedOf prices result = .ok (some compared)) :
    ¬ compared.entry.le (.fin 0) = true := by
  unfold comparedOf at isCompared
  simp only [bind_eq_ok_iff] at isCompared
  obtain ⟨action, _, isCompared⟩ := isCompared
  by_cases commits : action = "buy" ∨ action = "sell"
  · rw [if_pos commits] at isCompared
    simp only [bind_eq_ok_iff] at isCompared
    obtain ⟨signal, _, isCompared⟩ := isCompared
    unfold compareSignal at isCompared
    simp only [bind_eq_ok_iff] at isCompared
    obtain ⟨entry, _, isCompared⟩ := isCompared
    by_cases unpriced : entry.le (.fin 0) = true
    · rw [if_pos unpriced] at isCompared
      cases isCompared
    · rw [if_neg unpriced] at isCompared
      simp only [bind_eq_ok_iff] at isCompared
      obtain ⟨found, _, isCompared⟩ := isCompared
      cases isCompared
      exact unpriced
  · rw [if_neg commits] at isCompared
    cases isCompared

/-! ## What is invested -/

/-- The rescaled commitment, where the division is one. -/
def rescaled (prices : SymbolPrices) (commitmentEth : PyFloat)
    (entry : PyFloat) : PyFloat :=
  match (ethPriceNow prices).div (entry.max tiniestPrice) with
  | .ok ratio => commitmentEth.mul ratio
  | .error _ => .nan

/-- `invested`, of a position that is entered. -/
def investedAt (prices : SymbolPrices) (commitmentEth : PyFloat)
    (entered : Compared) : PyFloat :=
  if entered.inSym.str? = some "cbBTC" ∧
      (PyFloat.fin 0).lt (ethPriceNow prices) = true then
    entered.entry.mul (rescaled prices commitmentEth entered.entry)
  else
    entered.entry.mul commitmentEth

theorem ne_zero_of_entered {entry : PyFloat}
    (entered : ¬ entry.le (.fin 0) = true) : entry ≠ .fin 0 := by
  rintro rfl
  exact entered rfl

/-- The floor under the entry price keeps the divisor from zero. -/
theorem max_tiniest_ne_zero {entry : PyFloat}
    (entered : ¬ entry.le (.fin 0) = true) :
    entry.max tiniestPrice ≠ .fin 0 := by
  have tiny : tiniestPrice ≠ .fin 0 := by decide +kernel
  unfold PyFloat.max
  split
  · exact tiny
  · exact ne_zero_of_entered entered

/-- A position that is entered is computed. -/
theorem positionOf_eq_ok (prices : SymbolPrices) (commitmentEth : PyFloat)
    (result : Dict) {compared : Compared}
    (entered : ¬ compared.entry.le (.fin 0) = true) :
    ∃ position,
      positionOf prices commitmentEth result compared = .ok position ∧
        position.invested =
          investedAt prices commitmentEth compared := by
  obtain ⟨quotient, isQuotient⟩ :=
    PyFloat.div_of_ne_zero (max_tiniest_ne_zero entered) (ethPriceNow prices)
  have sized : ∃ size,
      sizeInUnits prices commitmentEth compared = .ok size ∧
        compared.entry.mul size =
          investedAt prices commitmentEth compared := by
    unfold sizeInUnits investedAt rescaled
    split
    · rw [isQuotient]
      exact ⟨_, rfl, rfl⟩
    · exact ⟨_, rfl, rfl⟩
  obtain ⟨size, isSize, isInvested⟩ := sized
  obtain ⟨ratio, isRatio⟩ :=
    PyFloat.div_of_ne_zero (ne_zero_of_entered entered) compared.current
  obtain ⟨raw, isRaw⟩ :=
    PyFloat.div_of_ne_zero (ne_zero_of_entered entered)
      (compared.current.sub compared.entry)
  have returned : ∃ share,
      signedReturn compared.action compared.entry compared.current =
        .ok share := by
    unfold signedReturn
    rw [if_neg entered, isRaw]
    exact ⟨_, rfl⟩
  obtain ⟨share, isShare⟩ := returned
  unfold positionOf
  rw [isSize, isRatio, isShare]
  exact ⟨_, rfl, isInvested⟩

theorem map_cons_bind {α β : Type} (f : α → β) (first : α)
    (rest : Except Exception (List α)) :
    (do
      let others ← rest
      return first :: others).map (List.map f) =
      (rest.map (List.map f)).map (List.cons (f first)) := by
  cases rest <;> rfl

/-- The positions are those of the entered results, each with what it
invests. -/
theorem positionsOf_invested
    (prices : SymbolPrices) (commitmentEth : PyFloat)
    (results : List Dict) :
    (positionsOf prices commitmentEth results).map
        (List.map Position.invested) =
      (enteredOf results).map
        (List.map (investedAt prices commitmentEth)) := by
  induction results with
  | nil => rfl
  | cons result rest inductionHypothesis =>
      unfold positionsOf enteredOf
      rw [comparedOf_eq]
      cases isCompared : comparedOf [] result with
      | error error => rfl
      | ok compared =>
          cases compared with
          | none => exact inductionHypothesis
          | some compared =>
              have entered : ¬ (compared.valuedAt prices).entry.le
                  (.fin 0) = true := @entered_of_comparedOf [] result
                    compared isCompared
              obtain ⟨position, isPosition, isInvested⟩ :=
                positionOf_eq_ok prices commitmentEth result entered
              have sameInvested :
                  investedAt prices commitmentEth
                      (compared.valuedAt prices) =
                    investedAt prices commitmentEth compared := rfl
              change ((positionOf prices commitmentEth result
                  (compared.valuedAt prices)).bind _).map _ = _
              rw [isPosition]
              apply (map_cons_bind Position.invested position _).trans
              rw [inductionHypothesis, isInvested, sameInvested]
              exact (map_cons_bind (investedAt prices commitmentEth)
                compared _).symm

/-! ## The summary -/

theorem percentage_eq_ok (digits : Nat) (part whole : PyFloat) :
    ∃ share, percentage digits part whole = .ok share := by
  unfold percentage
  by_cases isZero : whole = .fin 0
  · rw [if_pos isZero]
    exact ⟨_, rfl⟩
  · rw [if_neg isZero]
    obtain ⟨share, isShare⟩ := PyFloat.div_of_ne_zero isZero part
    rw [isShare]
    exact ⟨_, rfl⟩

/-- Beside the number of results, the summary is one of the positions. -/
theorem computePnl_eq_ok {prices : SymbolPrices} {commitmentEth : PyFloat}
    {results : List Dict} {positions : List Position}
    (isList : positionsOf prices commitmentEth results = .ok positions) :
    ∃ summary, computePnl results prices commitmentEth = .ok summary ∧
      summary.cyclesApproved = positions.length ∧
      summary.notionalInvestedUsd =
        (total Position.invested positions).round 4 := by
  obtain ⟨winRate, isRate⟩ := percentage_eq_ok 1
    (.ofInt (positions.countP fun position =>
      (PyFloat.fin 0).lt position.perCycle)) (.ofInt positions.length)
  obtain ⟨netPct, isPct⟩ := percentage_eq_ok 3
    ((total Position.valueNow positions).sub
      (total Position.invested positions))
    (total Position.invested positions)
  unfold computePnl
  rw [isList]
  simp only [bind, Except.bind]
  rw [isRate]
  simp only
  rw [isPct]
  exact ⟨_, rfl, rfl, rfl⟩

/-- `notional_in` over the entered results. -/
def notionalAt (prices : SymbolPrices) (commitmentEth : PyFloat)
    (entered : List Compared) : PyFloat :=
  (entered.map (investedAt prices commitmentEth)).foldl PyFloat.add (.fin 0)

theorem notional_eq (prices : SymbolPrices) (commitmentEth : PyFloat)
    (results : List Dict) :
    (computePnl results prices commitmentEth).map
        PnLSummary.notionalInvestedUsd =
      (enteredOf results).map fun entered =>
        (notionalAt prices commitmentEth entered).round 4 := by
  have rows := positionsOf_invested prices commitmentEth results
  cases isList : positionsOf prices commitmentEth results with
  | error error =>
      rw [isList] at rows
      have raises : computePnl results prices commitmentEth =
          .error error := by
        unfold computePnl
        rw [isList]
        rfl
      rw [raises]
      cases isEntered : enteredOf results with
      | error other =>
          rw [isEntered] at rows
          cases rows
          rfl
      | ok entered =>
          rw [isEntered] at rows
          cases rows
  | ok positions =>
      rw [isList] at rows
      obtain ⟨summary, isSummary, -, isNotional⟩ := computePnl_eq_ok isList
      rw [isSummary]
      cases isEntered : enteredOf results with
      | error other =>
          rw [isEntered] at rows
          cases rows
      | ok entered =>
          rw [isEntered] at rows
          have same : positions.map Position.invested =
              entered.map (investedAt prices commitmentEth) :=
            Except.ok.inj rows
          have sum : total Position.invested positions =
              notionalAt prices commitmentEth entered := by
            unfold total notionalAt
            rw [← same, List.foldl_map]
          change Except.ok summary.notionalInvestedUsd =
            Except.ok ((notionalAt prices commitmentEth entered).round 4)
          rw [isNotional, sum]

/-! ## Prices and the baseline -/

/-- The notional invested is the same under any two maps of prices. -/
def PriceFree (results : List Dict) (commitmentEth : PyFloat) : Prop :=
  ∀ prices others : SymbolPrices,
    (computePnl results prices commitmentEth).map
        PnLSummary.notionalInvestedUsd =
      (computePnl results others commitmentEth).map
        PnLSummary.notionalInvestedUsd

/-- No counted result is one of cbBTC. -/
def NoBitcoin (results : List Dict) : Prop :=
  ∀ entered, enteredOf results = .ok entered →
    ∀ compared ∈ entered, compared.inSym.str? ≠ some "cbBTC"

/-- The sum at entry: each entry price times the commitment. -/
def sumAtEntry (commitmentEth : PyFloat) (entered : List Compared) :
    PyFloat :=
  (entered.map fun compared => compared.entry.mul commitmentEth).foldl
    PyFloat.add (.fin 0)

/-- The sum at entry is a number. -/
def FiniteAtEntry (results : List Dict) (commitmentEth : PyFloat) : Prop :=
  ∀ entered, enteredOf results = .ok entered →
    Finite ((sumAtEntry commitmentEth entered).round 4)

/-- Only the ETH price, of all current prices, moves the baseline. -/
theorem notionalAt_congr {prices others : SymbolPrices}
    (sameEth : ethPriceNow prices = ethPriceNow others)
    (commitmentEth : PyFloat) (entered : List Compared) :
    notionalAt prices commitmentEth entered =
      notionalAt others commitmentEth entered := by
  have sameInvested : investedAt prices commitmentEth =
      investedAt others commitmentEth := by
    funext compared
    unfold investedAt rescaled
    rw [sameEth]
  unfold notionalAt
  rw [sameInvested]

theorem notionalAt_of_noBitcoin {entered : List Compared}
    (noBitcoin : ∀ compared ∈ entered,
      compared.inSym.str? ≠ some "cbBTC")
    (prices : SymbolPrices) (commitmentEth : PyFloat) :
    notionalAt prices commitmentEth entered =
      sumAtEntry commitmentEth entered := by
  have unscaled : ∀ compared ∈ entered,
      investedAt prices commitmentEth compared =
        compared.entry.mul commitmentEth := by
    intro compared member
    apply if_neg
    intro isScaled
    exact noBitcoin compared member isScaled.1
  unfold notionalAt sumAtEntry
  rw [List.map_congr_left unscaled]

/-- Without prices nothing is rescaled. -/
theorem notionalAt_nil (commitmentEth : PyFloat)
    (entered : List Compared) :
    notionalAt [] commitmentEth entered =
      sumAtEntry commitmentEth entered := by
  have unscaled : ∀ compared ∈ entered,
      investedAt [] commitmentEth compared =
        compared.entry.mul commitmentEth := by
    intro compared _
    apply if_neg
    intro isScaled
    exact absurd isScaled.2 (by decide)
  unfold notionalAt sumAtEntry
  rw [List.map_congr_left unscaled]

/-- In a finite sum every summand is finite. -/
theorem finite_of_foldl_add {summands : List PyFloat} {start : PyFloat}
    (finite : Finite (summands.foldl PyFloat.add start)) :
    Finite start ∧ ∀ summand ∈ summands, Finite summand := by
  induction summands generalizing start with
  | nil => exact ⟨finite, fun _ member => absurd member List.not_mem_nil⟩
  | cons first rest inductionHypothesis =>
      obtain ⟨partial_, others⟩ := inductionHypothesis finite
      obtain ⟨startFinite, firstFinite⟩ := finite_of_add partial_
      refine ⟨startFinite, ?_⟩
      rw [List.forall_mem_cons]
      exact ⟨firstFinite, others⟩

/-- An ETH price beyond every float. -/
def endlessEth : SymbolPrices := [("ETH", .posInf)]

theorem not_finite_investedAt (commitmentEth : PyFloat)
    {compared : Compared} (isBitcoin : compared.inSym.str? = some "cbBTC") :
    ¬ Finite (investedAt endlessEth commitmentEth compared) := by
  intro finite
  have isScaled : compared.inSym.str? = some "cbBTC" ∧
      (PyFloat.fin 0).lt (ethPriceNow endlessEth) = true :=
    ⟨isBitcoin, by decide⟩
  unfold investedAt at finite
  rw [if_pos isScaled] at finite
  have sizeFinite := finite_of_mul finite
  unfold rescaled at sizeFinite
  split at sizeFinite
  · next ratio isRatio =>
      exact not_finite_div isRatio (finite_of_mul sizeFinite)
  · obtain ⟨number, isNumber⟩ := sizeFinite
    cases isNumber

theorem priceFree_of_noBitcoin {results : List Dict}
    (noBitcoin : NoBitcoin results) (commitmentEth : PyFloat) :
    PriceFree results commitmentEth := by
  intro prices others
  rw [notional_eq, notional_eq]
  cases isEntered : enteredOf results with
  | error error => rfl
  | ok entered =>
      have none_ := noBitcoin entered isEntered
      simp only [Except.map, notionalAt_of_noBitcoin none_]

theorem noBitcoin_of_priceFree {results : List Dict}
    {commitmentEth : PyFloat}
    (finite : FiniteAtEntry results commitmentEth)
    (priceFree : PriceFree results commitmentEth) :
    NoBitcoin results := by
  intro entered isEntered compared member isBitcoin
  have same := priceFree [] endlessEth
  rw [notional_eq, notional_eq, isEntered] at same
  have sameSum : (notionalAt [] commitmentEth entered).round 4 =
      (notionalAt endlessEth commitmentEth entered).round 4 :=
    Except.ok.inj same
  rw [notionalAt_nil] at sameSum
  have sumFinite := finite entered isEntered
  rw [sameSum] at sumFinite
  have summands := (finite_of_foldl_add (finite_of_round sumFinite)).2
  exact not_finite_investedAt commitmentEth isBitcoin
    (summands _ (List.mem_map_of_mem member))

/-- The baseline is one of the past where no counted result is one of cbBTC,
and only there, as long as the sum at entry is a number. -/
theorem priceFree_iff (results : List Dict) (commitmentEth : PyFloat) :
    (NoBitcoin results → PriceFree results commitmentEth) ∧
      (FiniteAtEntry results commitmentEth →
        (PriceFree results commitmentEth ↔ NoBitcoin results)) := by
  constructor
  · intro noBitcoin
    exact priceFree_of_noBitcoin noBitcoin commitmentEth
  · intro finite
    constructor
    · exact noBitcoin_of_priceFree finite
    · intro noBitcoin
      exact priceFree_of_noBitcoin noBitcoin commitmentEth

/-- A cbBTC result bought at 60000. -/
def bitcoinBuy : Dict :=
  [("action", .str "buy"),
    ("signal", .obj
      [("token_in_sym", .str "cbBTC"), ("token_out_sym", .str "USDC"),
        ("price_usd", .float (.fin 60000))])]

theorem bitcoin_baseline_moves :
    ¬ ∀ results commitmentEth, PriceFree results commitmentEth := by
  intro always
  have same := congrArg Except.toOption
    (always [bitcoinBuy] (PyFloat.ofRat (1 / 10000))
      [("ETH", .fin 2000)] [("ETH", .fin 4000)])
  revert same
  decide +kernel

end SwarmFi.Core.Pnl
