import SwarmFi.Core.Pnl.Baseline

/-!
# The cycles that count

A result counts when its action is a buy or a sell and its price is positive.
A HOLD never does.  A result whose commitment failed has the action of its
decision beside the error, and counts like one that was committed.
-/

namespace SwarmFi.Core.Pnl

open Python Compute

/-! ## Held, failed and committed results -/

def isHeld (result : Dict) : Bool :=
  match result.get? "action" with
  | some (.str action) => action == "hold"
  | _ => false

def isFailed (result : Dict) : Bool :=
  result.has "error"

/-- The list with the HOLD and the failed results removed. -/
def committedOnly (results : List Dict) : List Dict :=
  results.filter fun result => !isHeld result && !isFailed result

/-- The loop passes over a result: no buy or sell, or no positive price. -/
def PassedOver (result : Dict) : Prop :=
  comparedOf [] result = .ok none

/-- The price of a result is no number, or its symbol is no key. -/
def Unreadable (result : Dict) : Prop :=
  ∃ exc, comparedOf [] result = .error exc

def isCounted (result : Dict) : Bool :=
  match comparedOf [] result with
  | .ok (some _) => true
  | _ => false

/-- All that a summary says but the number of all results. -/
def PnLSummary.figures (summary : PnLSummary) : PnLSummary :=
  { summary with cyclesTotal := 0 }

@[simp]
theorem PnLSummary.figures_cyclesApproved (summary : PnLSummary) :
    summary.figures.cyclesApproved = summary.cyclesApproved := rfl

/-- The figures are those of the committed results. -/
def SameFigures (results : List Dict) (prices : SymbolPrices)
    (commitmentEth : PyFloat) : Prop :=
  (computePnl results prices commitmentEth).toOption.map
      PnLSummary.figures =
    (computePnl (committedOnly results) prices
      commitmentEth).toOption.map PnLSummary.figures

theorem isHeld_iff (result : Dict) :
    isHeld result = true ↔ result.get? "action" = some (.str "hold") := by
  unfold isHeld
  split
  · next action isAction => simp [isAction]
  · next noText =>
      constructor
      · intro isTrue
        cases isTrue
      · intro isAction
        exact absurd isAction (noText "hold")

theorem passedOver_of_isHeld {result : Dict}
    (held : isHeld result = true) : PassedOver result := by
  have isAction := (isHeld_iff result).mp held
  have action : lowered ((result.getD "action" .null).orElse (.str "")) =
      .ok "hold" := by
    rw [Dict.getD, isAction]
    decide
  unfold PassedOver comparedOf
  have neither : ¬ ("hold" = "buy" ∨ "hold" = "sell") := by decide
  rw [action]
  simp only [bind, Except.bind]
  rw [if_neg neither]
  rfl

/-! ## The positions of a list -/

/-- A result that is passed over makes no difference. -/
theorem positionsOf_filter {keep : Dict → Bool} {results : List Dict}
    (passed : ∀ result ∈ results, keep result = false → PassedOver result)
    (prices : SymbolPrices) (commitmentEth : PyFloat) :
    positionsOf prices commitmentEth (results.filter keep) =
      positionsOf prices commitmentEth results := by
  induction results with
  | nil => rfl
  | cons result rest inductionHypothesis =>
      rw [List.forall_mem_cons] at passed
      have same := inductionHypothesis passed.2
      by_cases kept : keep result = true
      · rw [List.filter_cons_of_pos kept, positionsOf, positionsOf, same]
      · rw [List.filter_cons_of_neg kept, same, positionsOf,
          comparedOf_eq, passed.1 (Bool.eq_false_iff.mpr kept)]
        rfl

/-- The positions exist where every result is readable, one for each that
counts. -/
theorem positionsOf_eq_ok {results : List Dict}
    (readable : ∀ result ∈ results, ¬ Unreadable result)
    (prices : SymbolPrices) (commitmentEth : PyFloat) :
    ∃ positions, positionsOf prices commitmentEth results = .ok positions ∧
      positions.length = results.countP isCounted := by
  induction results with
  | nil => exact ⟨[], rfl, rfl⟩
  | cons result rest inductionHypothesis =>
      rw [List.forall_mem_cons] at readable
      obtain ⟨positions, areRest, count⟩ := inductionHypothesis readable.2
      rw [List.countP_cons, positionsOf, comparedOf_eq, areRest]
      cases isCompared : comparedOf [] result with
      | error exc => exact absurd ⟨exc, isCompared⟩ readable.1
      | ok compared =>
          cases compared with
          | none =>
              have skipped : isCounted result = false := by
                rw [isCounted, isCompared]
              rw [skipped]
              exact ⟨positions, rfl, count⟩
          | some compared =>
              have counted : isCounted result = true := by
                rw [isCounted, isCompared]
              have entered : ¬ (compared.valuedAt prices).entry.le
                  (.fin 0) = true :=
                @entered_of_comparedOf [] result compared isCompared
              obtain ⟨position, isPosition, -⟩ :=
                positionOf_eq_ok prices commitmentEth result entered
              refine ⟨position :: positions, ?_, ?_⟩
              · simp only [bind, Except.bind, Except.map, Option.map]
                rw [isPosition]
                rfl
              · rw [List.length_cons, count, counted]
                rfl

/-- One unreadable result, and there is no list of positions. -/
theorem readable_of_positions {prices : SymbolPrices}
    {commitmentEth : PyFloat} {results : List Dict}
    {positions : List Position}
    (isList : positionsOf prices commitmentEth results = .ok positions) :
    ∀ result ∈ results, ¬ Unreadable result := by
  induction results generalizing positions with
  | nil => exact fun _ member => absurd member List.not_mem_nil
  | cons result rest inductionHypothesis =>
      rw [List.forall_mem_cons]
      simp only [positionsOf, bind_eq_ok_iff] at isList
      obtain ⟨compared, isCompared, isList⟩ := isList
      constructor
      · rintro ⟨exc, raises⟩
        rw [comparedOf_eq, raises] at isCompared
        cases isCompared
      · cases compared with
        | none => exact inductionHypothesis isList
        | some compared =>
            simp only [bind_eq_ok_iff] at isList
            obtain ⟨_, _, others, areOthers, _⟩ := isList
            exact inductionHypothesis areOthers

/-! ## The figures of a list -/

theorem figures_congr {first second : List Dict} {prices : SymbolPrices}
    {commitmentEth : PyFloat}
    (same : positionsOf prices commitmentEth first =
      positionsOf prices commitmentEth second) :
    (computePnl first prices commitmentEth).toOption.map
        PnLSummary.figures =
      (computePnl second prices commitmentEth).toOption.map
        PnLSummary.figures := by
  unfold computePnl
  rw [same]
  cases positionsOf prices commitmentEth second with
  | error exc => rfl
  | ok positions =>
      simp only [bind, Except.bind]
      cases percentage 1 (.ofInt (positions.countP fun position =>
          (PyFloat.fin 0).lt position.perCycle))
          (.ofInt positions.length) with
      | error exc => rfl
      | ok winRate =>
          cases percentage 3
              ((total Position.valueNow positions).sub
                (total Position.invested positions))
              (total Position.invested positions) with
          | error exc => rfl
          | ok netPct => rfl

/-- What a readable list approves. -/
theorem approved_of_readable {results : List Dict}
    (readable : ∀ result ∈ results, ¬ Unreadable result)
    (prices : SymbolPrices) (commitmentEth : PyFloat) :
    ∃ summary,
      computePnl results prices commitmentEth = .ok summary ∧
        summary.cyclesApproved = results.countP isCounted := by
  obtain ⟨positions, areList, count⟩ :=
    positionsOf_eq_ok readable prices commitmentEth
  obtain ⟨summary, isSummary, isCount, -⟩ := computePnl_eq_ok areList
  exact ⟨summary, isSummary, isCount.trans count⟩

theorem readable_of_summary {prices : SymbolPrices}
    {commitmentEth : PyFloat} {results : List Dict}
    {summary : PnLSummary}
    (isSummary : computePnl results prices commitmentEth = .ok summary) :
    ∀ result ∈ results, ¬ Unreadable result := by
  cases areList : positionsOf prices commitmentEth results with
  | error exc =>
      unfold computePnl at isSummary
      rw [areList] at isSummary
      cases isSummary
  | ok positions => exact readable_of_positions areList

theorem computePnl_of_unreadable {results : List Dict} {result : Dict}
    (member : result ∈ results) (unreadable : Unreadable result)
    (prices : SymbolPrices) (commitmentEth : PyFloat) :
    (computePnl results prices commitmentEth).toOption = none := by
  cases isSummary : computePnl results prices commitmentEth with
  | error exc => rfl
  | ok summary =>
      exact absurd unreadable
        (readable_of_summary isSummary result member)

theorem passedOver_of_readable {result : Dict}
    (readable : ¬ Unreadable result) (uncounted : ¬ isCounted result = true) :
    PassedOver result := by
  unfold isCounted at uncounted
  cases isCompared : comparedOf [] result with
  | error exc => exact absurd ⟨exc, isCompared⟩ readable
  | ok compared =>
      cases compared with
      | none => exact isCompared
      | some compared =>
          rw [isCompared] at uncounted
          exact absurd rfl uncounted

/-- What is removed without a change of the count was not counted. -/
theorem not_isCounted_of_countP {keep : Dict → Bool} {results : List Dict}
    (counts : results.countP isCounted =
      (results.filter keep).countP isCounted)
    {result : Dict} (member : result ∈ results)
    (removed : keep result = false) : ¬ isCounted result = true := by
  have split := List.countP_eq_countP_filter_add results isCounted keep
  have noneRemoved :
      (results.filter fun result => !keep result).countP isCounted = 0 := by
    omega
  have inRemoved : result ∈ results.filter fun result => !keep result := by
    rw [List.mem_filter]
    exact ⟨member, by rw [removed]; rfl⟩
  exact List.countP_eq_zero.mp noneRemoved result inRemoved

/-- The figures are those of the committed results exactly when the loop
passes over every failed one, or when a committed one cannot be read. -/
theorem sameFigures_iff (results : List Dict) (prices : SymbolPrices)
    (commitmentEth : PyFloat) :
    SameFigures results prices commitmentEth ↔
      (∃ result ∈ committedOnly results, Unreadable result) ∨
        ∀ result ∈ results, isFailed result = true →
          PassedOver result := by
  have kept : ∀ result ∈ committedOnly results, result ∈ results :=
    fun result member => List.mem_of_mem_filter member
  constructor
  · intro same
    by_cases unreadable : ∃ result ∈ committedOnly results,
        Unreadable result
    · exact Or.inl unreadable
    · right
      have readable : ∀ result ∈ committedOnly results,
          ¬ Unreadable result := fun result member isUnreadable =>
        unreadable ⟨result, member, isUnreadable⟩
      obtain ⟨summary, isSummary, isCount⟩ :=
        approved_of_readable readable prices commitmentEth
      rw [SameFigures, isSummary] at same
      cases isWhole : computePnl results prices commitmentEth with
      | error exc =>
          rw [isWhole] at same
          cases same
      | ok whole =>
          have allReadable := readable_of_summary isWhole
          obtain ⟨other, isOther, isAll⟩ :=
            approved_of_readable allReadable prices commitmentEth
          rw [isOther] at same
          have sameFigures : other.figures = summary.figures :=
            Option.some.inj same
          have counts : other.figures.cyclesApproved =
              summary.figures.cyclesApproved :=
            congrArg PnLSummary.cyclesApproved sameFigures
          rw [PnLSummary.figures_cyclesApproved,
            PnLSummary.figures_cyclesApproved] at counts
          rw [isAll, isCount] at counts
          intro result member failed
          apply passedOver_of_readable (allReadable result member)
          apply not_isCounted_of_countP counts member
          simp [failed]
  · rintro (⟨result, member, unreadable⟩ | passed)
    · unfold SameFigures
      rw [computePnl_of_unreadable (kept result member) unreadable,
        computePnl_of_unreadable member unreadable]
    · apply figures_congr
      apply (positionsOf_filter _ prices commitmentEth).symm
      intro result member removed
      by_cases held : isHeld result = true
      · exact passedOver_of_isHeld held
      · apply passed result member
        simpa [held] using removed

/-- The commitment of a buy at 2000 has failed. -/
def failedBuy : Dict :=
  [("cycle", .int 1), ("action", .str "buy"), ("risk", .float (.fin 3)),
    ("error", .str "KeeperHub execution failed"),
    ("confidence", .float (.fin 1)), ("reasoning", .str "momentum"),
    ("signal", .obj
      [("token_in_sym", .str "ETH"), ("token_out_sym", .str "USDC"),
        ("price_usd", .float (.fin 2000))])]

theorem failed_buy_counts :
    ¬ ∀ results prices commitmentEth,
      SameFigures results prices commitmentEth := by
  intro always
  have same := congrArg (Option.map PnLSummary.cyclesApproved)
    (always [failedBuy] [("ETH", .fin 2500)] (.fin 1))
  revert same
  decide +kernel

end SwarmFi.Core.Pnl
