import SwarmFi.Core.Pnl
import SwarmFi.Python.Arithmetic

/-!
# The roll-up over any arithmetic

`compute_pnl` as the loop it is: one pass that skips what was not committed and
adds every other result to four accumulators.  Over binary64 it is the summary
of `Core.Pnl`; what it means is a question about the exact arithmetic.
-/

namespace SwarmFi.Core.Pnl.RollUp

open Python Compute

/-- `current_prices_by_sym` -/
abbrev SymbolPrices (Number : Type) := List (String × Number)

/-- What the loop keeps of a counted result. -/
structure Row (Number : Type) where
  action : String
  inSym : Json
  outSym : Json
  entry : Number
  current : Number
  invested : Number
  valueNow : Number
  perCycle : Number
  pnlUsd : Number
  pnlPct : Number
  cycle : Json
  tx : Json

/-- The accumulators of the loop; of `approved` only the length is read. -/
structure Tally (Number : Type) where
  approved : Nat
  won : Nat
  notionalIn : Number
  notionalNow : Number
  perCyclePnl : List (Row Number)

structure Summary (Number : Type) where
  cyclesTotal : Nat
  cyclesApproved : Nat
  cyclesWon : Nat
  winRatePct : Number
  notionalInvestedUsd : Number
  notionalValueNowUsd : Number
  netPnlUsd : Number
  netPnlPct : Number
  bestCycle : Option (Row Number)
  worstCycle : Option (Row Number)

variable {Number : Type} (arithmetic : Arithmetic Number)

/-! ## One result -/

/-- `prices.get(symbol)`; a list or a dict is no key. -/
def lookupPrice (prices : SymbolPrices Number) :
    Json → Except Exception (Option Number)
  | .str symbol => .ok (prices.lookup symbol)
  | .arr _ => .error ⟨.typeError, "unhashable type: 'list'"⟩
  | .obj _ => .error ⟨.typeError, "unhashable type: 'dict'"⟩
  | _ => .ok none

/-- `price or other` -/
def priceOr (price : Option Number) (other : Number) : Number :=
  match price with
  | none => other
  | some value => if arithmetic.isZero value then other else value

/-- `float(prices.get("ETH") or prices.get("WETH") or 0.0)` -/
def ethPriceNow (prices : SymbolPrices Number) : Number :=
  priceOr arithmetic (prices.lookup "ETH")
    (priceOr arithmetic (prices.lookup "WETH") (arithmetic.literal 0))

/-- The commitment in units of the input token: cbBTC is rescaled. -/
def sizeInUnits
    (prices : SymbolPrices Number) (commitmentEth : Number) (inSym : Json)
    (entry : Number) : Except Exception Number :=
  let eth := ethPriceNow arithmetic prices
  if inSym.str? = some "cbBTC" ∧
      arithmetic.lt (arithmetic.literal 0) eth = true then do
    let ratio ← arithmetic.div eth
      (arithmetic.max entry (arithmetic.literal (1 / 1000000000)))
    return arithmetic.mul commitmentEth ratio
  else
    return commitmentEth

/-- Direction-aware return on a single position. -/
def signedReturn (action : String) (entry current : Number) :
    Except Exception Number :=
  if arithmetic.le entry (arithmetic.literal 0) then
    return arithmetic.literal 0
  else do
    let raw ← arithmetic.div (arithmetic.sub current entry) entry
    return if action = "sell" then arithmetic.neg raw else raw

/-- SELL means short: profit when the price falls. -/
def valueNow
    (action : String) (entry current invested size : Number) :
    Except Exception Number :=
  if action = "sell" then do
    let ratio ← arithmetic.div current entry
    return arithmetic.mul invested
      (arithmetic.sub (arithmetic.literal 2) ratio)
  else
    return arithmetic.mul current size

def rowOf
    (prices : SymbolPrices Number) (commitmentEth : Number)
    (result : Dict) (action : String) (inSym outSym : Json)
    (entry : Number) : Except Exception (Row Number) := do
  let size ← sizeInUnits arithmetic prices commitmentEth inSym entry
  let found ← lookupPrice prices inSym
  let current := priceOr arithmetic found entry
  let invested := arithmetic.mul entry size
  let value ← valueNow arithmetic action entry current invested size
  let share ← signedReturn arithmetic action entry current
  let perCycle := arithmetic.sub value invested
  return {
    action := action
    inSym := inSym
    outSym := outSym
    entry := entry
    current := current
    invested := invested
    valueNow := value
    perCycle := perCycle
    pnlUsd := arithmetic.round 4 perCycle
    pnlPct :=
      arithmetic.round 3 (arithmetic.mul share (arithmetic.literal 100))
    cycle := result.getD "cycle" .null
    tx := result.getD "tx" .null }

/-- The row of a result; none where the loop skips it. -/
def countedRow
    (prices : SymbolPrices Number) (commitmentEth : Number)
    (result : Dict) : Except Exception (Option (Row Number)) := do
  let action ← lowered ((result.getD "action" .null).orElse (.str ""))
  if action = "buy" ∨ action = "sell" then
    let signal ← ((result.getD "signal" .null).orElse (.obj [])).asDict
    let inSym := (signal.getD "token_in_sym" .null).orElse (.str "ETH")
    let outSym := (signal.getD "token_out_sym" .null).orElse (.str "USDC")
    let entry ← arithmetic.ofJson
      ((signal.getD "price_usd" .null).orElse (.float (.fin 0)))
    if arithmetic.le entry (arithmetic.literal 0) then
      return none
    else
      let row ←
        rowOf arithmetic prices commitmentEth result action inSym outSym entry
      return some row
  else
    return none

/-! ## The loop -/

def Tally.add (tally : Tally Number) (row : Row Number) : Tally Number where
  approved := tally.approved + 1
  won :=
    if arithmetic.lt (arithmetic.literal 0) row.perCycle then
      tally.won + 1
    else
      tally.won
  notionalIn := arithmetic.add tally.notionalIn row.invested
  notionalNow := arithmetic.add tally.notionalNow row.valueNow
  perCyclePnl := tally.perCyclePnl ++ [row]

def countResult
    (prices : SymbolPrices Number) (commitmentEth : Number)
    (tally : Tally Number) (result : Dict) :
    Except Exception (Tally Number) := do
  let counted ← countedRow arithmetic prices commitmentEth result
  match counted with
  | none => return tally
  | some row => return tally.add arithmetic row

def emptyTally : Tally Number where
  approved := 0
  won := 0
  notionalIn := arithmetic.literal 0
  notionalNow := arithmetic.literal 0
  perCyclePnl := []

def tallyResults
    (prices : SymbolPrices Number) (commitmentEth : Number)
    (results : List Dict) : Except Exception (Tally Number) :=
  results.foldlM (countResult arithmetic prices commitmentEth)
    (emptyTally arithmetic)

/-! ## The summary -/

/-- The first row whose profit no other one exceeds. -/
def bestOf : List (Row Number) → Option (Row Number)
  | [] => none
  | first :: rest =>
      some (rest.foldl
        (fun best row =>
          if arithmetic.lt best.perCycle row.perCycle then row else best)
        first)

/-- The first row whose profit no other one is below. -/
def worstOf : List (Row Number) → Option (Row Number)
  | [] => none
  | first :: rest =>
      some (rest.foldl
        (fun worst row =>
          if arithmetic.lt row.perCycle worst.perCycle then row else worst)
        first)

/-- `round(part / whole * 100, digits)`, 0 for an empty whole. -/
def percentage (digits : Nat) (part whole : Number) :
    Except Exception Number :=
  if arithmetic.isZero whole then
    return arithmetic.literal 0
  else do
    let share ← arithmetic.div part whole
    return arithmetic.round digits
      (arithmetic.mul share (arithmetic.literal 100))

def summarize (cyclesTotal : Nat) (tally : Tally Number) :
    Except Exception (Summary Number) := do
  let winRate ← percentage arithmetic 1 (arithmetic.ofInt tally.won)
    (arithmetic.ofInt tally.approved)
  let netUsd := arithmetic.sub tally.notionalNow tally.notionalIn
  let netPct ← percentage arithmetic 3 netUsd tally.notionalIn
  return {
    cyclesTotal := cyclesTotal
    cyclesApproved := tally.approved
    cyclesWon := tally.won
    winRatePct := winRate
    notionalInvestedUsd := arithmetic.round 4 tally.notionalIn
    notionalValueNowUsd := arithmetic.round 4 tally.notionalNow
    netPnlUsd := arithmetic.round 4 netUsd
    netPnlPct := netPct
    bestCycle := bestOf arithmetic tally.perCyclePnl
    worstCycle := worstOf arithmetic tally.perCyclePnl }

def computePnl
    (results : List Dict) (currentPricesBySym : SymbolPrices Number)
    (commitmentEth : Number) : Except Exception (Summary Number) := do
  let tally ← tallyResults arithmetic currentPricesBySym commitmentEth results
  summarize arithmetic results.length tally

/-! ## The loop as one pass over the rows -/

/-- The rows of the counted results, in their order. -/
def rowsOf
    (prices : SymbolPrices Number) (commitmentEth : Number) :
    List Dict → Except Exception (List (Row Number))
  | [] => .ok []
  | result :: rest => do
      let counted ← countedRow arithmetic prices commitmentEth result
      match counted with
      | none => rowsOf prices commitmentEth rest
      | some row =>
          let rows ← rowsOf prices commitmentEth rest
          return row :: rows

/-- Whether a row made money. -/
def Row.isWon (row : Row Number) : Bool :=
  arithmetic.lt (arithmetic.literal 0) row.perCycle

def sumFrom
    (amount : Row Number → Number) (start : Number)
    (rows : List (Row Number)) : Number :=
  rows.foldl (fun sum row => arithmetic.add sum (amount row)) start

theorem foldl_add (rows : List (Row Number)) (tally : Tally Number) :
    rows.foldl (Tally.add arithmetic) tally = {
      approved := tally.approved + rows.length
      won := tally.won + rows.countP (Row.isWon arithmetic)
      notionalIn := sumFrom arithmetic Row.invested tally.notionalIn rows
      notionalNow := sumFrom arithmetic Row.valueNow tally.notionalNow rows
      perCyclePnl := tally.perCyclePnl ++ rows } := by
  induction rows generalizing tally with
  | nil => simp [sumFrom]
  | cons row rest inductionHypothesis =>
      rw [List.foldl_cons, inductionHypothesis]
      by_cases won : Row.isWon arithmetic row = true
      · have counts : arithmetic.lt (arithmetic.literal 0) row.perCycle =
            true := won
        simp [Tally.add, sumFrom, won, counts]
        omega
      · have counts : ¬ arithmetic.lt (arithmetic.literal 0) row.perCycle =
            true := won
        simp [Tally.add, sumFrom, won, counts]
        omega

theorem foldlM_countResult
    (prices : SymbolPrices Number) (commitmentEth : Number)
    (results : List Dict) (tally : Tally Number) :
    results.foldlM (countResult arithmetic prices commitmentEth) tally =
      (rowsOf arithmetic prices commitmentEth results).map fun rows =>
        rows.foldl (Tally.add arithmetic) tally := by
  induction results generalizing tally with
  | nil => rfl
  | cons result rest inductionHypothesis =>
      rw [List.foldlM_cons]
      unfold countResult rowsOf
      cases countedRow arithmetic prices commitmentEth result with
      | error error => rfl
      | ok counted =>
          cases counted with
          | none => exact inductionHypothesis tally
          | some row =>
              have stepped := inductionHypothesis (tally.add arithmetic row)
              apply stepped.trans
              cases rowsOf arithmetic prices commitmentEth rest with
              | error error => rfl
              | ok rows => rfl

/-! ## Over binary64 -/

def Row.ofPosition (position : Position) : Row PyFloat where
  action := position.compared.action
  inSym := position.compared.inSym
  outSym := position.compared.outSym
  entry := position.compared.entry
  current := position.compared.current
  invested := position.invested
  valueNow := position.valueNow
  perCycle := position.perCycle
  pnlUsd := position.pnlUsd
  pnlPct := position.pnlPct
  cycle := position.cycle
  tx := position.tx

def Summary.ofFloat (summary : PnLSummary) : Summary PyFloat where
  cyclesTotal := summary.cyclesTotal
  cyclesApproved := summary.cyclesApproved
  cyclesWon := summary.cyclesWon
  winRatePct := summary.winRatePct
  notionalInvestedUsd := summary.notionalInvestedUsd
  notionalValueNowUsd := summary.notionalValueNowUsd
  netPnlUsd := summary.netPnlUsd
  netPnlPct := summary.netPnlPct
  bestCycle := summary.bestCycle.map Row.ofPosition
  worstCycle := summary.worstCycle.map Row.ofPosition

@[simp]
theorem literal_zero : Arithmetic.float.literal 0 = .fin 0 := rfl

@[simp]
theorem literal_two : Arithmetic.float.literal 2 = .fin 2 := by
  decide +kernel

@[simp]
theorem literal_hundred : Arithmetic.float.literal 100 = .fin 100 := by
  decide +kernel

theorem priceOr_float (price : Option PyFloat) (other : PyFloat) :
    priceOr .float price other = Pnl.priceOr price other := by
  cases price with
  | none => rfl
  | some value =>
      by_cases zero : value = .fin 0
      · simp [priceOr, Pnl.priceOr, Arithmetic.float, zero]
      · simp [priceOr, Pnl.priceOr, Arithmetic.float, zero]

theorem sizeInUnits_float
    (prices : Pnl.SymbolPrices) (commitmentEth : PyFloat)
    (compared : Compared) :
    sizeInUnits .float prices commitmentEth compared.inSym compared.entry =
      Pnl.sizeInUnits prices commitmentEth compared := by
  unfold sizeInUnits Pnl.sizeInUnits ethPriceNow Pnl.ethPriceNow
  simp only [priceOr_float, literal_zero]
  rfl

/-- Where a symbol is no key, the size was not rescaled. -/
theorem sizeInUnits_of_error
    {prices : SymbolPrices Number} (commitmentEth entry : Number)
    {inSym : Json} {error : Exception}
    (unhashable : lookupPrice prices inSym = .error error) :
    sizeInUnits arithmetic prices commitmentEth inSym entry =
      .ok commitmentEth := by
  have unscaled : inSym.str? ≠ some "cbBTC" := by
    cases inSym with
    | str symbol => cases unhashable
    | _ => simp [Json.str?]
  apply if_neg
  intro isScaled
  exact unscaled isScaled.1

/-- A price above zero, or none at all, divides. -/
theorem div_of_entered
    {entry : PyFloat} (entered : ¬ entry.le (.fin 0) = true)
    (part : PyFloat) : ∃ share, part.div entry = .ok share := by
  have nonzero : entry ≠ .fin 0 := by
    intro zero
    apply entered
    rw [zero]
    rfl
  exact PyFloat.div_of_ne_zero nonzero part

theorem signedReturn_float (action : String) (entry current : PyFloat) :
    signedReturn .float action entry current =
      Pnl.signedReturn action entry current := by
  unfold signedReturn Pnl.signedReturn
  rw [literal_zero]
  rfl

theorem valueNow_float
    {entry current ratio : PyFloat}
    (isRatio : current.div entry = .ok ratio)
    (action : String) (invested size : PyFloat) :
    valueNow .float action entry current invested size =
      .ok (if action = "sell" then
          invested.mul ((PyFloat.fin 2).sub ratio)
        else
          current.mul size) := by
  unfold valueNow
  by_cases short : action = "sell"
  · rw [if_pos short, if_pos short, literal_two]
    rw [Arithmetic.float_div, isRatio]
    rfl
  · rw [if_neg short, if_neg short]
    rfl

/-- Over binary64 a row is the position of `Core.Pnl`. -/
theorem rowOf_float
    (prices : Pnl.SymbolPrices) (commitmentEth : PyFloat) (result : Dict)
    {compared : Compared} {found : Option PyFloat}
    (entered : ¬ compared.entry.le (.fin 0) = true)
    (isFound : lookupPrice prices compared.inSym = .ok found)
    (isCurrent : compared.current = Pnl.priceOr found compared.entry) :
    rowOf .float prices commitmentEth result compared.action compared.inSym
        compared.outSym compared.entry =
      (positionOf prices commitmentEth result compared).map
        Row.ofPosition := by
  obtain ⟨ratio, isRatio⟩ := div_of_entered entered compared.current
  unfold rowOf positionOf
  rw [sizeInUnits_float]
  cases Pnl.sizeInUnits prices commitmentEth compared with
  | error error => rfl
  | ok size =>
      have value := valueNow_float isRatio compared.action
        (compared.entry.mul size) size
      have share := signedReturn_float compared.action compared.entry
        compared.current
      rw [isFound, isRatio]
      simp only [bind, Except.bind, priceOr_float, ← isCurrent]
      change (valueNow .float _ _ _ (compared.entry.mul size) _).bind _ = _
      rw [value]
      simp only [Except.bind, share]
      cases Pnl.signedReturn compared.action compared.entry
          compared.current with
      | error error => rfl
      | ok returned =>
          simp only [literal_hundred]
          rfl

/-- With a price, both look up the symbol: it has a row, or is no key. -/
theorem rowOf_or_unhashable
    (prices : Pnl.SymbolPrices) (commitmentEth : PyFloat) (result : Dict)
    (action : String) (inSym outSym : Json) {entry : PyFloat}
    (entered : ¬ entry.le (.fin 0) = true) :
    (do
      let row ←
        rowOf .float prices commitmentEth result action inSym outSym entry
      return some row) = (do
      let found ← Pnl.lookupPrice prices inSym
      let position ← positionOf prices commitmentEth result {
        action := action
        inSym := inSym
        outSym := outSym
        entry := entry
        current := Pnl.priceOr found entry }
      return some (Row.ofPosition position)) := by
  have sameLookup : lookupPrice prices inSym =
      Pnl.lookupPrice prices inSym := by
    cases inSym <;> rfl
  rw [← sameLookup]
  cases h : lookupPrice prices inSym with
  | error error =>
      have size := sizeInUnits_of_error .float commitmentEth entry h
      unfold rowOf
      rw [size, h]
      rfl
  | ok found =>
      have same := @rowOf_float prices commitmentEth result
        ⟨action, inSym, outSym, entry, Pnl.priceOr found entry⟩ found
        entered h rfl
      simp only at same
      rw [same]
      change _ = (do
        let position ← positionOf prices commitmentEth result
          ⟨action, inSym, outSym, entry, Pnl.priceOr found entry⟩
        return some (Row.ofPosition position))
      cases positionOf prices commitmentEth result
          ⟨action, inSym, outSym, entry, Pnl.priceOr found entry⟩ with
      | error error => rfl
      | ok position => rfl

/-- A skipped result is skipped, and a counted one is the same position. -/
theorem countedRow_float
    (prices : Pnl.SymbolPrices) (commitmentEth : PyFloat)
    (result : Dict) :
    countedRow .float prices commitmentEth result = (do
      let compared ← comparedOf prices result
      match compared with
      | none => return none
      | some compared =>
          let position ← positionOf prices commitmentEth result compared
          return some (Row.ofPosition position)) := by
  unfold countedRow comparedOf
  cases lowered ((result.getD "action" .null).orElse (.str "")) with
  | error error => rfl
  | ok action =>
      simp only [bind, Except.bind]
      by_cases commits : action = "buy" ∨ action = "sell"
      · rw [if_pos commits, if_pos commits]
        cases ((result.getD "signal" .null).orElse (.obj [])).asDict with
        | error error => rfl
        | ok signal =>
            simp only [compareSignal, bind, Except.bind, literal_zero,
              Arithmetic.float_ofJson]
            cases ((signal.getD "price_usd" .null).orElse
                (.float (.fin 0))).toFloat with
            | error error => rfl
            | ok entry =>
                by_cases unpriced : entry.le (.fin 0) = true
                · have skipped : Arithmetic.float.le entry (.fin 0) = true :=
                    unpriced
                  simp only [if_pos unpriced]
                  apply (if_pos skipped).trans
                  rfl
                · have entered :
                      ¬ Arithmetic.float.le entry (.fin 0) = true :=
                    unpriced
                  have row := rowOf_or_unhashable prices commitmentEth result
                    action ((signal.getD "token_in_sym" .null).orElse
                      (.str "ETH"))
                    ((signal.getD "token_out_sym" .null).orElse
                      (.str "USDC")) unpriced
                  simp only [if_neg unpriced]
                  apply (if_neg entered).trans
                  apply row.trans
                  cases Pnl.lookupPrice prices
                      ((signal.getD "token_in_sym" .null).orElse
                        (.str "ETH")) with
                  | error error => rfl
                  | ok found => rfl
      · rw [if_neg commits, if_neg commits]
        rfl

theorem rowsOf_float
    (prices : Pnl.SymbolPrices) (commitmentEth : PyFloat)
    (results : List Dict) :
    rowsOf .float prices commitmentEth results =
      (positionsOf prices commitmentEth results).map
        (List.map Row.ofPosition) := by
  induction results with
  | nil => rfl
  | cons result rest inductionHypothesis =>
      unfold rowsOf positionsOf
      rw [countedRow_float]
      cases comparedOf prices result with
      | error error => rfl
      | ok compared =>
          cases compared with
          | none => exact inductionHypothesis
          | some compared =>
              simp only [bind, Except.bind]
              cases positionOf prices commitmentEth result compared with
              | error error => rfl
              | ok position =>
                  simp only [pure, Except.pure, inductionHypothesis]
                  cases positionsOf prices commitmentEth rest with
                  | error error => rfl
                  | ok positions => rfl

theorem bestOf_float (positions : List Position) :
    bestOf .float (positions.map Row.ofPosition) =
      (Pnl.bestOf positions).map Row.ofPosition := by
  cases positions with
  | nil => rfl
  | cons first rest =>
      apply congrArg some
      rw [List.foldl_map]
      apply List.foldl_hom Row.ofPosition
      intro best position
      exact (apply_ite Row.ofPosition _ _ _).symm

theorem worstOf_float (positions : List Position) :
    worstOf .float (positions.map Row.ofPosition) =
      (Pnl.worstOf positions).map Row.ofPosition := by
  cases positions with
  | nil => rfl
  | cons first rest =>
      apply congrArg some
      rw [List.foldl_map]
      apply List.foldl_hom Row.ofPosition
      intro worst position
      exact (apply_ite Row.ofPosition _ _ _).symm

theorem percentage_float (digits : Nat) (part whole : PyFloat) :
    percentage .float digits part whole =
      Pnl.percentage digits part whole := by
  unfold percentage Pnl.percentage
  rw [literal_zero, literal_hundred, Arithmetic.float_isZero]
  by_cases empty : whole = .fin 0
  · rw [if_pos empty, if_pos (decide_eq_true empty)]
  · rw [if_neg empty, if_neg (by simp [empty])]
    rfl

/-- The accumulators over binary64 are the totals of `Core.Pnl`. -/
theorem foldl_add_float (positions : List Position) :
    (positions.map Row.ofPosition).foldl (Tally.add .float)
        (emptyTally .float) = {
      approved := positions.length
      won := positions.countP fun position =>
        (PyFloat.fin 0).lt position.perCycle
      notionalIn := total Position.invested positions
      notionalNow := total Position.valueNow positions
      perCyclePnl := positions.map Row.ofPosition } := by
  rw [foldl_add]
  simp only [emptyTally, sumFrom, List.foldl_map, List.countP_map,
    List.length_map, Nat.zero_add, List.nil_append]
  rfl

/-- The loop over binary64 is the summary of `Core.Pnl`. -/
theorem computePnl_float
    (results : List Dict) (currentPricesBySym : Pnl.SymbolPrices)
    (commitmentEth : PyFloat) :
    computePnl .float results currentPricesBySym commitmentEth =
      (Pnl.computePnl results currentPricesBySym commitmentEth).map
        Summary.ofFloat := by
  unfold computePnl tallyResults Pnl.computePnl
  rw [foldlM_countResult, rowsOf_float]
  cases positionsOf currentPricesBySym commitmentEth results with
  | error error => rfl
  | ok positions =>
      simp only [Except.map, bind, Except.bind, foldl_add_float, summarize,
        percentage_float, bestOf_float, worstOf_float,
        Arithmetic.float_ofInt, Arithmetic.float_sub]
      generalize Pnl.percentage 1 _ _ = winRate
      cases winRate with
      | error error => rfl
      | ok winRate =>
          generalize Pnl.percentage 3 _ _ = netPct
          cases netPct with
          | error error => rfl
          | ok netPct => rfl

end SwarmFi.Core.Pnl.RollUp
