import SwarmFi.Python.Float
import SwarmFi.Core.Compute.RiskScorer

/-!
# Profit and loss of the recorded cycles

Every cycle that committed is a position of a fixed size, valued at the price
it was recorded with and at the current price of its input symbol.  The rows
keep the two symbols of a pair where the source prints them with an arrow.
-/

namespace SwarmFi.Core.Pnl

open Python Compute

/-- `current_prices_by_sym` -/
abbrev SymbolPrices := List (String × PyFloat)

/-! ## The prices of a position -/

/-- `prices.get(symbol)`; a list or a dict is no key. -/
def lookupPrice (prices : SymbolPrices) :
    Json → Except Exception (Option PyFloat)
  | .str symbol => .ok (prices.lookup symbol)
  | .arr _ => .error ⟨.typeError, "unhashable type: 'list'"⟩
  | .obj _ => .error ⟨.typeError, "unhashable type: 'dict'"⟩
  | _ => .ok none

/-- `price or other` -/
def priceOr (price : Option PyFloat) (other : PyFloat) : PyFloat :=
  match price with
  | none => other
  | some value => if value = .fin 0 then other else value

/-- What a position is compared by. -/
structure Compared where
  action : String
  inSym : Json
  outSym : Json
  entry : PyFloat
  current : PyFloat

/-- The prices of the signal of a result, unless there is no entry price. -/
def compareSignal
    (prices : SymbolPrices) (action : String) (signal : Dict) :
    Except Exception (Option Compared) := do
  let inSym := (signal.getD "token_in_sym" .null).orElse (.str "ETH")
  let outSym := (signal.getD "token_out_sym" .null).orElse (.str "USDC")
  let entry ←
    ((signal.getD "price_usd" .null).orElse (.float (.fin 0))).toFloat
  if entry.le (.fin 0) then
    return none
  else
    let found ← lookupPrice prices inSym
    return some {
      action := action
      inSym := inSym
      outSym := outSym
      entry := entry
      current := priceOr found entry }

/-- Only results where the swarm committed are compared. -/
def comparedOf (prices : SymbolPrices) (result : Dict) :
    Except Exception (Option Compared) := do
  let action ← lowered ((result.getD "action" .null).orElse (.str ""))
  if action = "buy" ∨ action = "sell" then
    let signal ← ((result.getD "signal" .null).orElse (.obj [])).asDict
    compareSignal prices action signal
  else
    return none

/-! ## The value of a position -/

/-- `1e-9` -/
def tiniestPrice : PyFloat := PyFloat.ofRat (1 / 1000000000)

/-- `float(prices.get("ETH") or prices.get("WETH") or 0.0)` -/
def ethPriceNow (prices : SymbolPrices) : PyFloat :=
  priceOr (prices.lookup "ETH") (priceOr (prices.lookup "WETH") (.fin 0))

/-- The commitment in units of the input token: cbBTC is rescaled. -/
def sizeInUnits
    (prices : SymbolPrices) (commitmentEth : PyFloat)
    (compared : Compared) : Except Exception PyFloat :=
  if compared.inSym.str? = some "cbBTC" ∧
      (PyFloat.fin 0).lt (ethPriceNow prices) = true then do
    let ratio ← (ethPriceNow prices).div (compared.entry.max tiniestPrice)
    return commitmentEth.mul ratio
  else
    return commitmentEth

/-- Direction-aware return on a single position. -/
def signedReturn (action : String) (entry current : PyFloat) :
    Except Exception PyFloat :=
  if entry.le (.fin 0) then
    return .fin 0
  else do
    let raw ← (current.sub entry).div entry
    return if action = "sell" then raw.neg else raw

structure Position where
  compared : Compared
  invested : PyFloat
  valueNow : PyFloat
  perCycle : PyFloat
  pnlUsd : PyFloat
  pnlPct : PyFloat
  cycle : Json
  tx : Json

/-- A SELL is short: it profits when the price falls. -/
def positionOf
    (prices : SymbolPrices) (commitmentEth : PyFloat) (result : Dict)
    (compared : Compared) : Except Exception Position := do
  let size ← sizeInUnits prices commitmentEth compared
  let invested := compared.entry.mul size
  let ratio ← compared.current.div compared.entry
  let valueNow :=
    if compared.action = "sell" then
      invested.mul ((PyFloat.fin 2).sub ratio)
    else
      compared.current.mul size
  let share ←
    signedReturn compared.action compared.entry compared.current
  return {
    compared := compared
    invested := invested
    valueNow := valueNow
    perCycle := valueNow.sub invested
    pnlUsd := (valueNow.sub invested).round 4
    pnlPct := (share.mul (.fin 100)).round 3
    cycle := result.getD "cycle" .null
    tx := result.getD "tx" .null }

def positionsOf
    (prices : SymbolPrices) (commitmentEth : PyFloat) :
    List Dict → Except Exception (List Position)
  | [] => .ok []
  | result :: rest => do
      let compared ← comparedOf prices result
      match compared with
      | none => positionsOf prices commitmentEth rest
      | some compared =>
          let position ← positionOf prices commitmentEth result compared
          let positions ← positionsOf prices commitmentEth rest
          return position :: positions

/-! ## The summary -/

structure PnLSummary where
  cyclesTotal : Nat
  cyclesApproved : Nat
  cyclesWon : Nat
  winRatePct : PyFloat
  notionalInvestedUsd : PyFloat
  notionalValueNowUsd : PyFloat
  netPnlUsd : PyFloat
  netPnlPct : PyFloat
  bestCycle : Option Position
  worstCycle : Option Position

/-- The first position whose profit no other one exceeds. -/
def bestOf : List Position → Option Position
  | [] => none
  | first :: rest =>
      some (rest.foldl
        (fun best position =>
          if best.perCycle.lt position.perCycle then position else best)
        first)

/-- The first position whose profit no other one is below. -/
def worstOf : List Position → Option Position
  | [] => none
  | first :: rest =>
      some (rest.foldl
        (fun worst position =>
          if position.perCycle.lt worst.perCycle then position else worst)
        first)

def total (amount : Position → PyFloat) (positions : List Position) :
    PyFloat :=
  positions.foldl (fun sum position => sum.add (amount position)) (.fin 0)

/-- `round(part / whole * 100, digits)`, 0 for an empty whole. -/
def percentage (digits : Nat) (part whole : PyFloat) :
    Except Exception PyFloat :=
  if whole = .fin 0 then
    return .fin 0
  else do
    let share ← part.div whole
    return (share.mul (.fin 100)).round digits

def computePnl
    (results : List Dict) (currentPricesBySym : SymbolPrices)
    (commitmentEth : PyFloat) : Except Exception PnLSummary := do
  let positions ← positionsOf currentPricesBySym commitmentEth results
  let won := positions.countP fun position =>
    (PyFloat.fin 0).lt position.perCycle
  let notionalIn := total Position.invested positions
  let notionalNow := total Position.valueNow positions
  let netUsd := notionalNow.sub notionalIn
  let winRate ← percentage 1 (.ofInt won) (.ofInt positions.length)
  let netPct ← percentage 3 netUsd notionalIn
  return {
    cyclesTotal := results.length
    cyclesApproved := positions.length
    cyclesWon := won
    winRatePct := winRate
    notionalInvestedUsd := notionalIn.round 4
    notionalValueNowUsd := notionalNow.round 4
    netPnlUsd := netUsd.round 4
    netPnlPct := netPct
    bestCycle := bestOf positions
    worstCycle := worstOf positions }

/-! ## What is compared -/

/-- A signal with a symbol and a price is entered at that price and compared
with the current price under that symbol. -/
theorem compareSignal_eq_some
    {prices : SymbolPrices} {action symbol : String} {signal : Dict}
    {price : PyFloat} {compared : Compared}
    (isSymbol : signal.get? "token_in_sym" = some (.str symbol))
    (named : symbol ≠ "")
    (isPrice : signal.get? "price_usd" = some (.float price))
    (isCompared :
      compareSignal prices action signal = .ok (some compared)) :
    compared.entry = price ∧
      compared.current = priceOr (prices.lookup symbol) price := by
  have inSym : (signal.getD "token_in_sym" .null).orElse (.str "ETH") =
      .str symbol := by
    simp [Dict.getD, isSymbol, Json.orElse, Json.truthy, named]
  have entered :
      ((signal.getD "price_usd" .null).orElse (.float (.fin 0))).toFloat =
        .ok price := by
    by_cases isZero : price = .fin 0
    · simp [Dict.getD, isPrice, Json.orElse, Json.truthy, isZero,
        Json.toFloat]
    · simp [Dict.getD, isPrice, Json.orElse, Json.truthy, isZero,
        Json.toFloat]
  unfold compareSignal at isCompared
  simp only [bind_eq_ok_iff] at isCompared
  obtain ⟨entry, isEntry, isCompared⟩ := isCompared
  rw [entered] at isEntry
  cases isEntry
  by_cases unpriced : price.le (.fin 0) = true
  · rw [if_pos unpriced] at isCompared
    cases isCompared
  · rw [if_neg unpriced, inSym] at isCompared
    cases isCompared
    exact ⟨rfl, rfl⟩

/-- Every position of a summary compares what `comparedOf` found. -/
theorem compared_of_mem
    {prices : SymbolPrices} {commitmentEth : PyFloat}
    {results : List Dict} {positions : List Position}
    (isList : positionsOf prices commitmentEth results = .ok positions)
    {position : Position} (member : position ∈ positions) :
    ∃ result ∈ results,
      comparedOf prices result = .ok (some position.compared) := by
  induction results generalizing positions with
  | nil =>
      cases isList
      cases member
  | cons result rest inductionHypothesis =>
      simp only [positionsOf, bind_eq_ok_iff] at isList
      obtain ⟨compared, isCompared, isList⟩ := isList
      cases compared with
      | none =>
          obtain ⟨found, later, isFound⟩ :=
            inductionHypothesis isList member
          exact ⟨found, List.mem_cons_of_mem _ later, isFound⟩
      | some compared =>
          simp only [bind_eq_ok_iff] at isList
          obtain ⟨first, isFirst, others, areOthers, isList⟩ := isList
          cases isList
          rcases List.mem_cons.mp member with same | later
          · have samePrices : first.compared = compared := by
              unfold positionOf at isFirst
              simp only [bind_eq_ok_iff] at isFirst
              obtain ⟨_, _, _, _, _, _, isFirst⟩ := isFirst
              cases isFirst
              rfl
            refine ⟨result, List.mem_cons_self, ?_⟩
            rw [same, samePrices]
            exact isCompared
          · obtain ⟨found, stillLater, isFound⟩ :=
              inductionHypothesis areOthers later
            exact ⟨found, List.mem_cons_of_mem _ stillLater, isFound⟩

end SwarmFi.Core.Pnl
