import SwarmFi.Core.Pnl.RollUp

/-!
# What the roll-up adds up to

In exact arithmetic the loop is one closed definition: every counted result is
a position of a fixed size that is long or short, and the net profit is the sum
of what these positions made.  The size of a cbBTC position is the commitment
rescaled by the ratio of two prices, whose divisor has a floor.
-/

namespace SwarmFi.Core.Pnl.RollUp

open Python Compute

/-! ## What a result says -/

def actionOf (result : Dict) : String :=
  ((lowered ((result.getD "action" .null).orElse
    (.str ""))).toOption).getD ""

def signalOf (result : Dict) : Dict :=
  (((result.getD "signal" .null).orElse (.obj [])).asDict.toOption).getD []

def inSymOf (result : Dict) : Json :=
  ((signalOf result).getD "token_in_sym" .null).orElse (.str "ETH")

def outSymOf (result : Dict) : Json :=
  ((signalOf result).getD "token_out_sym" .null).orElse (.str "USDC")

def priceField (result : Dict) : Json :=
  ((signalOf result).getD "price_usd" .null).orElse (.float (.fin 0))

def entryOf (result : Dict) : Rat :=
  ((Fraction.ofJson (priceField result)).toOption).getD 0

/-- Bought or sold at a positive price. -/
def Counts (result : Dict) : Prop :=
  (actionOf result = "buy" ∨ actionOf result = "sell") ∧
    0 < entryOf result

instance (result : Dict) : Decidable (Counts result) :=
  inferInstanceAs (Decidable (_ ∧ _))

def countedOf (results : List Dict) : List Dict :=
  results.filter fun result => Counts result

/-- The fields that the loop reads have types it can read. -/
def Readable (result : Dict) : Prop :=
  (∃ action,
    lowered ((result.getD "action" .null).orElse (.str "")) = .ok action) ∧
  (actionOf result = "buy" ∨ actionOf result = "sell" →
    (∃ signal,
      ((result.getD "signal" .null).orElse (.obj [])).asDict =
        .ok signal) ∧
    (∃ entry, Fraction.ofJson (priceField result) = .ok entry) ∧
    (0 < entryOf result →
      ∃ found, lookupPrice ([] : SymbolPrices Rat) (inSymOf result) =
        .ok found))

/-! ## What a position is defined to make -/

def knownPrice (prices : SymbolPrices Rat) : Json → Option Rat
  | .str symbol => prices.lookup symbol
  | _ => none

def knownEth (prices : SymbolPrices Rat) : Option Rat :=
  (prices.lookup "ETH").or (prices.lookup "WETH")

/-- The entry price where no price is known. -/
def currentOf (prices : SymbolPrices Rat) (result : Dict) : Rat :=
  (knownPrice prices (inSymOf result)).getD (entryOf result)

/-- The commitment, for cbBTC in units of `price` when an ETH price is
known. -/
def sizeAt
    (prices : SymbolPrices Rat) (commitmentEth : Rat) (result : Dict)
    (price : Rat) : Rat :=
  match knownEth prices with
  | none => commitmentEth
  | some eth =>
      if (inSymOf result).str? = some "cbBTC" then
        commitmentEth * (eth / price)
      else
        commitmentEth

def sizeOf
    (prices : SymbolPrices Rat) (commitmentEth : Rat) (result : Dict) :
    Rat :=
  sizeAt prices commitmentEth result (max (entryOf result) (1 / 1000000000))

/-- What a position of a size makes. -/
def profitOf (prices : SymbolPrices Rat) (result : Dict) (size : Rat) :
    Rat :=
  if actionOf result = "sell" then
    size * (entryOf result - currentOf prices result)
  else
    size * (currentOf prices result - entryOf result)

def returnOf (prices : SymbolPrices Rat) (result : Dict) : Rat :=
  if actionOf result = "sell" then
    (entryOf result - currentOf prices result) / entryOf result
  else
    (currentOf prices result - entryOf result) / entryOf result

/-- A buy whose price rose, or a sell whose price fell. -/
def Won (prices : SymbolPrices Rat) (result : Dict) : Prop :=
  (actionOf result = "buy" ∧ entryOf result < currentOf prices result) ∨
    (actionOf result = "sell" ∧ currentOf prices result < entryOf result)

instance (prices : SymbolPrices Rat) (result : Dict) :
    Decidable (Won prices result) :=
  inferInstanceAs (Decidable (_ ∨ _))

def definedRow
    (prices : SymbolPrices Rat) (commitmentEth : Rat) (result : Dict) :
    Row Rat :=
  let size := sizeOf prices commitmentEth result
  let invested := entryOf result * size
  let profit := profitOf prices result size
  { action := actionOf result
    inSym := inSymOf result
    outSym := outSymOf result
    entry := entryOf result
    current := currentOf prices result
    invested := invested
    valueNow := invested + profit
    perCycle := profit
    pnlUsd := Fraction.round 4 profit
    pnlPct := Fraction.round 3 (returnOf prices result * 100)
    cycle := result.getD "cycle" .null
    tx := result.getD "tx" .null }

/-! ## Positive prices -/

/-- Every price of a symbol is positive. -/
def Positive (prices : SymbolPrices Rat) : Prop :=
  ∀ quote ∈ prices, 0 < quote.2

theorem Positive.of_lookup
    {prices : SymbolPrices Rat} (positive : Positive prices)
    {symbol : String} {price : Rat}
    (isPrice : prices.lookup symbol = some price) : 0 < price := by
  obtain ⟨before, after, split, _⟩ := List.lookup_eq_some_iff.mp isPrice
  apply positive (symbol, price)
  rw [split]
  exact List.mem_append_right before List.mem_cons_self

theorem priceOr_fraction
    {price : Option Rat} (positive : ∀ value ∈ price, 0 < value)
    (other : Rat) : priceOr .fraction price other = price.getD other := by
  cases price with
  | none => rfl
  | some value =>
      have nonzero : value ≠ 0 := ne_of_gt (positive value rfl)
      simp [priceOr, nonzero]

theorem ethPriceNow_fraction
    {prices : SymbolPrices Rat} (positive : Positive prices) :
    ethPriceNow .fraction prices = (knownEth prices).getD 0 := by
  unfold ethPriceNow knownEth
  rw [priceOr_fraction fun _ isPrice => positive.of_lookup isPrice,
    priceOr_fraction fun _ isPrice => positive.of_lookup isPrice]
  cases prices.lookup "ETH" with
  | none => rfl
  | some eth => rfl

theorem Positive.of_knownEth
    {prices : SymbolPrices Rat} (positive : Positive prices) {eth : Rat}
    (isKnown : knownEth prices = some eth) : 0 < eth := by
  unfold knownEth at isKnown
  cases h : prices.lookup "ETH" with
  | none =>
      rw [h] at isKnown
      exact positive.of_lookup isKnown
  | some price =>
      rw [h] at isKnown
      cases isKnown
      exact positive.of_lookup h

/-! ## One row -/

theorem sizeInUnits_fraction
    {prices : SymbolPrices Rat} (positive : Positive prices)
    (commitmentEth : Rat) (result : Dict) :
    sizeInUnits .fraction prices commitmentEth (inSymOf result)
        (entryOf result) =
      .ok (sizeOf prices commitmentEth result) := by
  have floored : max (entryOf result) (1 / 1000000000 : Rat) ≠ 0 := by
    apply ne_of_gt
    apply lt_max_of_lt_right
    norm_num
  unfold sizeInUnits sizeOf sizeAt
  rw [ethPriceNow_fraction positive]
  cases h : knownEth prices with
  | none =>
      apply if_neg
      intro isScaled
      exact absurd isScaled.2 (by simp)
  | some eth =>
      have known : 0 < eth := positive.of_knownEth h
      by_cases bitcoin : (inSymOf result).str? = some "cbBTC"
      · have scaled : (inSymOf result).str? = some "cbBTC" ∧
            Arithmetic.fraction.lt (Arithmetic.fraction.literal 0)
              ((some eth).getD 0) = true :=
          ⟨bitcoin, by simp [known]⟩
        rw [if_pos scaled]
        simp only [if_pos bitcoin, Arithmetic.fraction_literal,
          Arithmetic.fraction_max, Option.getD_some,
          Arithmetic.fraction_div floored]
        rfl
      · rw [if_neg fun isScaled => bitcoin isScaled.1]
        simp only [if_neg bitcoin]
        rfl

/-- The formula of a short position is its size times the fall. -/
theorem short_value
    {entry : Rat} (entered : 0 < entry) (current size : Rat) :
    entry * size * (2 - current / entry) =
      entry * size + size * (entry - current) := by
  have nonzero : entry ≠ 0 := ne_of_gt entered
  field_simp
  ring

theorem long_value (entry current size : Rat) :
    current * size = entry * size + size * (current - entry) := by
  ring

theorem valueNow_fraction
    (prices : SymbolPrices Rat) {result : Dict} (size : Rat)
    (entered : 0 < entryOf result) :
    valueNow .fraction (actionOf result) (entryOf result)
        (currentOf prices result) (entryOf result * size) size =
      .ok (entryOf result * size + profitOf prices result size) := by
  have nonzero : entryOf result ≠ 0 := ne_of_gt entered
  unfold valueNow profitOf
  by_cases short : actionOf result = "sell"
  · rw [if_pos short, if_pos short, Arithmetic.fraction_div nonzero,
      ← short_value entered]
    rfl
  · rw [if_neg short, if_neg short, ← long_value]
    rfl

theorem signedReturn_fraction
    (prices : SymbolPrices Rat) {result : Dict}
    (entered : 0 < entryOf result) :
    signedReturn .fraction (actionOf result) (entryOf result)
        (currentOf prices result) = .ok (returnOf prices result) := by
  have nonzero : entryOf result ≠ 0 := ne_of_gt entered
  have priced : ¬ Arithmetic.fraction.le (entryOf result)
      (Arithmetic.fraction.literal 0) = true := by
    simp [entered]
  unfold signedReturn returnOf
  rw [if_neg priced, Arithmetic.fraction_div nonzero]
  by_cases short : actionOf result = "sell"
  · rw [if_pos short]
    change Except.ok (if actionOf result = "sell" then _ else _) = _
    rw [if_pos short]
    apply congrArg Except.ok
    change -((currentOf prices result - entryOf result) /
      entryOf result) = _
    rw [← neg_div, neg_sub]
  · rw [if_neg short]
    change Except.ok (if actionOf result = "sell" then _ else _) = _
    rw [if_neg short]
    rfl

theorem lookupPrice_inSym
    {result : Dict} {found : Option Rat}
    (isKey : lookupPrice ([] : SymbolPrices Rat) (inSymOf result) =
      .ok found) (prices : SymbolPrices Rat) :
    lookupPrice prices (inSymOf result) =
      .ok (knownPrice prices (inSymOf result)) := by
  cases h : inSymOf result with
  | arr items =>
      rw [h] at isKey
      cases isKey
  | obj fields =>
      rw [h] at isKey
      cases isKey
  | _ => rfl

theorem Positive.of_knownPrice
    {prices : SymbolPrices Rat} (positive : Positive prices)
    {symbol : Json} {price : Rat}
    (isKnown : price ∈ knownPrice prices symbol) : 0 < price := by
  cases symbol with
  | str symbol => exact positive.of_lookup isKnown
  | _ => cases isKnown

theorem rowOf_fraction
    {prices : SymbolPrices Rat} (positive : Positive prices)
    (commitmentEth : Rat) {result : Dict} {found : Option Rat}
    (entered : 0 < entryOf result)
    (isKey : lookupPrice ([] : SymbolPrices Rat) (inSymOf result) =
      .ok found) :
    rowOf .fraction prices commitmentEth result (actionOf result)
        (inSymOf result) (outSymOf result) (entryOf result) =
      .ok (definedRow prices commitmentEth result) := by
  have current :
      priceOr .fraction (knownPrice prices (inSymOf result))
        (entryOf result) = currentOf prices result :=
    priceOr_fraction (fun _ isKnown => positive.of_knownPrice isKnown) _
  have value := valueNow_fraction prices
    (sizeOf prices commitmentEth result) entered
  have share := signedReturn_fraction prices entered
  unfold rowOf
  rw [sizeInUnits_fraction positive, lookupPrice_inSym isKey]
  simp only [bind, Except.bind, current, Arithmetic.fraction_mul, value,
    share, Arithmetic.fraction_sub, add_sub_cancel_left]
  rfl

theorem countedRow_fraction
    {prices : SymbolPrices Rat} (positive : Positive prices)
    (commitmentEth : Rat) {result : Dict} (readable : Readable result) :
    countedRow .fraction prices commitmentEth result =
      .ok (if Counts result then
          some (definedRow prices commitmentEth result)
        else
          none) := by
  obtain ⟨⟨action, isAction⟩, readsPosition⟩ := readable
  have actionIs : actionOf result = action := by
    unfold actionOf
    rw [isAction]
    rfl
  unfold countedRow
  rw [isAction, ← actionIs]
  by_cases commits : actionOf result = "buy" ∨ actionOf result = "sell"
  · obtain ⟨⟨signal, isSignal⟩, ⟨entry, isEntry⟩, keyed⟩ :=
      readsPosition commits
    have signalIs : signalOf result = signal := by
      unfold signalOf
      rw [isSignal]
      rfl
    have entryIs : entryOf result = entry := by
      unfold entryOf
      rw [isEntry]
      rfl
    change (if actionOf result = "buy" ∨ actionOf result = "sell" then _
      else _) = _
    rw [if_pos commits, isSignal, ← signalIs]
    change (do let entry ← Fraction.ofJson (priceField result); _) = _
    rw [isEntry, ← entryIs]
    by_cases entered : 0 < entryOf result
    · obtain ⟨found, isKey⟩ := keyed entered
      have priced : ¬ Arithmetic.fraction.le (entryOf result)
          (Arithmetic.fraction.literal 0) = true := by
        simp [entered]
      have row := rowOf_fraction positive commitmentEth entered isKey
      have counts : Counts result := ⟨commits, entered⟩
      rw [if_pos counts]
      apply (if_neg priced).trans
      change (do
        let row ← rowOf .fraction prices commitmentEth result
          (actionOf result) (inSymOf result) (outSymOf result)
          (entryOf result)
        return some row) = _
      rw [row]
      rfl
    · have unpriced : Arithmetic.fraction.le (entryOf result)
          (Arithmetic.fraction.literal 0) = true := by
        simpa using entered
      rw [if_neg fun counts : Counts result => entered counts.2]
      exact if_pos unpriced
  · rw [if_neg fun counts : Counts result => commits counts.1]
    exact if_neg commits

/-- A result that is read without raising is readable. -/
theorem readable_of_ok
    {prices : SymbolPrices Rat} {commitmentEth : Rat} {result : Dict}
    {counted : Option (Row Rat)}
    (isCounted : countedRow .fraction prices commitmentEth result =
      .ok counted) : Readable result := by
  unfold countedRow at isCounted
  rw [bind_eq_ok_iff] at isCounted
  obtain ⟨action, isAction, isCounted⟩ := isCounted
  have actionIs : actionOf result = action := by
    unfold actionOf
    rw [isAction]
    rfl
  refine ⟨⟨action, isAction⟩, ?_⟩
  intro commits
  rw [actionIs] at commits
  rw [if_pos commits, bind_eq_ok_iff] at isCounted
  obtain ⟨signal, isSignal, isCounted⟩ := isCounted
  have signalIs : signalOf result = signal := by
    unfold signalOf
    rw [isSignal]
    rfl
  simp only [bind_eq_ok_iff] at isCounted
  obtain ⟨entry, isEntry, isCounted⟩ := isCounted
  rw [← signalIs] at isEntry isCounted
  change Fraction.ofJson (priceField result) = .ok entry at isEntry
  have entryIs : entryOf result = entry := by
    unfold entryOf
    rw [isEntry]
    rfl
  refine ⟨⟨signal, isSignal⟩, ⟨entry, isEntry⟩, ?_⟩
  intro entered
  rw [entryIs] at entered
  have priced : ¬ Arithmetic.fraction.le entry
      (Arithmetic.fraction.literal 0) = true := by
    simp [entered]
  rw [if_neg priced, bind_eq_ok_iff] at isCounted
  obtain ⟨row, isRow, _⟩ := isCounted
  unfold rowOf at isRow
  simp only [bind_eq_ok_iff] at isRow
  obtain ⟨size, _, found, isFound, _⟩ := isRow
  change lookupPrice prices (inSymOf result) = .ok found at isFound
  cases h : inSymOf result with
  | arr items =>
      rw [h] at isFound
      cases isFound
  | obj fields =>
      rw [h] at isFound
      cases isFound
  | _ => exact ⟨_, rfl⟩

/-! ## Every row -/

theorem rowsOf_fraction
    {prices : SymbolPrices Rat} (positive : Positive prices)
    (commitmentEth : Rat) {results : List Dict}
    (readable : ∀ result ∈ results, Readable result) :
    rowsOf .fraction prices commitmentEth results =
      .ok ((countedOf results).map
        (definedRow prices commitmentEth)) := by
  induction results with
  | nil => rfl
  | cons result rest inductionHypothesis =>
      have later := inductionHypothesis fun result member =>
        readable result (List.mem_cons_of_mem _ member)
      unfold rowsOf
      rw [countedRow_fraction positive commitmentEth
        (readable result List.mem_cons_self)]
      by_cases counts : Counts result
      · rw [if_pos counts]
        change (do
          let rows ← rowsOf .fraction prices commitmentEth rest
          return definedRow prices commitmentEth result :: rows) = _
        rw [later]
        simp [countedOf, counts, bind, Except.bind, pure, Except.pure]
      · rw [if_neg counts]
        change rowsOf .fraction prices commitmentEth rest = _
        rw [later]
        simp [countedOf, counts]

theorem readable_of_rows
    {prices : SymbolPrices Rat} {commitmentEth : Rat}
    {results : List Dict} {rows : List (Row Rat)}
    (areRows : rowsOf .fraction prices commitmentEth results = .ok rows) :
    ∀ result ∈ results, Readable result := by
  induction results generalizing rows with
  | nil =>
      intro result member
      cases member
  | cons result rest inductionHypothesis =>
      unfold rowsOf at areRows
      rw [bind_eq_ok_iff] at areRows
      obtain ⟨counted, isCounted, areRows⟩ := areRows
      have later : ∀ result ∈ rest, Readable result := by
        cases counted with
        | none => exact inductionHypothesis areRows
        | some row =>
            simp only [bind_eq_ok_iff] at areRows
            obtain ⟨others, areOthers, _⟩ := areRows
            exact inductionHypothesis areOthers
      intro tested member
      rcases List.mem_cons.mp member with same | isLater
      · rw [same]
        exact readable_of_ok isCounted
      · exact later tested isLater

theorem sumFrom_fraction
    (amount : Row Rat → Rat) (start : Rat) (rows : List (Row Rat)) :
    sumFrom .fraction amount start rows = start + (rows.map amount).sum := by
  induction rows generalizing start with
  | nil => exact (add_zero start).symm
  | cons row rest inductionHypothesis =>
      have next := inductionHypothesis (start + amount row)
      rw [List.map_cons, List.sum_cons, ← add_assoc]
      exact next

/-! ## The best and the worst row -/

theorem bestOf_fraction (rows : List (Row Rat)) :
    bestOf .fraction rows = rows.argmax Row.perCycle := by
  cases rows with
  | nil => rfl
  | cons first rest =>
      unfold bestOf List.argmax
      rw [List.foldl_cons]
      change _ = rest.foldl _ (some first)
      apply Eq.symm
      apply List.foldl_hom some
      intro best row
      unfold List.argAux
      by_cases better : best.perCycle < row.perCycle
      · simp [better]
      · simp [better]

theorem worstOf_fraction (rows : List (Row Rat)) :
    worstOf .fraction rows = rows.argmin Row.perCycle := by
  cases rows with
  | nil => rfl
  | cons first rest =>
      unfold worstOf List.argmin
      rw [List.foldl_cons]
      change _ = rest.foldl _ (some first)
      apply Eq.symm
      apply List.foldl_hom some
      intro worst row
      unfold List.argAux
      by_cases worse : row.perCycle < worst.perCycle
      · simp [worse]
      · simp [worse]

/-! ## Profit, return and winning -/

theorem sizeOf_pos
    {prices : SymbolPrices Rat} (positive : Positive prices)
    {commitmentEth : Rat} (committed : 0 < commitmentEth)
    (result : Dict) : 0 < sizeOf prices commitmentEth result := by
  have floored : 0 < max (entryOf result) (1 / 1000000000 : Rat) := by
    apply lt_max_of_lt_right
    norm_num
  unfold sizeOf sizeAt
  cases h : knownEth prices with
  | none => exact committed
  | some eth =>
      have known : 0 < eth := positive.of_knownEth h
      by_cases bitcoin : (inSymOf result).str? = some "cbBTC"
      · simp only [if_pos bitcoin]
        exact mul_pos committed (div_pos known floored)
      · simp only [if_neg bitcoin]
        exact committed

/-- What is made is what was invested times the return. -/
theorem profitOf_eq_mul_returnOf
    (prices : SymbolPrices Rat) {result : Dict} (size : Rat)
    (entered : 0 < entryOf result) :
    profitOf prices result size =
      entryOf result * size * returnOf prices result := by
  have nonzero : entryOf result ≠ 0 := ne_of_gt entered
  unfold profitOf returnOf
  by_cases short : actionOf result = "sell"
  · rw [if_pos short, if_pos short]
    field_simp
  · rw [if_neg short, if_neg short]
    field_simp

theorem profitOf_pos_iff
    (prices : SymbolPrices Rat) {result : Dict} {size : Rat}
    (sized : 0 < size)
    (commits : actionOf result = "buy" ∨ actionOf result = "sell") :
    0 < profitOf prices result size ↔ Won prices result := by
  unfold profitOf Won
  rcases commits with long | short
  · simp [long, sized]
  · simp [short, sized]

/-! ## The summary -/

/-- The row of a counted result: what was invested, what it made, and the
return that is reported for it. -/
def RowFits
    (prices : SymbolPrices Rat) (commitmentEth : Rat) (result : Dict)
    (row : Row Rat) : Prop :=
  row.invested = entryOf result * sizeOf prices commitmentEth result ∧
  row.perCycle =
    profitOf prices result (sizeOf prices commitmentEth result) ∧
  row.pnlUsd = Fraction.round 4 row.perCycle ∧
  ∃ share,
    signedReturn .fraction (actionOf result) (entryOf result)
        (currentOf prices result) = .ok share ∧
      row.perCycle = row.invested * share ∧
      row.pnlPct = Fraction.round 3 (share * 100)

/-- The summary of the counted results, and the tally that it rounds. -/
structure RollsUp
    (prices : SymbolPrices Rat) (commitmentEth : Rat)
    (results : List Dict) (tally : Tally Rat) (summary : Summary Rat) :
    Prop where
  net : tally.notionalNow - tally.notionalIn =
    ((countedOf results).map fun result =>
      profitOf prices result (sizeOf prices commitmentEth result)).sum
  netUsd : summary.netPnlUsd =
    Fraction.round 4 (tally.notionalNow - tally.notionalIn)
  rows : List.Forall₂ (RowFits prices commitmentEth) (countedOf results)
    tally.perCyclePnl
  won : summary.cyclesWon =
    (countedOf results).countP fun result => Won prices result
  approved : summary.cyclesApproved = (countedOf results).length
  total : summary.cyclesTotal = results.length
  wonLe : summary.cyclesWon ≤ summary.cyclesApproved
  approvedLe : summary.cyclesApproved ≤ summary.cyclesTotal
  someBest : summary.bestCycle = none ↔ countedOf results = []
  best : ∀ row ∈ summary.bestCycle,
    row ∈ tally.perCyclePnl ∧
      ∀ other ∈ tally.perCyclePnl, other.perCycle ≤ row.perCycle
  someWorst : summary.worstCycle = none ↔ countedOf results = []
  worst : ∀ row ∈ summary.worstCycle,
    row ∈ tally.perCyclePnl ∧
      ∀ other ∈ tally.perCyclePnl, row.perCycle ≤ other.perCycle

section Tallied

variable {prices : SymbolPrices Rat} (positive : Positive prices)
variable {commitmentEth : Rat} (committed : 0 < commitmentEth)
variable (results : List Dict)

/-- The tally of readable results, in closed form. -/
def definedTally
    (prices : SymbolPrices Rat) (commitmentEth : Rat)
    (results : List Dict) : Tally Rat :=
  let rows := (countedOf results).map (definedRow prices commitmentEth)
  { approved := rows.length
    won := rows.countP (Row.isWon .fraction)
    notionalIn := (rows.map Row.invested).sum
    notionalNow := (rows.map Row.valueNow).sum
    perCyclePnl := rows }

include positive in
theorem tallyResults_fraction
    (readable : ∀ result ∈ results, Readable result) :
    tallyResults .fraction prices commitmentEth results =
      .ok (definedTally prices commitmentEth results) := by
  unfold tallyResults
  rw [foldlM_countResult,
    rowsOf_fraction positive commitmentEth readable]
  apply congrArg Except.ok
  apply (foldl_add .fraction _ _).trans
  rw [sumFrom_fraction, sumFrom_fraction]
  simp [definedTally, emptyTally]

theorem readable_of_tally
    {tally : Tally Rat}
    (isTally : tallyResults .fraction prices commitmentEth results =
      .ok tally) : ∀ result ∈ results, Readable result := by
  unfold tallyResults at isTally
  rw [foldlM_countResult] at isTally
  cases h : rowsOf .fraction prices commitmentEth results with
  | error error =>
      rw [h] at isTally
      cases isTally
  | ok rows => exact readable_of_rows h

theorem percentage_fraction (digits : Nat) (part whole : Rat) :
    ∃ share, percentage .fraction digits part whole = .ok share := by
  unfold percentage
  by_cases empty : whole = 0
  · rw [if_pos (by simp [empty])]
    exact ⟨_, rfl⟩
  · rw [if_neg (by simp [empty]), Arithmetic.fraction_div empty]
    exact ⟨_, rfl⟩

theorem summarize_fraction (cyclesTotal : Nat) (tally : Tally Rat) :
    ∃ summary, summarize .fraction cyclesTotal tally = .ok summary := by
  obtain ⟨winRate, isWinRate⟩ := percentage_fraction 1
    (Arithmetic.fraction.ofInt tally.won)
    (Arithmetic.fraction.ofInt tally.approved)
  obtain ⟨netPct, isNetPct⟩ := percentage_fraction 3
    (Arithmetic.fraction.sub tally.notionalNow tally.notionalIn)
    tally.notionalIn
  unfold summarize
  rw [isWinRate]
  simp only [bind, Except.bind, isNetPct]
  exact ⟨_, rfl⟩

theorem net_definedTally :
    (definedTally prices commitmentEth results).notionalNow -
        (definedTally prices commitmentEth results).notionalIn =
      ((countedOf results).map fun result =>
        profitOf prices result
          (sizeOf prices commitmentEth result)).sum := by
  unfold definedTally
  simp only [List.map_map]
  induction countedOf results with
  | nil => simp
  | cons result rest inductionHypothesis =>
      simp only [List.map_cons, List.sum_cons, Function.comp_apply]
      rw [← inductionHypothesis]
      simp only [definedRow]
      ring

theorem counted_of_mem
    {result : Dict} (member : result ∈ countedOf results) :
    Counts result := by
  have isCounted := (List.mem_filter.mp member).2
  exact of_decide_eq_true isCounted

include positive committed in
theorem won_definedTally :
    (definedTally prices commitmentEth results).won =
      (countedOf results).countP fun result => Won prices result := by
  change ((countedOf results).map
    (definedRow prices commitmentEth)).countP _ = _
  rw [List.countP_map]
  apply List.countP_congr
  intro result member
  have counts := counted_of_mem results member
  have sized := sizeOf_pos positive committed result
  have wins := profitOf_pos_iff prices sized counts.1
  simpa [Row.isWon, definedRow] using wins

theorem rowFits_definedRow
    (prices : SymbolPrices Rat) (commitmentEth : Rat) {result : Dict}
    (counts : Counts result) :
    RowFits prices commitmentEth result
      (definedRow prices commitmentEth result) := by
  refine ⟨rfl, rfl, rfl, returnOf prices result, ?_, ?_, rfl⟩
  · exact signedReturn_fraction prices counts.2
  · exact profitOf_eq_mul_returnOf prices _ counts.2

theorem rows_definedTally :
    List.Forall₂ (RowFits prices commitmentEth) (countedOf results)
      (definedTally prices commitmentEth results).perCyclePnl := by
  unfold definedTally
  rw [List.forall₂_map_right_iff, List.forall₂_same]
  intro result member
  exact rowFits_definedRow prices commitmentEth
    (counted_of_mem results member)

include positive committed in
theorem rollsUp_of_summarize
    {summary : Summary Rat}
    (isSummary : summarize .fraction results.length
      (definedTally prices commitmentEth results) = .ok summary) :
    RollsUp prices commitmentEth results
      (definedTally prices commitmentEth results) summary := by
  unfold summarize at isSummary
  simp only [bind_eq_ok_iff] at isSummary
  obtain ⟨winRate, _, netPct, _, isSummary⟩ := isSummary
  cases isSummary
  have counted : (definedTally prices commitmentEth results).approved =
      (countedOf results).length := List.length_map _
  have won := won_definedTally positive committed results
  constructor
  case net => exact net_definedTally results
  case netUsd => rfl
  case rows => exact rows_definedTally results
  case won => exact won
  case approved => exact counted
  case total => rfl
  case wonLe =>
    change (definedTally prices commitmentEth results).won ≤ _
    rw [won]
    apply List.countP_le_length.trans
    exact counted.ge
  case approvedLe =>
    change (definedTally prices commitmentEth results).approved ≤ _
    rw [counted]
    exact List.length_filter_le _ _
  case someBest =>
    change bestOf .fraction _ = none ↔ _
    rw [bestOf_fraction, List.argmax_eq_none]
    exact List.map_eq_nil_iff
  case best =>
    intro row isBest
    change row ∈ bestOf .fraction _ at isBest
    rw [bestOf_fraction] at isBest
    refine ⟨List.argmax_mem isBest, ?_⟩
    intro other member
    exact List.le_of_mem_argmax member isBest
  case someWorst =>
    change worstOf .fraction _ = none ↔ _
    rw [worstOf_fraction, List.argmin_eq_none]
    exact List.map_eq_nil_iff
  case worst =>
    intro row isWorst
    change row ∈ worstOf .fraction _ at isWorst
    rw [worstOf_fraction] at isWorst
    refine ⟨List.argmin_mem isWorst, ?_⟩
    intro other member
    exact List.le_of_mem_argmin member isWorst

end Tallied

/-- The summary of every list of results is the closed definition; there is
none exactly where a result has a field of the wrong type. -/
theorem computePnl_rollsUp
    (results : List Dict) (prices : SymbolPrices Rat) (commitmentEth : Rat)
    (positive : Positive prices) (committed : 0 < commitmentEth) :
    ((∃ summary,
      computePnl .fraction results prices commitmentEth = .ok summary) ↔
        ∀ result ∈ results, Readable result) ∧
    ∀ summary,
      computePnl .fraction results prices commitmentEth = .ok summary →
        ∃ tally,
          tallyResults .fraction prices commitmentEth results =
            .ok tally ∧
          RollsUp prices commitmentEth results tally summary := by
  constructor
  · constructor
    · rintro ⟨summary, isSummary⟩
      unfold computePnl at isSummary
      rw [bind_eq_ok_iff] at isSummary
      obtain ⟨tally, isTally, _⟩ := isSummary
      exact readable_of_tally results isTally
    · intro readable
      obtain ⟨summary, isSummary⟩ := summarize_fraction results.length
        (definedTally prices commitmentEth results)
      use summary
      unfold computePnl
      rw [tallyResults_fraction positive results readable]
      exact isSummary
  · intro summary isSummary
    unfold computePnl at isSummary
    rw [bind_eq_ok_iff] at isSummary
    obtain ⟨tally, isTally, isSummary⟩ := isSummary
    have readable := readable_of_tally results isTally
    have same : tallyResults .fraction prices commitmentEth results =
        .ok (definedTally prices commitmentEth results) :=
      tallyResults_fraction positive results readable
    refine ⟨tally, isTally, ?_⟩
    rw [isTally] at same
    cases same
    exact rollsUp_of_summarize positive committed results isSummary

/-! ## Two cycles, and a price below the floor -/

/-- A result of an executed trade. -/
def executed (action symbol : String) (price : Rat) : Dict :=
  [("action", .str action),
    ("signal", .obj [("token_in_sym", .str symbol),
      ("token_out_sym", .str "USDC"),
      ("price_usd", .float (.fin price))])]

def twoCycles : List Dict :=
  [executed "buy" "ETH" 2000, executed "sell" "cbBTC" 60000]

def twoPrices : SymbolPrices Rat := [("ETH", 2500), ("cbBTC", 50000)]

/-- The two cycles have a summary, and it rolls them up. -/
theorem computePnl_rollsUp_two :
    ∃ summary tally,
      computePnl .fraction twoCycles twoPrices (1 / 10000) = .ok summary ∧
        tallyResults .fraction twoPrices (1 / 10000) twoCycles =
            .ok tally ∧
          RollsUp twoPrices (1 / 10000) twoCycles tally summary := by
  have positive : Positive twoPrices := by simp [Positive, twoPrices]
  have committed : (0 : Rat) < 1 / 10000 := by norm_num
  obtain ⟨exists_iff, rollsUp⟩ :=
    computePnl_rollsUp twoCycles twoPrices (1 / 10000) positive committed
  have readable : ∀ result ∈ twoCycles, Readable result := by
    intro result member
    simp only [twoCycles, List.mem_cons, List.not_mem_nil, or_false]
      at member
    rcases member with rfl | rfl
    · exact ⟨⟨"buy", rfl⟩, fun _ => ⟨⟨_, rfl⟩, ⟨2000, rfl⟩,
        fun _ => ⟨_, rfl⟩⟩⟩
    · exact ⟨⟨"sell", rfl⟩, fun _ => ⟨⟨_, rfl⟩, ⟨60000, rfl⟩,
        fun _ => ⟨_, rfl⟩⟩⟩
  obtain ⟨summary, isSummary⟩ := exists_iff.mpr readable
  obtain ⟨tally, isTally, rolls⟩ := rollsUp summary isSummary
  exact ⟨summary, tally, isSummary, isTally, rolls⟩

/-- A cbBTC price below the floor of the divisor. -/
def tinyCycles : List Dict := [executed "buy" "cbBTC" (1 / 2 ^ 40)]

/-- Its size is not the commitment rescaled by the ratio of the prices. -/
theorem tiny_entry_floored :
    ¬ ∀ (results : List Dict) (prices : SymbolPrices Rat)
        (commitmentEth : Rat), Positive prices → 0 < commitmentEth →
        ∀ tally,
          tallyResults .fraction prices commitmentEth results = .ok tally →
            tally.notionalNow - tally.notionalIn =
              ((countedOf results).map fun result =>
                profitOf prices result
                  (sizeAt prices commitmentEth result
                    (entryOf result))).sum := by
  intro always
  have positive : Positive twoPrices := by
    simp [Positive, twoPrices]
  have returned : (tallyResults .fraction twoPrices (1 / 10000)
      tinyCycles).toOption.isSome = true := by
    decide +kernel
  obtain ⟨tally, isTally⟩ := Option.isSome_iff_exists.mp returned
  have net := always tinyCycles twoPrices (1 / 10000) positive
    (by norm_num) tally (eq_ok_of_toOption isTally)
  have observed :
      ((tallyResults .fraction twoPrices (1 / 10000)
        tinyCycles).toOption.map fun tally =>
          decide (tally.notionalNow - tally.notionalIn =
            ((countedOf tinyCycles).map fun result =>
              profitOf twoPrices result
                (sizeAt twoPrices (1 / 10000) result
                  (entryOf result))).sum)) = some false := by
    decide +kernel
  rw [isTally] at observed
  have differs := of_decide_eq_false (Option.some.inj observed)
  exact differs net

end SwarmFi.Core.Pnl.RollUp
