import SwarmFi.Core.Scanner
import SwarmFi.Python.Arithmetic

/-!
# The edge profile over any arithmetic

The scanner scores every pair of a list from numeric prices and 24h changes,
and ranks the scores.  Over binary64 and the registered pairs it is the scan
of `Core.Scanner`; its bounds and orders are questions about the exact
arithmetic.
-/

namespace SwarmFi.Core.Scanner.Profile

open Python Compute

structure PairSpec (Number : Type) where
  pairId : String
  inSym : String
  outSym : String
  tokenIn : String
  tokenOut : String
  chainId : Int
  coingeckoId : String
  bluechipScore : Number
  spreadScore : Number
  label : String

/-- `{id: {"usd": …, "usd_24h_change": …}}` -/
abbrev Quotes (Number : Type) := List (String × List (String × Number))

/-- A pair's edge profile, but for the line that explains it. -/
structure PairScore (Number : Type) where
  pair : PairSpec Number
  priceUsd : Number
  momentum24h : Number
  momentum : Number
  bluechip : Number
  spread : Number
  sizeFit : Number
  composite : Number
  signal : String

structure ScanResult (Number : Type) where
  ranked : List (PairScore Number)
  best : Option (PairScore Number)

variable {Number : Type} (arithmetic : Arithmetic Number)

/-! ## The sub-scores -/

def classifySignal (composite : Number) : String :=
  if arithmetic.le (arithmetic.literal (72 / 100)) composite then "strong"
  else if arithmetic.le (arithmetic.literal (55 / 100)) composite then
    "medium"
  else "weak"

/-- `min(first, second)`: the first one unless the second is smaller. -/
def minOf (first second : Number) : Number :=
  if arithmetic.lt second first then second else first

/-- -5% is 0, 0% is 0.5, +5% is 1; clamped. -/
def normaliseMomentum (pct24h : Number) : Except Exception Number := do
  let ramp ← arithmetic.div (arithmetic.add pct24h (arithmetic.literal 5))
    (arithmetic.literal 10)
  return arithmetic.max (arithmetic.literal 0)
    (minOf arithmetic (arithmetic.literal 1) ramp)

/-- Sizes outside 0.0001 to 1 ETH are dampened. -/
def sizeFit (amountWei : Number) (inSym : String) :
    Except Exception Number := do
  let inEth ← arithmetic.div amountWei
    (arithmetic.literal 1000000000000000000)
  let eth :=
    if inSym = "cbBTC" then arithmetic.mul inEth (arithmetic.literal 30)
    else inEth
  let smallest := arithmetic.literal (1 / 10000)
  if arithmetic.le smallest eth &&
      arithmetic.le eth (arithmetic.literal 1) then
    return arithmetic.literal 1
  else if arithmetic.lt eth smallest then
    let share ← arithmetic.div eth smallest
    return arithmetic.max (arithmetic.literal (30 / 100)) share
  else
    let share ← arithmetic.div (arithmetic.literal 1) eth
    return arithmetic.max (arithmetic.literal (30 / 100)) share

/-- 40% momentum, 25% bluechip, 20% spread and 15% size. -/
def compositeOf (momentum bluechip spread size : Number) : Number :=
  arithmetic.add
    (arithmetic.add
      (arithmetic.add
        (arithmetic.mul (arithmetic.literal (40 / 100)) momentum)
        (arithmetic.mul (arithmetic.literal (25 / 100)) bluechip))
      (arithmetic.mul (arithmetic.literal (20 / 100)) spread))
    (arithmetic.mul (arithmetic.literal (15 / 100)) size)

/-! ## The scan -/

/-- `prices.get(id, {}).get(key, 0.0)` -/
def quoted (quotes : Quotes Number) (coingeckoId key : String) : Number :=
  (((quotes.lookup coingeckoId).getD []).lookup key).getD
    (arithmetic.literal 0)

def scorePair (quotes : Quotes Number) (amountWei : Number)
    (pair : PairSpec Number) : Except Exception (PairScore Number) := do
  let momPct := quoted arithmetic quotes pair.coingeckoId "usd_24h_change"
  let momentum ← normaliseMomentum arithmetic momPct
  let size ← sizeFit arithmetic amountWei pair.inSym
  let composite :=
    compositeOf arithmetic momentum pair.bluechipScore pair.spreadScore size
  return {
    pair := pair
    priceUsd := quoted arithmetic quotes pair.coingeckoId "usd"
    momentum24h := momPct
    momentum := momentum
    bluechip := pair.bluechipScore
    spread := pair.spreadScore
    sizeFit := size
    composite := composite
    signal := classifySignal arithmetic composite }

def scoreAll (quotes : Quotes Number) (amountWei : Number) :
    List (PairSpec Number) → Except Exception (List (PairScore Number))
  | [] => .ok []
  | pair :: rest => do
      let score ← scorePair arithmetic quotes amountWei pair
      let scores ← scoreAll quotes amountWei rest
      return score :: scores

/-- `scored.sort(key=lambda s: s.composite, reverse=True)` -/
def rank (scores : List (PairScore Number)) : List (PairScore Number) :=
  scores.insertionSort fun first second =>
    arithmetic.le second.composite first.composite = true

def scanPairs (quotes : Quotes Number) (amountWei : Number)
    (pairs : List (PairSpec Number)) :
    Except Exception (ScanResult Number) := do
  let scores ← scoreAll arithmetic quotes amountWei pairs
  return {
    ranked := rank arithmetic scores
    best := (rank arithmetic scores).head? }

/-! ## Over binary64 -/

def PairSpec.ofFloat (pair : Scanner.PairSpec) : PairSpec PyFloat where
  pairId := pair.pairId
  inSym := pair.inSym
  outSym := pair.outSym
  tokenIn := pair.tokenIn
  tokenOut := pair.tokenOut
  chainId := pair.chainId
  coingeckoId := pair.coingeckoId
  bluechipScore := pair.bluechipScore
  spreadScore := pair.spreadScore
  label := pair.label

def PairScore.ofFloat (score : Scanner.PairScore) : PairScore PyFloat where
  pair := PairSpec.ofFloat score.pair
  priceUsd := score.priceUsd
  momentum24h := score.momentum24h
  momentum := score.momentum
  bluechip := score.bluechip
  spread := score.spread
  sizeFit := score.sizeFit
  composite := score.composite
  signal := score.signal

def ScanResult.ofFloat (scan : Scanner.ScanResult) :
    ScanResult PyFloat where
  ranked := scan.ranked.map PairScore.ofFloat
  best := scan.best.map PairScore.ofFloat

def infoOf (info : List (String × PyFloat)) : Dict :=
  info.map fun field => (field.1, .float field.2)

/-- Numeric quotes as the dict that is fetched. -/
def dictOf (quotes : Quotes PyFloat) : Dict :=
  quotes.map fun quote => (quote.1, .obj (infoOf quote.2))

theorem lookup_map_snd {α β : Type} (change : α → β)
    (items : List (String × α)) (key : String) :
    (items.map fun item => (item.1, change item.2)).lookup key =
      (items.lookup key).map change := by
  induction items with
  | nil => rfl
  | cons item rest inductionHypothesis =>
      rw [List.map_cons, List.lookup_cons, List.lookup_cons]
      cases key == item.1 with
      | true => rfl
      | false => exact inductionHypothesis

theorem quoted_float (quotes : Quotes PyFloat) (coingeckoId key : String) :
    Scanner.quoted (dictOf quotes) coingeckoId key =
      .ok (quoted .float quotes coingeckoId key) := by
  have isInfo := lookup_map_snd (fun info => Json.obj (infoOf info)) quotes
    coingeckoId
  have isValue : ∀ info : List (String × PyFloat),
      ((infoOf info).getD key (.float (.fin 0))).toFloat =
        .ok ((info.lookup key).getD (.fin 0)) := by
    intro info
    have found := lookup_map_snd Json.float info key
    rw [Dict.getD, Dict.get?, infoOf, found]
    cases info.lookup key <;> rfl
  unfold Scanner.quoted quoted
  rw [Dict.getD, Dict.get?, dictOf, isInfo]
  cases quotes.lookup coingeckoId with
  | none => exact isValue []
  | some info => exact isValue info

/-- The whole numbers of the program text. -/
theorem literals_float :
    Arithmetic.float.literal 1 = .fin 1 ∧
      Arithmetic.float.literal 5 = .fin 5 ∧
      Arithmetic.float.literal 10 = .fin 10 ∧
      Arithmetic.float.literal 30 = .fin 30 ∧
      Arithmetic.float.literal 1000000000000000000 =
        .fin 1000000000000000000 := by
  decide +kernel

/-- The decimals of the program text are the same literals. -/
theorem hundredths_eq (value : Nat) :
    hundredths value = Arithmetic.float.literal ((value : Rat) / 100) := rfl

theorem classifySignal_float (composite : PyFloat) :
    classifySignal .float composite = Scanner.classifySignal composite :=
  rfl

theorem normaliseMomentum_float (pct24h : PyFloat) :
    normaliseMomentum .float pct24h =
      Scanner.normaliseMomentum pct24h := by
  obtain ⟨one, five, ten, -, -⟩ := literals_float
  unfold normaliseMomentum Scanner.normaliseMomentum
  rw [one, five, ten]
  rfl

/-- The amount is converted once; where it converts, the sizes agree. -/
theorem sizeFit_float {amountInWei : Int} {amount : PyFloat}
    (isAmount : (Json.int amountInWei).toFloat = .ok amount)
    (inSym : String) :
    sizeFit .float amount inSym = Scanner.sizeFit amountInWei inSym := by
  obtain ⟨one, -, -, thirty, ether⟩ := literals_float
  unfold sizeFit Scanner.sizeFit
  rw [one, thirty, ether, isAmount]
  rfl

theorem compositeOf_float (momentum bluechip spread size : PyFloat) :
    compositeOf .float momentum bluechip spread size =
      Scanner.compositeOf momentum bluechip spread size := rfl

theorem scorePair_float (quotes : Quotes PyFloat)
    {amountInWei : Int} {amount : PyFloat}
    (isAmount : (Json.int amountInWei).toFloat = .ok amount)
    (pair : Scanner.PairSpec) :
    scorePair .float quotes amount (PairSpec.ofFloat pair) =
      (Scanner.scorePair (dictOf quotes) amountInWei pair).map
        PairScore.ofFloat := by
  have sameSize := sizeFit_float isAmount pair.inSym
  unfold scorePair Scanner.scorePair Scanner.priceIn
  rw [quoted_float, quoted_float]
  dsimp only [PairSpec.ofFloat]
  rw [normaliseMomentum_float, sameSize]
  simp only [bind, Except.bind]
  cases Scanner.normaliseMomentum
      (quoted .float quotes pair.coingeckoId "usd_24h_change") with
  | error exc => rfl
  | ok momentum =>
      cases Scanner.sizeFit amountInWei pair.inSym with
      | error exc => rfl
      | ok size => rfl

theorem scoreAll_float (quotes : Quotes PyFloat)
    {amountInWei : Int} {amount : PyFloat}
    (isAmount : (Json.int amountInWei).toFloat = .ok amount)
    (specs : List Scanner.PairSpec) :
    scoreAll .float quotes amount (specs.map PairSpec.ofFloat) =
      (Scanner.scoreAll (dictOf quotes) amountInWei specs).map
        (List.map PairScore.ofFloat) := by
  induction specs with
  | nil => rfl
  | cons pair rest inductionHypothesis =>
      rw [List.map_cons, scoreAll, Scanner.scoreAll, inductionHypothesis,
        scorePair_float quotes isAmount]
      cases Scanner.scorePair (dictOf quotes) amountInWei pair with
      | error exc => rfl
      | ok score =>
          cases Scanner.scoreAll (dictOf quotes) amountInWei rest with
          | error exc => rfl
          | ok scores => rfl

theorem rank_float (scores : List Scanner.PairScore) :
    rank .float (scores.map PairScore.ofFloat) =
      (Scanner.rank scores).map PairScore.ofFloat := by
  symm
  exact List.map_insertionSort _ _ PairScore.ofFloat scores
    fun _ _ _ _ => Iff.rfl

/-- Over binary64 the registered pairs are scanned as in `Core.Scanner`. -/
theorem scanPairs_float (quotes : Quotes PyFloat)
    {amountInWei : Int} {amount : PyFloat}
    (isAmount : (Json.int amountInWei).toFloat = .ok amount) :
    scanPairs .float quotes amount (pairs.map PairSpec.ofFloat) =
      (Scanner.scanPairs (dictOf quotes) amountInWei).map
        ScanResult.ofFloat := by
  have scoredAll := scoreAll_float quotes isAmount pairs
  unfold Scanner.scanPairs
  split
  · next exc failed =>
      rw [failed] at scoredAll
      rw [scanPairs, scoredAll]
      rfl
  · next scores scored =>
      rw [scored] at scoredAll
      rw [scanPairs, scoredAll]
      change Except.ok (ScanResult.mk
        (rank .float (scores.map PairScore.ofFloat))
        (rank .float (scores.map PairScore.ofFloat)).head?) = _
      rw [rank_float, List.head?_map]
      rfl

end SwarmFi.Core.Scanner.Profile
