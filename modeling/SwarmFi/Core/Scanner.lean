import SwarmFi.Python.Float
import SwarmFi.Core.Compute.RiskScorer

/-!
# The edge scanner

The pairs that the researcher may choose from, their edge profiles, and the
scan that ranks them.  The prices are what `_fetch_prices` returns: a dict for
each CoinGecko id.
-/

namespace SwarmFi.Core.Scanner

open Python Compute

/-! ## The pairs -/

structure PairSpec where
  pairId : String
  inSym : String
  outSym : String
  tokenIn : String
  tokenOut : String
  chainId : Int
  coingeckoId : String
  bluechipScore : PyFloat
  spreadScore : PyFloat
  label : String
  deriving DecidableEq

def usdt : String := "0xfde4C96c8593536E31F229EA8f37b2ADa2699bb2"

def cbBtc : String := "0xcbB7C0000aB88B473b1f5aFd9ef808440eed33Bf"

def weth : String := "0x4200000000000000000000000000000000000006"

/-- A decimal literal of the source with two places. -/
def hundredths (value : Nat) : PyFloat := PyFloat.ofRat (value / 100)

def ethUsdc : PairSpec where
  pairId := "ETH_USDC"
  inSym := "ETH"
  outSym := "USDC"
  tokenIn := nativeEth
  tokenOut := usdc
  chainId := 8453
  coingeckoId := "ethereum"
  bluechipScore := hundredths 100
  spreadScore := hundredths 92
  label := "ETH → USDC"

def ethUsdt : PairSpec where
  pairId := "ETH_USDT"
  inSym := "ETH"
  outSym := "USDT"
  tokenIn := nativeEth
  tokenOut := usdt
  chainId := 8453
  coingeckoId := "ethereum"
  bluechipScore := hundredths 95
  spreadScore := hundredths 88
  label := "ETH → USDT"

def cbBtcUsdc : PairSpec where
  pairId := "cbBTC_USDC"
  inSym := "cbBTC"
  outSym := "USDC"
  tokenIn := cbBtc
  tokenOut := usdc
  chainId := 8453
  coingeckoId := "bitcoin"
  bluechipScore := hundredths 95
  spreadScore := hundredths 85
  label := "cbBTC → USDC"

def wethUsdc : PairSpec where
  pairId := "WETH_USDC"
  inSym := "WETH"
  outSym := "USDC"
  tokenIn := weth
  tokenOut := usdc
  chainId := 8453
  coingeckoId := "ethereum"
  bluechipScore := hundredths 90
  spreadScore := hundredths 93
  label := "WETH → USDC"

/-- `PAIRS` -/
def pairs : List PairSpec := [ethUsdc, ethUsdt, cbBtcUsdc, wethUsdc]

/-! ## Which token is which asset -/

/-- The symbol that the registry has for a token. -/
def symbolOf (token : String) : Option String :=
  (pairs.flatMap fun pair =>
    [(pair.tokenIn, pair.inSym), (pair.tokenOut, pair.outSym)]).lookup token

/-- The id under which the price of an input token is fetched. -/
def coingeckoIdOf (token : String) : Option String :=
  (pairs.map fun pair => (pair.tokenIn, pair.coingeckoId)).lookup token

/-- The registry names a token the same way wherever it stands. -/
theorem named_of_mem {pair : PairSpec} (member : pair ∈ pairs) :
    symbolOf pair.tokenIn = some pair.inSym ∧
      symbolOf pair.tokenOut = some pair.outSym ∧
        coingeckoIdOf pair.tokenIn = some pair.coingeckoId := by
  have checked : ∀ pair ∈ pairs,
      symbolOf pair.tokenIn = some pair.inSym ∧
        symbolOf pair.tokenOut = some pair.outSym ∧
          coingeckoIdOf pair.tokenIn = some pair.coingeckoId := by
    decide +kernel
  exact checked pair member

/-! ## The edge profile -/

/-- A pair's edge profile. -/
structure PairScore where
  pair : PairSpec
  priceUsd : PyFloat
  momentum24h : PyFloat
  momentum : PyFloat
  bluechip : PyFloat
  spread : PyFloat
  sizeFit : PyFloat
  composite : PyFloat
  signal : String
  reasoning : String

def PairScore.toSignalPayload (score : PairScore) (amountInWei : Int) :
    Dict :=
  [("token_in", .str score.pair.tokenIn),
    ("token_out", .str score.pair.tokenOut),
    ("token_in_sym", .str score.pair.inSym),
    ("token_out_sym", .str score.pair.outSym),
    ("chain_id", .int score.pair.chainId),
    ("price_usd", .float score.priceUsd),
    ("signal", .str score.signal),
    ("reason", .str score.reasoning),
    ("amount_in_wei", .int amountInWei),
    ("edge_profile", .obj
      [("momentum_24h", .float score.momentum24h),
        ("momentum", .float (score.momentum.round 3)),
        ("bluechip", .float (score.bluechip.round 3)),
        ("spread", .float (score.spread.round 3)),
        ("size_fit", .float (score.sizeFit.round 3)),
        ("composite", .float (score.composite.round 3))])]

def classifySignal (composite : PyFloat) : String :=
  if (hundredths 72).le composite then "strong"
  else if (hundredths 55).le composite then "medium"
  else "weak"

/-- -5% is 0, 0% is 0.5, +5% is 1; clamped. -/
def normaliseMomentum (pct24h : PyFloat) : Except Exception PyFloat := do
  let ramp ← (pct24h.add (.fin 5)).div (.fin 10)
  return (PyFloat.fin 0).max ((PyFloat.fin 1).min ramp)

/-- `0.0001` -/
def smallestSize : PyFloat := PyFloat.ofRat (1 / 10000)

/-- Sizes outside 0.0001 to 1 ETH are dampened. -/
def sizeFit (amountWei : Int) (inSym : String) :
    Except Exception PyFloat := do
  let amount ← (Json.int amountWei).toFloat
  let inEth ← amount.div (.fin 1000000000000000000)
  let eth := if inSym = "cbBTC" then inEth.mul (.fin 30) else inEth
  if smallestSize.le eth && eth.le (.fin 1) then
    return .fin 1
  else if eth.lt smallestSize then
    let share ← eth.div smallestSize
    return (hundredths 30).max share
  else
    let share ← (PyFloat.fin 1).div eth
    return (hundredths 30).max share

def buildReasoning
    (pair : PairSpec) (momPct : PyFloat) (signal : String)
    (composite : PyFloat) : String :=
  pair.inSym ++ "/" ++ pair.outSym ++ " on Base · 24h " ++
    (if (PyFloat.fin 0).le momPct then "up" else "down") ++ " " ++
    momPct.abs.formatTwoDecimals ++ "% · composite " ++
    composite.formatTwoDecimals ++ " · " ++ signal ++
    " bluechip momentum signal"

/-! ## The scan -/

/-- `float(info.get(key, 0.0))` for the dict of a CoinGecko id. -/
def quoted (prices : Dict) (coingeckoId key : String) :
    Except Exception PyFloat := do
  let info ← (prices.getD coingeckoId (.obj [])).asDict
  (info.getD key (.float (.fin 0))).toFloat

/-- The US dollars for the asset of an id; 0 when no price was fetched. -/
def priceIn (prices : Dict) (coingeckoId : String) :
    Except Exception PyFloat :=
  quoted prices coingeckoId "usd"

/-- 40% momentum, 25% bluechip, 20% spread and 15% size. -/
def compositeOf (momentum bluechip spread size : PyFloat) : PyFloat :=
  ((((hundredths 40).mul momentum).add ((hundredths 25).mul bluechip)).add
    ((hundredths 20).mul spread)).add ((hundredths 15).mul size)

def scorePair (prices : Dict) (amountInWei : Int) (pair : PairSpec) :
    Except Exception PairScore := do
  let price ← priceIn prices pair.coingeckoId
  let momPct ← quoted prices pair.coingeckoId "usd_24h_change"
  let momentum ← normaliseMomentum momPct
  let size ← sizeFit amountInWei pair.inSym
  let composite :=
    compositeOf momentum pair.bluechipScore pair.spreadScore size
  let signal := classifySignal composite
  return {
    pair := pair
    priceUsd := price
    momentum24h := momPct
    momentum := momentum
    bluechip := pair.bluechipScore
    spread := pair.spreadScore
    sizeFit := size
    composite := composite
    signal := signal
    reasoning := buildReasoning pair momPct signal composite }

def scoreAll (prices : Dict) (amountInWei : Int) :
    List PairSpec → Except Exception (List PairScore)
  | [] => .ok []
  | pair :: rest => do
      let score ← scorePair prices amountInWei pair
      let scores ← scoreAll prices amountInWei rest
      return score :: scores

/-- Every pair of the registry once, in some order, and the first of them. -/
structure ScanResult where
  ranked : List PairScore
  best : Option PairScore
  ranks_pairs : (ranked.map PairScore.pair).Perm pairs
  best_first : best = ranked.head?

/-- The scores have the prices of their pairs. -/
def Priced (prices : Dict) (scores : List PairScore) : Prop :=
  ∀ score ∈ scores,
    priceIn prices score.pair.coingeckoId = .ok score.priceUsd

theorem scorePair_eq_ok
    {prices : Dict} {amountInWei : Int} {pair : PairSpec}
    {score : PairScore}
    (scored : scorePair prices amountInWei pair = .ok score) :
    score.pair = pair ∧
      priceIn prices pair.coingeckoId = .ok score.priceUsd := by
  unfold scorePair at scored
  simp only [bind_eq_ok_iff] at scored
  obtain ⟨price, isPrice, _, _, _, _, _, _, isScore⟩ := scored
  cases isScore
  exact ⟨rfl, isPrice⟩

theorem scoreAll_eq_ok
    {prices : Dict} {amountInWei : Int} {specs : List PairSpec}
    {scores : List PairScore}
    (scored : scoreAll prices amountInWei specs = .ok scores) :
    scores.map PairScore.pair = specs ∧ Priced prices scores := by
  induction specs generalizing scores with
  | nil =>
      cases scored
      exact ⟨rfl, fun _ member => by cases member⟩
  | cons pair rest inductionHypothesis =>
      simp only [scoreAll, bind_eq_ok_iff] at scored
      obtain ⟨score, isScore, others, areOthers, isList⟩ := scored
      cases isList
      obtain ⟨samePair, isPrice⟩ := scorePair_eq_ok isScore
      obtain ⟨samePairs, arePriced⟩ := inductionHypothesis areOthers
      constructor
      · rw [List.map_cons, samePair, samePairs]
      · intro tested member
        rcases List.mem_cons.mp member with same | later
        · rw [same, samePair]
          exact isPrice
        · exact arePriced tested later

/-- `scored.sort(key=lambda s: s.composite, reverse=True)`: equal ones keep
their order. -/
def rank (scores : List PairScore) : List PairScore :=
  scores.insertionSort fun first second =>
    second.composite.le first.composite = true

theorem rank_perm (scores : List PairScore) :
    (rank scores).Perm scores :=
  List.perm_insertionSort _ scores

def scanPairs (prices : Dict) (amountInWei : Int) :
    Except Exception ScanResult :=
  match scored : scoreAll prices amountInWei pairs with
  | .error exc => .error exc
  | .ok scores =>
      .ok {
        ranked := rank scores
        best := (rank scores).head?
        ranks_pairs := by
          rw [← (scoreAll_eq_ok scored).1]
          exact (rank_perm scores).map _
        best_first := rfl }

theorem priced_scanPairs
    {prices : Dict} {amountInWei : Int} {scan : ScanResult}
    (scanned : scanPairs prices amountInWei = .ok scan) :
    Priced prices scan.ranked := by
  unfold scanPairs at scanned
  split at scanned
  · cases scanned
  · next scores scored =>
      cases scanned
      intro score member
      exact (scoreAll_eq_ok scored).2 score
        ((rank_perm scores).mem_iff.mp member)

namespace ScanResult

variable (scan : ScanResult)

theorem mem_of_best {score : PairScore} (isBest : scan.best = some score) :
    score ∈ scan.ranked := by
  rw [scan.best_first] at isBest
  exact List.mem_of_head? isBest

theorem pair_of_best {score : PairScore} (isBest : scan.best = some score) :
    score.pair ∈ pairs := by
  have listed : score.pair ∈ scan.ranked.map PairScore.pair :=
    List.mem_map_of_mem (scan.mem_of_best isBest)
  exact scan.ranks_pairs.mem_iff.mp listed

/-- There is always a pair to pick. -/
theorem exists_best : ∃ score, scan.best = some score := by
  rw [scan.best_first]
  cases isEmpty : scan.ranked with
  | cons score rest => exact ⟨score, rfl⟩
  | nil =>
      have none := scan.ranks_pairs
      rw [isEmpty] at none
      have noPair := none.length_eq
      cases noPair

end ScanResult

end SwarmFi.Core.Scanner
