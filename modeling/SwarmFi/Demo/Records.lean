import SwarmFi.Demo

/-!
# What the demo's records belong to

A result keeps the token and the price of the pair that was picked, but the
symbols of the pair that the demo was started with.  The symbol is all that the
profit summary goes by.
-/

namespace SwarmFi.Demo

open Foundation Python SwarmFi.Core Uniswap Compute Scanner Pnl Dashboard

/-! ## Records of one asset -/

/-- The symbol under `symKey` is that of the token under `key`. -/
def SymbolBelongs (signal : Dict) (key symKey : String) : Prop :=
  ∃ token symbol, signal.get? key = some (.str token) ∧
    symbolOf token = some symbol ∧ signal.get? symKey = some (.str symbol)

/-- The price of a signal is the scanned price of its input token. -/
def PriceBelongs (prices signal : Dict) : Prop :=
  ∃ token coingeckoId price, signal.get? "token_in" = some (.str token) ∧
    coingeckoIdOf token = some coingeckoId ∧
      priceIn prices coingeckoId = .ok price ∧
        signal.get? "price_usd" = some (.float price)

/-- However the result is compared, the entry is the price in its signal and
the current price is looked up for the symbol of the same token. -/
def ComparesOneAsset (result signal : Dict) : Prop :=
  ∀ (current : SymbolPrices) (compared : Compared),
    comparedOf current result = .ok (some compared) →
      ∃ token symbol price, signal.get? "token_in" = some (.str token) ∧
        symbolOf token = some symbol ∧
          signal.get? "price_usd" = some (.float price) ∧
            compared.entry = price ∧
              compared.current = priceOr (current.lookup symbol) price

structure SignalBelongs (prices result signal : Dict) : Prop where
  inSym : SymbolBelongs signal "token_in" "token_in_sym"
  outSym : SymbolBelongs signal "token_out" "token_out_sym"
  price : PriceBelongs prices signal
  compares : ComparesOneAsset result signal

/-- Symbols, tokens and price of a result belong to one asset. -/
def Belongs (prices result : Dict) : Prop :=
  ∃ signal, result.get? "signal" = some (.obj signal) ∧
    SignalBelongs prices result signal

/-- The pair that was ranked best has the two symbols of the pair that the
demo was started with. -/
def PicksConfigured (pair : DemoPair) (scan : ScanResult) : Prop :=
  ∃ best, scan.best = some best ∧ best.pair.inSym = pair.inSym ∧
    best.pair.outSym = pair.outSym

/-! ## The signal record of a pick -/

section View

variable (pair : DemoPair) (best : PairScore)

/-- The signal record of a cycle that picked this score. -/
def pickView : Dict :=
  sigView pair (best.toSignalPayload pair.amountWei)

theorem pickView_inSym :
    (pickView pair best).get? "token_in_sym" = some (.str pair.inSym) := by
  unfold pickView sigView
  rw [Dict.get?_set, if_neg (by decide), Dict.get?_set, if_pos rfl]

theorem pickView_outSym :
    (pickView pair best).get? "token_out_sym" =
      some (.str pair.outSym) := by
  unfold pickView sigView
  rw [Dict.get?_set, if_pos rfl]

/-- The other fields are those of the pick. -/
theorem pickView_other {key : String}
    (notIn : key ≠ "token_in_sym") (notOut : key ≠ "token_out_sym") :
    (pickView pair best).get? key =
      (best.toSignalPayload pair.amountWei).get? key := by
  unfold pickView sigView
  rw [Dict.get?_set, if_neg notOut, Dict.get?_set, if_neg notIn]

theorem pickView_tokenIn :
    (pickView pair best).get? "token_in" =
      some (.str best.pair.tokenIn) := by
  rw [pickView_other pair best (by decide) (by decide)]
  rfl

theorem pickView_tokenOut :
    (pickView pair best).get? "token_out" =
      some (.str best.pair.tokenOut) := by
  rw [pickView_other pair best (by decide) (by decide)]
  rfl

theorem pickView_price :
    (pickView pair best).get? "price_usd" =
      some (.float best.priceUsd) := by
  rw [pickView_other pair best (by decide) (by decide)]
  rfl

/-- A symbol belongs to the token beside it exactly when it is the symbol of
that token. -/
theorem symbolBelongs_iff {signal : Dict} {key symKey token symbol : String}
    {shown : String}
    (isToken : signal.get? key = some (.str token))
    (named : symbolOf token = some symbol)
    (isShown : signal.get? symKey = some (.str shown)) :
    SymbolBelongs signal key symKey ↔ symbol = shown := by
  constructor
  · intro belongs
    obtain ⟨otherToken, otherSymbol, isOther, namedOther, shownOther⟩ :=
      belongs
    rw [isToken] at isOther
    cases isOther
    rw [named] at namedOther
    cases namedOther
    rw [isShown] at shownOther
    cases shownOther
    rfl
  · intro same
    rw [← same] at isShown
    exact ⟨token, symbol, isToken, named, isShown⟩

theorem named_ne_empty {spec : PairSpec} (member : spec ∈ pairs) :
    spec.inSym ≠ "" := by
  have checked : ∀ spec ∈ pairs, spec.inSym ≠ "" := by decide
  exact checked spec member

variable {best} {result : Dict}

theorem comparesOneAsset_of_pick (listed : best.pair ∈ pairs)
    (sameIn : best.pair.inSym = pair.inSym)
    (records : result.get? "signal" =
      some (.obj (pickView pair best))) :
    ComparesOneAsset result (pickView pair best) := by
  intro current compared isCompared
  have nonempty : (Json.obj (pickView pair best)).truthy = true := rfl
  have signalIs :
      ((result.getD "signal" .null).orElse (.obj [])).asDict =
        .ok (pickView pair best) := by
    unfold Dict.getD
    rw [records, Option.getD_some, Json.orElse, if_pos nonempty]
    rfl
  unfold comparedOf at isCompared
  simp only [bind_eq_ok_iff] at isCompared
  obtain ⟨action, _, isCompared⟩ := isCompared
  by_cases committed : action = "buy" ∨ action = "sell"
  · rw [if_pos committed, signalIs] at isCompared
    have isSymbol := pickView_inSym pair best
    rw [← sameIn] at isSymbol
    have prices := compareSignal_eq_some isSymbol (named_ne_empty listed)
      (pickView_price pair best) isCompared
    exact ⟨_, _, _, pickView_tokenIn pair best, (named_of_mem listed).1,
      pickView_price pair best, prices⟩
  · rw [if_neg committed] at isCompared
    cases isCompared

/-- A record of a pick belongs to one asset exactly when the configured
symbols are those of the pick. -/
theorem signalBelongs_iff {prices : Dict} (listed : best.pair ∈ pairs)
    (priced : priceIn prices best.pair.coingeckoId = .ok best.priceUsd)
    (records : result.get? "signal" =
      some (.obj (pickView pair best))) :
    SignalBelongs prices result (pickView pair best) ↔
      best.pair.inSym = pair.inSym ∧ best.pair.outSym = pair.outSym := by
  obtain ⟨namedIn, namedOut, isId⟩ := named_of_mem listed
  have ins := symbolBelongs_iff (pickView_tokenIn pair best) namedIn
    (pickView_inSym pair best)
  have outs := symbolBelongs_iff (pickView_tokenOut pair best) namedOut
    (pickView_outSym pair best)
  constructor
  · intro belongs
    exact ⟨ins.mp belongs.inSym, outs.mp belongs.outSym⟩
  · intro same
    exact {
      inSym := ins.mpr same.1
      outSym := outs.mpr same.2
      price := ⟨_, _, _, pickView_tokenIn pair best, isId, priced,
        pickView_price pair best⟩
      compares := comparesOneAsset_of_pick pair listed same.1 records }

end View

/-! ## Runs of a cycle -/

section Run

variable {σ : Type} (environment : Environment DemoVocabulary σ)
  (state : σ) (pair : DemoPair) (wallet : String) (price : PyFloat)
  (number : Int)

/-- A cycle begins with its scan. -/
theorem trace_cycle :
    (cycle pair wallet price number).trace environment state =
      ⟨.scanPairs pair.amountWei,
          (environment state (.scanPairs pair.amountWei)).1⟩ ::
        ((Program.ofExcept
          (environment state (.scanPairs pair.amountWei)).1).bind
            fun scan => afterScan pair wallet number
              (signalOf pair price scan)).trace environment
                (environment state (.scanPairs pair.amountWei)).2 :=
  Program.trace_call _ _ _ _

theorem scanned_of_answer {scan : ScanResult}
    (answered :
      (environment state (.scanPairs pair.amountWei)).1 = .ok scan) :
    ⟨.scanPairs pair.amountWei, .ok scan⟩ ∈
      (cycle pair wallet price number).trace environment state := by
  rw [trace_cycle, answered]
  exact List.mem_cons_self

/-- There is no other scan. -/
theorem scan_of_trace {scan : ScanResult}
    (scanned : ⟨.scanPairs pair.amountWei, .ok scan⟩ ∈
      (cycle pair wallet price number).trace environment state) :
    ∃ reached : σ,
      (cycle pair wallet price number).trace environment state =
        ⟨.scanPairs pair.amountWei, .ok scan⟩ ::
          (afterScan pair wallet number
            (signalOf pair price scan)).trace environment reached := by
  rw [trace_cycle] at scanned ⊢
  cases answered :
      (environment state (.scanPairs pair.amountWei)).1 with
  | error exc =>
      rw [answered] at scanned
      rcases List.mem_cons.mp scanned with same | later
      · cases same
      · cases later
  | ok other =>
      rw [answered] at scanned
      rcases List.mem_cons.mp scanned with same | later
      · cases same
        exact ⟨_, rfl⟩
      · have uses := uses_afterScan pair wallet number
          (signalOf pair price other)
        exact (uses.trace environment _ _ later).elim

/-- Every appended result has the signal record of the scan's pick. -/
theorem records_of_trace {scan : ScanResult} {best : PairScore}
    {result : Dict}
    (scanned : ⟨.scanPairs pair.amountWei, .ok scan⟩ ∈
      (cycle pair wallet price number).trace environment state)
    (isBest : scan.best = some best)
    (appended : ⟨.appendResult result, ()⟩ ∈
      (cycle pair wallet price number).trace environment state) :
    result.get? "signal" = some (.obj (pickView pair best)) := by
  obtain ⟨reached, traced⟩ :=
    scan_of_trace environment state pair wallet price number scanned
  rw [traced] at appended
  have isPick : signalOf pair price scan =
      best.toSignalPayload pair.amountWei := by
    unfold signalOf
    rw [isBest]
  rcases List.mem_cons.mp appended with same | later
  · cases same
  · have uses := uses_afterScan pair wallet number
      (signalOf pair price scan)
    have records := uses.trace environment _ _ later
    rw [isPick] at records
    exact records

end Run

/-- A result that a cycle appends belongs to one asset exactly when the scan
picked a pair with the symbols that the demo was started with. -/
theorem belongs_iff {σ : Type} (environment : Environment DemoVocabulary σ)
    (state : σ) (pairKey wallet : String) (price : PyFloat) (number : Int)
    {prices result : Dict} {scan : ScanResult}
    (scanned : ⟨.scanPairs (pairFor pairKey).amountWei, .ok scan⟩ ∈
      (cycle (pairFor pairKey) wallet price number).trace environment state)
    (priced : Priced prices scan.ranked)
    (appended : ⟨.appendResult result, ()⟩ ∈
      (cycle (pairFor pairKey) wallet price number).trace environment
        state) :
    Belongs prices result ↔ PicksConfigured (pairFor pairKey) scan := by
  obtain ⟨best, isBest⟩ := scan.exists_best
  have listed := scan.pair_of_best isBest
  have records := records_of_trace environment state (pairFor pairKey)
    wallet price number scanned isBest appended
  have agrees := signalBelongs_iff (pairFor pairKey) listed
    (priced best (scan.mem_of_best isBest)) records
  constructor
  · intro belongs
    obtain ⟨signal, isSignal, both⟩ := belongs
    rw [records] at isSignal
    cases isSignal
    exact ⟨best, isBest, agrees.mp both⟩
  · intro picks
    obtain ⟨other, isOther, same⟩ := picks
    rw [isBest] at isOther
    cases isOther
    exact ⟨_, records, agrees.mpr same⟩

/-! ## A day on which bitcoin moves more -/

def bitcoinPrices : Dict :=
  [("ethereum", .obj
      [("usd", .float (.fin 1950)), ("usd_24h_change", .float (.fin 1))]),
    ("bitcoin", .obj
      [("usd", .int 60000), ("usd_24h_change", .float (.fin 2))])]

/-- The model cannot be reached, so that the decision is HOLD. -/
def bitcoinAnswers : (request : DemoCall) → DemoCall.Answer request
  | .scanPairs amountInWei => Scanner.scanPairs bitcoinPrices amountInWei
  | .write _ _ => .ok ()
  | .updateText _ _ _ => .ok ()
  | .announce _ _ => .ok ()
  | .chat _ =>
      .error ⟨.connectError, "All connection attempts failed"⟩
  | .newStamp => ⟨"id-1", "2026-01-01T00:00:00Z"⟩
  | .executeSwap _ => .error ⟨.runtimeError, "no swap"⟩
  | .readBack => .ok ()
  | .appendResult _ => ()

def bitcoinDay : Environment DemoVocabulary Unit :=
  fun _ request => (bitcoinAnswers request, ())

def bitcoinTrace : List (Event DemoVocabulary) :=
  (cycle (pairFor "ETH_USDC") "0xaaaa" (.fin 1950) 1).trace bitcoinDay ()

/-- The results that a trace appends. -/
def appendedResults (events : List (Event DemoVocabulary)) : List Dict :=
  events.filterMap fun event =>
    match event.call with
    | .appendResult result => some result
    | _ => none

theorem mem_of_appendedResults
    {events : List (Event DemoVocabulary)} {result : Dict}
    (member : result ∈ appendedResults events) :
    (⟨.appendResult result, ()⟩ : Event DemoVocabulary) ∈ events := by
  obtain ⟨event, isEvent, isResult⟩ := List.mem_filterMap.mp member
  obtain ⟨request, answer⟩ := event
  cases request with
  | appendResult found =>
      cases isResult
      exact isEvent
  | _ => cases isResult

theorem bitcoin_appends :
    ∃ result : Dict, ⟨.appendResult result, ()⟩ ∈ bitcoinTrace := by
  have once : (appendedResults bitcoinTrace).length = 1 := by
    decide +kernel
  obtain ⟨result, isOnly⟩ := List.length_eq_one_iff.mp once
  have member : result ∈ appendedResults bitcoinTrace := by
    rw [isOnly]
    exact List.mem_singleton_self result
  exact ⟨result, mem_of_appendedResults member⟩

/-- The scan picks cbBTC. -/
theorem bitcoin_scanned :
    ∃ scan : ScanResult,
      Scanner.scanPairs bitcoinPrices 1000000000000000 = .ok scan ∧
        ∃ best, scan.best = some best ∧ best.pair.inSym = "cbBTC" := by
  have picked :
      ((Scanner.scanPairs bitcoinPrices 1000000000000000).toOption.bind
        ScanResult.best).map (fun best => best.pair.inSym) =
          some "cbBTC" := by
    decide +kernel
  obtain ⟨best, isBest, isBitcoin⟩ := Option.map_eq_some_iff.mp picked
  obtain ⟨scan, isScan, isPick⟩ := Option.bind_eq_some_iff.mp isBest
  exact ⟨scan, eq_ok_of_toOption isScan, best, isPick, isBitcoin⟩

theorem belongs_iff_bitcoin :
    ∃ (scan : ScanResult) (result : Dict),
      ⟨.appendResult result, ()⟩ ∈ bitcoinTrace ∧
        (Belongs bitcoinPrices result ↔
          PicksConfigured (pairFor "ETH_USDC") scan) := by
  obtain ⟨scan, scanned, _⟩ := bitcoin_scanned
  obtain ⟨result, appended⟩ := bitcoin_appends
  have inTrace := scanned_of_answer bitcoinDay () (pairFor "ETH_USDC")
    "0xaaaa" (.fin 1950) 1 scanned
  exact ⟨scan, result, appended,
    belongs_iff bitcoinDay () "ETH_USDC" "0xaaaa" (.fin 1950) 1 inTrace
      (priced_scanPairs scanned) appended⟩

/-- A pick of cbBTC is recorded as ETH, at the price of bitcoin. -/
theorem bitcoin_recorded_as_eth :
    ¬ ∀ (σ : Type) (environment : Environment DemoVocabulary σ)
        (state : σ) (pairKey wallet : String) (price : PyFloat)
        (number : Int) (prices result : Dict) (scan : ScanResult),
      ⟨.scanPairs (pairFor pairKey).amountWei, .ok scan⟩ ∈
          (cycle (pairFor pairKey) wallet price number).trace environment
            state →
        Priced prices scan.ranked →
          ⟨.appendResult result, ()⟩ ∈
              (cycle (pairFor pairKey) wallet price number).trace
                environment state →
            Belongs prices result := by
  intro always
  obtain ⟨scan, scanned, best, isBest, isBitcoin⟩ := bitcoin_scanned
  obtain ⟨result, appended⟩ := bitcoin_appends
  have inTrace := scanned_of_answer bitcoinDay () (pairFor "ETH_USDC")
    "0xaaaa" (.fin 1950) 1 scanned
  have priced := priced_scanPairs scanned
  obtain ⟨signal, isSignal, belongs⟩ := always Unit bitcoinDay ()
    "ETH_USDC" "0xaaaa" (.fin 1950) 1 bitcoinPrices result scan inTrace
    priced appended
  have records := records_of_trace bitcoinDay () (pairFor "ETH_USDC")
    "0xaaaa" (.fin 1950) 1 inTrace isBest appended
  rw [records] at isSignal
  cases isSignal
  have agrees := (signalBelongs_iff (pairFor "ETH_USDC")
    (scan.pair_of_best isBest) (priced best (scan.mem_of_best isBest))
    records).mp belongs
  rw [isBitcoin] at agrees
  have differs : ("cbBTC" : String) ≠ (pairFor "ETH_USDC").inSym := by
    decide
  exact differs agrees.1

end SwarmFi.Demo
