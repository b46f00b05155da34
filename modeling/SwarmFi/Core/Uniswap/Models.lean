import SwarmFi.Core.Schema

/-!
# Models of the Uniswap Trading API

The parts of the quote and of the swap result that the executor reads and
returns.
-/

namespace SwarmFi.Core.Uniswap

open Python

inductive RoutingType where
  | classic
  | dutchV2
  | dutchV3
  | priority
  | wrap
  | unwrap
  | bridge
  deriving DecidableEq, Repr

def RoutingType.value : RoutingType → String
  | .classic => "CLASSIC"
  | .dutchV2 => "DUTCH_V2"
  | .dutchV3 => "DUTCH_V3"
  | .priority => "PRIORITY"
  | .wrap => "WRAP"
  | .unwrap => "UNWRAP"
  | .bridge => "BRIDGE"

inductive SwapStatus where
  | pending
  | submitted
  | confirmed
  | failed
  | skipped
  deriving DecidableEq, Repr

def SwapStatus.value : SwapStatus → String
  | .pending => "pending"
  | .submitted => "submitted"
  | .confirmed => "confirmed"
  | .failed => "failed"
  | .skipped => "skipped"

def baseChainId : Int := 8453

/-- `QuoteRequest`, whose slippage is bounded by 0 and 50 per cent. -/
structure QuoteRequest where
  tokenIn : String
  tokenOut : String
  tokenInChainId : Int
  tokenOutChainId : Int
  amount : String
  swapper : String
  slippageTolerance : PyFloat
  slippage_in_range : OutOfRange 0 50 slippageTolerance = false

def QuoteRequest.make
    (tokenIn tokenOut : String) (chainId : Int)
    (amount swapper : String) (slippageTolerance : PyFloat) :
    Except Exception QuoteRequest :=
  if slippageInRange : OutOfRange 0 50 slippageTolerance = false then
    .ok {
      tokenIn := tokenIn
      tokenOut := tokenOut
      tokenInChainId := chainId
      tokenOutChainId := chainId
      amount := amount
      swapper := swapper
      slippageTolerance := slippageTolerance
      slippage_in_range := slippageInRange }
  else
    .error (validationError "QuoteRequest" "slippageTolerance"
      (rangeProblem "0" "50" slippageTolerance 0))

structure QuoteResponse where
  routing : RoutingType
  amountOut : Option String
  deriving DecidableEq, Repr

structure SwapResult where
  status : SwapStatus
  txHash : Option String := none
  error : Option String := none
  tokenIn : String
  tokenOut : String
  chainId : Int
  amountIn : String
  amountOut : Option String := none
  routing : Option RoutingType := none
  priceImpact : Option PyFloat := none
  blockNumber : Option Int := none
  gasUsed : Option Int := none
  deriving DecidableEq

def SwapResult.succeeded (result : SwapResult) : Bool :=
  result.status == .confirmed

/-- `to_log_data`: the fields that are not `None`. -/
def SwapResult.toLogData (result : SwapResult) : Dict :=
  [("status", .str result.status.value)] ++
    Dict.present "tx_hash" .str result.txHash ++
    Dict.present "error" .str result.error ++
    [("token_in", .str result.tokenIn),
      ("token_out", .str result.tokenOut),
      ("chain_id", .int result.chainId),
      ("amount_in", .str result.amountIn)] ++
    Dict.present "amount_out" .str result.amountOut ++
    Dict.present "routing" (fun routing => .str routing.value)
      result.routing ++
    Dict.present "price_impact" .float result.priceImpact ++
    Dict.present "block_number" .int result.blockNumber ++
    Dict.present "gas_used" .int result.gasUsed

end SwarmFi.Core.Uniswap
