import SwarmFi.Core.Uniswap.Executor

/-!
# What a dry run does

In dry-run mode neither the approval nor the swap is broadcast.  The order
endpoint is behind no such check: a quote that is routed to it is handed in.
-/

namespace SwarmFi.Core.Uniswap.DryRun

open Foundation Python Compute SwapSteps SwapExecutor

/-! ## Effects -/

/-- A call of `_broadcast`, or one of the order endpoint. -/
def Effect : SwapCall → Prop
  | .order _ => True
  | .connect => True
  | .fromKey _ => True
  | .getTransactionCount _ => True
  | .signTransaction _ => True
  | .sendRawTransaction _ => True
  | _ => False

def NoEffects (events : List (Event SwapVocabulary)) : Prop :=
  ∀ event ∈ events, ¬ Effect event.call

/-- A quote came back that is routed to the order endpoint. -/
def OrderQuoted (events : List (Event SwapVocabulary)) : Prop :=
  ∃ request swapType response,
    (⟨.quote request swapType, .ok response⟩ : Event SwapVocabulary) ∈
        events ∧
      response.useOrderEndpoint = true

/-- A call that has no effect and asks for no quote. -/
def Quiet : SwapCall → Prop
  | .checkApproval _ => True
  | .swap _ => True
  | _ => False

theorem not_effect_of_quiet {request : SwapCall} (quiet : Quiet request) :
    ¬ Effect request := by
  cases request with
  | checkApproval request => exact id
  | swap request => exact id
  | _ => exact quiet.elim

theorem OrderQuoted.append {events : List (Event SwapVocabulary)}
    (quoted : OrderQuoted events) (later : List (Event SwapVocabulary)) :
    OrderQuoted (events ++ later) := by
  obtain ⟨request, swapType, response, member, orders⟩ := quoted
  exact ⟨request, swapType, response, List.mem_append_left _ member,
    orders⟩

/-- An event that is no such quote. -/
theorem orderQuoted_snoc {events : List (Event SwapVocabulary)}
    {event : Event SwapVocabulary}
    (other : ¬ OrderQuoted [event])
    (quoted : OrderQuoted (events ++ [event])) : OrderQuoted events := by
  obtain ⟨request, swapType, response, member, orders⟩ := quoted
  rcases List.mem_append.mp member with earlier | last
  · exact ⟨request, swapType, response, earlier, orders⟩
  · exact absurd ⟨request, swapType, response, last, orders⟩ other

/-- Quiet calls bring no quote. -/
theorem orderQuoted_append_quiet
    {events later : List (Event SwapVocabulary)}
    (quiet : ∀ event ∈ later, Quiet event.call) :
    OrderQuoted (events ++ later) ↔ OrderQuoted events := by
  constructor
  · intro quoted
    obtain ⟨request, swapType, response, member, orders⟩ := quoted
    rcases List.mem_append.mp member with earlier | isLater
    · exact ⟨request, swapType, response, earlier, orders⟩
    · exact (quiet _ isLater).elim
  · intro quoted
    exact quoted.append later

/-! ## A dry run, call by call -/

/-- An effect comes only after such a quote. -/
def EffectGuard (history : List (Event SwapVocabulary))
    (request : SwapCall) : Prop :=
  Effect request → OrderQuoted history

/-- After such a quote there has been an effect. -/
def EffectPost {α : Type} (_ : Except Exception α)
    (history : List (Event SwapVocabulary)) : Prop :=
  OrderQuoted history → ∃ event ∈ history, Effect event.call

section DryRun

variable {executor : SwapExecutor} (dry : executor.dryRun = true)

theorem free_of_quiet (history : List (Event SwapVocabulary))
    (request : SwapCall) (quiet : Quiet request) :
    EffectGuard history request :=
  fun effect => absurd effect (not_effect_of_quiet quiet)

include dry in
theorem uses_approving (asked : Order) :
    (executor.approving asked).Uses Quiet := by
  unfold approving
  split
  · trivial
  · apply (uses_checkApproval trivial).bind
    intro response
    split
    · rw [if_pos dry]
      trivial
    · trivial

include dry in
theorem uses_submitSwap (asked : Order) (response : FullQuoteResponse)
    (request : SwapRequest) :
    (executor.submitSwap asked response request).Uses Quiet := by
  apply (uses_swap trivial).bind
  intro transaction
  apply (Program.uses_ofExcept _).bind
  intro _
  rw [if_pos dry]
  trivial

include dry in
theorem signatureFor_dry (response : FullQuoteResponse) :
    executor.signatureFor response = .done none := by
  unfold signatureFor
  cases response.permitData with
  | none => rfl
  | some permitData => exact if_pos dry

/-- A quiet program from a history without such a quote. -/
theorem satisfies_of_quiet {α : Type} {program : SwapSteps α}
    (uses : program.Uses Quiet) {history : List (Event SwapVocabulary)}
    (unquoted : ¬ OrderQuoted history) :
    program.Satisfies EffectGuard EffectPost history := by
  apply uses.satisfies free_of_quiet
  intro outcome later quiet quoted
  exact absurd ((orderQuoted_append_quiet quiet).mp quoted) unquoted

/-- After such a quote and an effect, nothing more is asked. -/
theorem satisfies_of_ordered {α : Type} (program : SwapSteps α)
    {history : List (Event SwapVocabulary)}
    (quoted : OrderQuoted history)
    (effect : ∃ event ∈ history, Effect event.call) :
    program.Satisfies EffectGuard EffectPost history := by
  induction program generalizing history with
  | done value => exact fun _ => effect
  | raise error => exact fun _ => effect
  | call request next inductionHypothesis =>
      constructor
      · exact fun _ => quoted
      · intro answer
        apply inductionHypothesis
        · exact quoted.append _
        · obtain ⟨event, member, isEffect⟩ := effect
          exact ⟨event, List.mem_append_left _ member, isEffect⟩

theorem satisfies_submitOrder (asked : Order)
    (response : FullQuoteResponse) (request : SwapRequest)
    {history : List (Event SwapVocabulary)}
    (quoted : OrderQuoted history) :
    (submitOrder asked response request).Satisfies EffectGuard EffectPost
      history := by
  constructor
  · intro _
    exact quoted
  · intro answer
    apply satisfies_of_ordered
    · exact quoted.append _
    · exact ⟨_, List.mem_append_right _ (List.mem_singleton_self _),
        trivial⟩

include dry in
/-- What follows the approval. -/
theorem satisfies_trading (asked : Order)
    {history : List (Event SwapVocabulary)}
    (unquoted : ¬ OrderQuoted history) :
    (executor.trading asked).Satisfies EffectGuard EffectPost
      history := by
  apply (Program.satisfies_ofExcept_bind _ _ _).mpr
  cases QuoteRequest.make asked.tokenIn asked.tokenOut asked.chainId
      asked.amountInWei executor.walletAddress asked.slippage with
  | error exc =>
      intro quoted
      exact absurd quoted unquoted
  | ok request =>
      constructor
      · intro effect
        exact effect.elim
      · intro answer
        cases answer with
        | error exc =>
            intro quoted
            apply absurd _ unquoted
            apply orderQuoted_snoc _ quoted
            intro only
            obtain ⟨_, _, _, member, _⟩ := only
            cases List.mem_singleton.mp member
        | ok response =>
            show (((executor.signatureFor response).bind _).Satisfies
              EffectGuard EffectPost _)
            rw [signatureFor_dry dry]
            show (executor.submit asked response _).Satisfies EffectGuard
              EffectPost _
            unfold submit
            by_cases orders : response.useOrderEndpoint = true
            · rw [if_pos orders]
              apply satisfies_submitOrder
              exact ⟨request, asked.swapType, response,
                List.mem_append_right _ (List.mem_singleton_self _),
                orders⟩
            · rw [if_neg orders]
              apply satisfies_of_quiet (uses_submitSwap dry asked _ _)
              intro quoted
              apply unquoted
              apply orderQuoted_snoc _ quoted
              intro only
              obtain ⟨_, _, other, member, othersOrder⟩ := only
              cases List.mem_singleton.mp member
              exact orders othersOrder

include dry in
theorem satisfies_swapping (asked : Order) :
    (executor.swapping asked).Satisfies EffectGuard EffectPost [] := by
  have unquoted : ¬ OrderQuoted [] := by
    intro quoted
    obtain ⟨_, _, _, member, _⟩ := quoted
    cases member
  apply (Program.satisfies_bind _ _ _).mpr
  apply (uses_approving dry asked).satisfies free_of_quiet
  intro outcome later quiet
  have stillUnquoted : ¬ OrderQuoted ([] ++ later) := by
    intro quoted
    exact unquoted ((orderQuoted_append_quiet quiet).mp quoted)
  cases outcome with
  | error exc =>
      intro quoted
      exact absurd quoted stillUnquoted
  | ok _ => exact satisfies_trading dry asked stillUnquoted

end DryRun

/-- A dry run has no effect exactly when no quote comes back that is routed to
the order endpoint. -/
theorem noEffects_iff {σ : Type}
    (environment : Environment SwapVocabulary σ) (state : σ)
    (executor : SwapExecutor) (asked : Order)
    (dry : executor.dryRun = true ∨ executor.privateKey = none) :
    NoEffects ((executor.executeSwap asked).trace environment state) ↔
      ¬ OrderQuoted
        ((executor.executeSwap asked).trace environment state) := by
  have isDry : executor.dryRun = true := by
    rcases dry with isDry | keyless
    · exact isDry
    · exact executor.keyless_dry keyless
  have sameTrace :
      (executor.executeSwap asked).trace environment state =
        (executor.swapping asked).trace environment state :=
    Program.trace_recover_done _ _ (failedSwap asked) state
  rw [sameTrace]
  obtain ⟨finished, guarded⟩ :=
    (satisfies_swapping isDry asked).trace environment state
  constructor
  · intro noEffects quoted
    obtain ⟨event, member, effect⟩ := finished quoted
    exact noEffects event member effect
  · intro unquoted event member effect
    obtain ⟨before, after, isTrace⟩ := List.append_of_mem member
    have quoted := guarded before event after isTrace effect
    apply unquoted
    rw [isTrace]
    exact quoted.append _

/-! ## A gasless quote -/

/-- Every quote comes back as a DUTCH_V2 order. -/
def gaslessAnswers : (request : SwapCall) → SwapCall.Answer request
  | .checkApproval _ => .ok {}
  | .quote _ _ =>
      .ok {
        routing := .dutchV2
        amountOut := some "1950000000"
        quote := [("amount", .str "1000000000000000000")] }
  | .swap _ => .error ⟨.runtimeError, "no swap"⟩
  | .order _ => .ok (.obj [("orderId", .str "order-1")])
  | .signPermit _ => .error ⟨.runtimeError, "no wallet"⟩
  | .connect => .error ⟨.runtimeError, "no node"⟩
  | .fromKey _ => .error ⟨.runtimeError, "no wallet"⟩
  | .getTransactionCount _ => .error ⟨.runtimeError, "no node"⟩
  | .signTransaction _ => .error ⟨.runtimeError, "no wallet"⟩
  | .sendRawTransaction _ => .error ⟨.runtimeError, "no node"⟩
  | .getTransactionReceipt _ => .error ⟨.runtimeError, "no node"⟩
  | .sleep => ()

def gasless : Environment SwapVocabulary Unit :=
  fun _ request => (gaslessAnswers request, ())

def dryExecutor : SwapExecutor := .new "0xaaaa" none true

def etherOrder : Order where
  tokenIn := nativeEth
  tokenOut := usdc
  amountInWei := "1000000000000000000"

theorem noEffects_iff_gasless :
    NoEffects ((dryExecutor.executeSwap etherOrder).trace gasless ()) ↔
      ¬ OrderQuoted
        ((dryExecutor.executeSwap etherOrder).trace gasless ()) :=
  noEffects_iff gasless () dryExecutor etherOrder (Or.inl rfl)

/-- Whether an event is an order that is handed in. -/
def isOrder : Event SwapVocabulary → Bool
  | ⟨.order _, _⟩ => true
  | _ => false

/-- A dry run hands in a gasless order. -/
theorem dry_run_orders :
    ¬ ∀ (σ : Type) (environment : Environment SwapVocabulary σ) (state : σ)
        (executor : SwapExecutor) (asked : Order),
      executor.dryRun = true ∨ executor.privateKey = none →
        NoEffects
          ((executor.executeSwap asked).trace environment state) := by
  intro always
  have quiet := always Unit gasless () dryExecutor etherOrder (Or.inl rfl)
  have ordered : ((dryExecutor.executeSwap etherOrder).trace gasless
      ()).any isOrder = true := by
    decide +kernel
  obtain ⟨event, member, orders⟩ := List.any_eq_true.mp ordered
  apply quiet event member
  obtain ⟨request, answer⟩ := event
  cases request with
  | order request => trivial
  | _ => cases orders

end SwarmFi.Core.Uniswap.DryRun
