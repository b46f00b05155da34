import SwarmFi.Core.AxlClient
import SwarmFi.Foundation.Moves
import SwarmFi.Python.Subscript

/-!
# The bootstrap of the registry

`bootstrap` asks the nodes of all configured roles at once and waits for all
of them.  Any number of bootstraps may be under way; their requests are
answered in any order, and one that has raised leaves its other requests
running.  A run is a list of moves: a bootstrap begins, a request is answered,
a bootstrap goes on after its `gather`.
-/

namespace SwarmFi.Core

open Foundation Python

/-! ## The topology of a node -/

structure NodeInfo where
  publicKey : String
  ipv6 : Json

/-- `public_key[:16] + "…"` is logged, which only a string has. -/
def loggedKey : Json → Except Exception String
  | .str publicKey => .ok publicKey
  | .arr _ =>
      .error ⟨.typeError, "can only concatenate list (not \"str\") to list"⟩
  | .obj _ => .error ⟨.typeError, "unhashable type: 'slice'"⟩
  | other => .error other.notSubscriptable

/-- What `topology` makes of the last answer. -/
def readTopology (body : Except Exception Json) :
    Except Exception NodeInfo := do
  let data ← body
  let publicKey ← data.item "our_public_key"
  let ipv6 ← data.item "our_ipv6"
  let publicKey ← loggedKey publicKey
  return ⟨publicKey, ipv6⟩

abbrev TopologyAnswer := Except Exception (Response (Except Exception Json))

/-- The key that an answer tells. -/
def keyTold (answer : TopologyAnswer) : Option String :=
  match attemptOutcome answer with
  | .error _ => none
  | .ok resp => (readTopology resp.body).toOption.map NodeInfo.publicKey

/-! ## One fetch -/

/-- `asking` counts the answers that were failures to be retried. -/
inductive Fetch where
  | asking (retried : Nat)
  | stored
  | failed (exc : Exception)
  deriving DecidableEq

/-- What an answer makes of a fetch. -/
def Fetch.answered (retried : Nat) (answer : TopologyAnswer) : Fetch :=
  match attemptOutcome answer with
  | .error exc =>
      if retryable exc && decide (retried < extraAttempts) then
        .asking (retried + 1)
      else
        .failed exc
  | .ok resp =>
      match readTopology resp.body with
      | .error exc => .failed exc
      | .ok _ => .stored

/-- The key is stored where the answer tells one, and only there. -/
theorem Fetch.answered_cases (retried : Nat) (answer : TopologyAnswer) :
    (Fetch.answered retried answer = .stored ∧
        ∃ key, keyTold answer = some key) ∨
      (keyTold answer = none ∧
        ((∃ exc, Fetch.answered retried answer = .failed exc) ∨
          retried < extraAttempts ∧
            Fetch.answered retried answer = .asking (retried + 1))) := by
  rw [Fetch.answered, keyTold]
  cases attemptOutcome answer with
  | error exc =>
      refine Or.inr ⟨rfl, ?_⟩
      by_cases again :
          (retryable exc && decide (retried < extraAttempts)) = true
      · have inTime := (Bool.and_eq_true_iff.mp again).2
        exact Or.inr ⟨of_decide_eq_true inTime, if_pos again⟩
      · exact Or.inl ⟨exc, if_neg again⟩
  | ok resp =>
      cases isRead : readTopology resp.body with
      | error exc =>
          refine Or.inr ⟨?_, Or.inl ⟨exc, ?_⟩⟩
          · simp only [isRead]
            rfl
          · simp only [isRead]
      | ok info =>
          refine Or.inl ⟨?_, info.publicKey, ?_⟩
          · simp only [isRead]
          · simp only [isRead]
            rfl

/-! ## Bootstraps under way -/

/-- `raised` is the first exception of a fetch, `outcome` what the call
has returned or raised. -/
structure Bootstrap where
  fetches : AgentRole → Fetch
  raised : Option Exception
  outcome : Option (Except Exception Unit)

def Bootstrap.begun : Bootstrap where
  fetches := fun _ => .asking 0
  raised := none
  outcome := none

structure Registrar where
  roles : List AgentRole
  registry : AgentRegistry
  calls : List Bootstrap

inductive RegistrarMove where
  | begin
  | answer (call : Nat) (role : AgentRole) (answer : TopologyAnswer)
  | resume (call : Nat)

/-- A fetch has ended, for better or worse. -/
def Bootstrap.settle (bootstrap : Bootstrap) (role : AgentRole)
    (fetch : Fetch) : Bootstrap :=
  { bootstrap with
    fetches := Function.update bootstrap.fetches role fetch
    raised :=
      match bootstrap.raised, fetch with
      | none, .failed exc => some exc
      | raised, _ => raised }

/-- `ep.public_key = info.public_key` -/
def AgentRegistry.storeKey (registry : AgentRegistry) (role : AgentRole)
    (answer : TopologyAnswer) : AgentRegistry :=
  match keyTold answer with
  | none => registry
  | some key =>
      { registry with
        publicKey := Function.update registry.publicKey role (some key) }

namespace Registrar

/-- `endpoints or self._DEFAULT_ENDPOINTS` -/
def configured (endpoints : List AgentRole) : List AgentRole :=
  if endpoints = [] then [.researcher, .risk, .executor] else endpoints

/-- `AgentRegistry(endpoints)` -/
def start (endpoints : List AgentRole) : Registrar where
  roles := configured endpoints
  registry :=
    { bootstrapped := false
      publicKey := fun role =>
        if role ∈ configured endpoints then some "" else none }
  calls := []

variable (self : Registrar)

/-- The number of retries of a fetch that waits for an answer. -/
def waiting (call : Nat) (role : AgentRole) : Option Nat :=
  match self.calls[call]? with
  | some bootstrap =>
      match bootstrap.fetches role with
      | .asking retried => if role ∈ self.roles then some retried else none
      | _ => none
  | none => none

def answered (call : Nat) (role : AgentRole) (answer : TopologyAnswer) :
    Registrar :=
  match self.waiting call role with
  | none => self
  | some retried =>
      { self with
        registry := self.registry.storeKey role answer
        calls := self.calls.modify call fun bootstrap =>
          bootstrap.settle role (Fetch.answered retried answer) }

/-- What `gather` comes back with, once it does. -/
def gathered (bootstrap : Bootstrap) : Option (Except Exception Unit) :=
  match bootstrap.raised with
  | some exc => some (.error exc)
  | none =>
      if self.roles.all fun role => bootstrap.fetches role = .stored then
        some (.ok ())
      else
        none

/-- What a call that goes on will end with. -/
def ending (call : Nat) : Option (Except Exception Unit) :=
  match self.calls[call]? with
  | some bootstrap =>
      if bootstrap.outcome.isSome then none else self.gathered bootstrap
  | none => none

def resume (call : Nat) : Registrar :=
  match self.ending call with
  | none => self
  | some outcome =>
      { self with
        registry :=
          { self.registry with
            bootstrapped :=
              self.registry.bootstrapped || outcome.isOk }
        calls := self.calls.modify call fun bootstrap =>
          { bootstrap with outcome := some outcome } }

def next : RegistrarMove → Registrar
  | .begin => { self with calls := self.calls ++ [.begun] }
  | .answer call role heard => self.answered call role heard
  | .resume call => self.resume call

/-- Only a request that is out is answered, and only a call whose `gather` is
over goes on. -/
def Possible : RegistrarMove → Prop
  | .begin => True
  | .answer call role _ => (self.waiting call role).isSome
  | .resume call => (self.ending call).isSome

instance (move : RegistrarMove) : Decidable (self.Possible move) :=
  match move with
  | .begin => isTrue trivial
  | .answer call role _ =>
      inferInstanceAs (Decidable ((self.waiting call role).isSome = true))
  | .resume call =>
      inferInstanceAs (Decidable ((self.ending call).isSome = true))

/-- Some bootstrap has returned. -/
def HasReturned : Prop :=
  ∃ bootstrap ∈ self.calls, bootstrap.outcome = some (.ok ())

end Registrar

/-! ## What a run has told -/

def RegistrarMove.tells (role : AgentRole) : RegistrarMove → Option String
  | .answer _ asked heard => if asked = role then keyTold heard else none
  | _ => none

/-- The last key that the node of a role has told. -/
def told (role : AgentRole) (moves : List RegistrarMove) : Option String :=
  (moves.filterMap (RegistrarMove.tells role)).getLast?

/-- How often the node of a role was asked by a bootstrap. -/
def RegistrarMove.asks (call : Nat) (role : AgentRole) :
    RegistrarMove → Bool
  | .answer asked at_ _ => asked = call && at_ = role
  | _ => false

theorem told_snoc
    (role : AgentRole) (moves : List RegistrarMove) (move : RegistrarMove) :
    told role (moves ++ [move]) = (move.tells role).or (told role moves) := by
  rw [told, List.filterMap_append, List.getLast?_append, told]
  cases tells : move.tells role <;> simp [tells]

/-! ## Answers and endings -/

section Moves

variable {registrar : Registrar}

theorem Registrar.waiting_eq_some_iff {call retried : Nat}
    {role : AgentRole} :
    registrar.waiting call role = some retried ↔
      role ∈ registrar.roles ∧ ∃ bootstrap,
        registrar.calls[call]? = some bootstrap ∧
          bootstrap.fetches role = .asking retried := by
  rw [Registrar.waiting]
  cases called : registrar.calls[call]? with
  | none => simp
  | some bootstrap =>
      cases fetch : bootstrap.fetches role with
      | asking count => by_cases member : role ∈ registrar.roles <;>
          simp [member, fetch]
      | _ => simp [fetch]

theorem Registrar.ending_eq_some_iff {call : Nat}
    {outcome : Except Exception Unit} :
    registrar.ending call = some outcome ↔
      ∃ bootstrap, registrar.calls[call]? = some bootstrap ∧
        bootstrap.outcome = none ∧
          registrar.gathered bootstrap = some outcome := by
  rw [Registrar.ending]
  cases called : registrar.calls[call]? with
  | none => simp
  | some bootstrap =>
      cases ended : bootstrap.outcome with
      | none => simp [ended]
      | some other => simp [ended]

/-- A call that returns has stored a key for every role. -/
theorem Registrar.stored_of_gathered {bootstrap : Bootstrap}
    (gathers : registrar.gathered bootstrap = some (.ok ())) :
    ∀ role ∈ registrar.roles, bootstrap.fetches role = .stored := by
  rw [Registrar.gathered] at gathers
  cases raised : bootstrap.raised with
  | some exc =>
      rw [raised] at gathers
      cases gathers
  | none =>
      rw [raised] at gathers
      by_cases all :
          (registrar.roles.all fun role => bootstrap.fetches role = .stored)
            = true
      · intro role member
        exact of_decide_eq_true (List.all_eq_true.mp all role member)
      · rw [if_neg all] at gathers
        cases gathers

theorem Bootstrap.fetches_settle
    (bootstrap : Bootstrap) (settled role : AgentRole) (fetch : Fetch) :
    (bootstrap.settle settled fetch).fetches role =
      if role = settled then fetch else bootstrap.fetches role := by
  by_cases same : role = settled
  · subst same
    rw [if_pos rfl]
    exact Function.update_self ..
  · rw [if_neg same]
    exact Function.update_of_ne same ..

theorem AgentRegistry.publicKey_storeKey (registry : AgentRegistry)
    (asked role : AgentRole) (heard : TopologyAnswer) :
    (registry.storeKey asked heard).publicKey role =
      if asked = role ∧ (keyTold heard).isSome then keyTold heard
      else registry.publicKey role := by
  rw [AgentRegistry.storeKey]
  cases told : keyTold heard with
  | none => simp
  | some key =>
      by_cases same : asked = role
      · subst same
        simp
      · simp [same, Function.update_of_ne (Ne.symm same)]

theorem AgentRegistry.bootstrapped_storeKey (registry : AgentRegistry)
    (asked : AgentRole) (heard : TopologyAnswer) :
    (registry.storeKey asked heard).bootstrapped = registry.bootstrapped := by
  rw [AgentRegistry.storeKey]
  cases keyTold heard <;> rfl

end Moves

/-! ## What every move preserves -/

/-- How often a fetch has asked, as far as its state says. -/
def Fetch.Asked (count : Nat) : Fetch → Prop
  | .asking retried => count = retried ∧ retried ≤ extraAttempts
  | _ => count ≤ extraAttempts + 1

theorem Fetch.Asked.le {count : Nat} {fetch : Fetch}
    (asked : fetch.Asked count) : count ≤ extraAttempts + 1 := by
  cases fetch with
  | asking retried =>
      have same : count = retried := asked.1
      have bound : retried ≤ extraAttempts := asked.2
      omega
  | _ => exact asked

/-- An answer counts as one more request. -/
theorem Fetch.Asked.answered {count retried : Nat}
    (asked : (Fetch.asking retried).Asked count) (heard : TopologyAnswer) :
    (Fetch.answered retried heard).Asked (count + 1) := by
  have same : count = retried := asked.1
  have bound : retried ≤ extraAttempts := asked.2
  rcases Fetch.answered_cases retried heard with stored | failed
  · rw [stored.1]
    exact Nat.succ_le_succ (same ▸ bound)
  · rcases failed.2 with ⟨exc, isFailed⟩ | ⟨inTime, again⟩
    · rw [isFailed]
      exact Nat.succ_le_succ (same ▸ bound)
    · rw [again]
      exact ⟨congrArg Nat.succ same, inTime⟩

/-- A bootstrap that has stored a key has heard it, and one that has returned
has stored them all. -/
structure Bootstrap.Fits (roles : List AgentRole)
    (heard : AgentRole → Option String) (count : AgentRole → Nat)
    (bootstrap : Bootstrap) : Prop where
  stored : ∀ role ∈ roles,
    bootstrap.fetches role = .stored → (heard role).isSome
  complete : bootstrap.outcome = some (.ok ()) →
    ∀ role ∈ roles, bootstrap.fetches role = .stored
  asked : ∀ role, (bootstrap.fetches role).Asked (count role)

/-- The state of a registrar after the moves `made`. -/
structure Registrar.Holds (endpoints : List AgentRole)
    (made : List RegistrarMove) (registrar : Registrar) : Prop where
  roles : registrar.roles = Registrar.configured endpoints
  keys : ∀ role, registrar.registry.publicKey role =
    if role ∈ Registrar.configured endpoints then
      some ((told role made).getD "")
    else
      none
  returned : registrar.registry.bootstrapped = true ↔ registrar.HasReturned
  each : ∀ (call : Nat) (bootstrap : Bootstrap),
    registrar.calls[call]? = some bootstrap →
      bootstrap.Fits (Registrar.configured endpoints)
        (fun role => told role made)
        fun role => made.countP (RegistrarMove.asks call role)
  unmade : ∀ call, registrar.calls.length ≤ call → ∀ role,
    made.countP (RegistrarMove.asks call role) = 0

section Preservation

variable {endpoints : List AgentRole} {made : List RegistrarMove}
  {registrar : Registrar}

theorem asks_snoc (move : RegistrarMove) (call : Nat) (role : AgentRole) :
    (made ++ [move]).countP (RegistrarMove.asks call role) =
      made.countP (RegistrarMove.asks call role) +
        if move.asks call role then 1 else 0 := by
  rw [List.countP_append, List.countP_singleton]

/-- What was told stays told, though perhaps not as the last. -/
theorem told_isSome_snoc {role : AgentRole} (move : RegistrarMove)
    (known : (told role made).isSome) :
    (told role (made ++ [move])).isSome := by
  rw [told_snoc]
  cases move.tells role with
  | none => exact known
  | some key => rfl

theorem Registrar.hasReturned_iff :
    registrar.HasReturned ↔ ∃ (call : Nat) (bootstrap : Bootstrap),
      registrar.calls[call]? = some bootstrap ∧
        bootstrap.outcome = some (.ok ()) := by
  constructor
  · intro returned
    rcases returned with ⟨bootstrap, member, outcome⟩
    rcases List.mem_iff_getElem?.mp member with ⟨call, called⟩
    exact ⟨call, bootstrap, called, outcome⟩
  · intro returned
    rcases returned with ⟨call, bootstrap, called, outcome⟩
    exact ⟨bootstrap, List.mem_of_getElem? called, outcome⟩

/-- A move that asks no node leaves what was told and counted. -/
theorem Bootstrap.Fits.unasked {call : Nat} {bootstrap : Bootstrap}
    {move : RegistrarMove}
    (fits : bootstrap.Fits (Registrar.configured endpoints)
      (fun role => told role made)
      fun role => made.countP (RegistrarMove.asks call role))
    (silent : ∀ role, move.asks call role = false) :
    bootstrap.Fits (Registrar.configured endpoints)
      (fun role => told role (made ++ [move]))
      fun role => (made ++ [move]).countP (RegistrarMove.asks call role) where
  stored := by
    intro role member isStored
    exact told_isSome_snoc move (fits.stored role member isStored)
  complete := fits.complete
  asked := by
    intro role
    have asked := fits.asked role
    rw [asks_snoc, silent role]
    exact asked

theorem Registrar.Holds.begin (holds : registrar.Holds endpoints made) :
    (registrar.next .begin).Holds endpoints (made ++ [.begin]) where
  roles := holds.roles
  keys := by
    intro role
    rw [told_snoc]
    exact holds.keys role
  returned := by
    refine holds.returned.trans ?_
    constructor
    · intro returned
      rcases returned with ⟨bootstrap, member, outcome⟩
      exact ⟨bootstrap, List.mem_append_left _ member, outcome⟩
    · intro returned
      rcases returned with ⟨bootstrap, member, outcome⟩
      rcases List.mem_append.mp member with before | new
      · exact ⟨bootstrap, before, outcome⟩
      · rw [List.mem_singleton.mp new] at outcome
        cases outcome
  each := by
    intro call bootstrap called
    by_cases before : call < registrar.calls.length
    · have old : registrar.calls[call]? = some bootstrap := by
        rw [← List.getElem?_append_left before]
        exact called
      exact (holds.each call bootstrap old).unasked fun _ => rfl
    · have isNew : bootstrap = .begun := by
        have new : [Bootstrap.begun][call - registrar.calls.length]? =
            some bootstrap := by
          rw [← List.getElem?_append_right (Nat.le_of_not_lt before)]
          exact called
        exact List.mem_singleton.mp (List.mem_of_getElem? new)
      subst isNew
      refine ⟨?_, ?_, ?_⟩
      · intro role _ isStored
        cases isStored
      · intro ended
        cases ended
      · intro role
        rw [asks_snoc, holds.unmade call (Nat.le_of_not_lt before) role]
        exact ⟨rfl, Nat.zero_le _⟩
  unmade := by
    intro call beyond role
    have bound : registrar.calls.length + 1 ≤ call := by
      simpa [Registrar.next] using beyond
    rw [asks_snoc, holds.unmade call (by omega) role]
    rfl

/-- The calls after a change of one of them. -/
theorem getElem?_modify_some {calls : List Bootstrap}
    {change : Bootstrap → Bootstrap} {changed call : Nat}
    {bootstrap : Bootstrap}
    (called : (calls.modify changed change)[call]? = some bootstrap) :
    ∃ before, calls[call]? = some before ∧
      bootstrap = if changed = call then change before else before := by
  rw [List.getElem?_modify, Option.map_eq_map, Option.map_eq_some_iff]
    at called
  rcases called with ⟨before, wasCalled, isChanged⟩
  exact ⟨before, wasCalled, isChanged.symm⟩

theorem getElem?_modify_of_some {calls : List Bootstrap}
    (change : Bootstrap → Bootstrap) (changed : Nat) {call : Nat}
    {before : Bootstrap} (wasCalled : calls[call]? = some before) :
    (calls.modify changed change)[call]? =
      some (if changed = call then change before else before) := by
  rw [List.getElem?_modify, wasCalled]
  rfl

/-- The change of a call that had not returned. -/
theorem Registrar.hasReturned_modify_iff {call : Nat} {bootstrap : Bootstrap}
    {change : Bootstrap → Bootstrap} (registry : AgentRegistry)
    (called : registrar.calls[call]? = some bootstrap)
    (notReturned : bootstrap.outcome ≠ some (.ok ())) :
    Registrar.HasReturned
        { registrar with
          registry := registry
          calls := registrar.calls.modify call change } ↔
      registrar.HasReturned ∨ (change bootstrap).outcome = some (.ok ()) := by
  rw [Registrar.hasReturned_iff, Registrar.hasReturned_iff]
  constructor
  · intro returned
    rcases returned with ⟨index, after, isCalled, outcome⟩
    rcases getElem?_modify_some isCalled with ⟨before, wasCalled, isChanged⟩
    by_cases same : call = index
    · subst same
      rw [called] at wasCalled
      cases wasCalled
      rw [isChanged, if_pos rfl] at outcome
      exact Or.inr outcome
    · rw [isChanged, if_neg same] at outcome
      exact Or.inl ⟨index, before, wasCalled, outcome⟩
  · intro returned
    rcases returned with before | now
    · rcases before with ⟨index, before, wasCalled, outcome⟩
      have isCalled := getElem?_modify_of_some change call wasCalled
      by_cases same : call = index
      · subst same
        rw [called] at wasCalled
        cases wasCalled
        exact absurd outcome notReturned
      · rw [if_neg same] at isCalled
        exact ⟨index, before, isCalled, outcome⟩
    · have isCalled := getElem?_modify_of_some change call called
      rw [if_pos rfl] at isCalled
      exact ⟨call, change bootstrap, isCalled, now⟩

/-- The bootstrap whose request was answered. -/
theorem Bootstrap.Fits.answered {call retried : Nat} {role : AgentRole}
    {bootstrap : Bootstrap}
    (fits : bootstrap.Fits (Registrar.configured endpoints)
      (fun role => told role made)
      fun role => made.countP (RegistrarMove.asks call role))
    (isRole : role ∈ Registrar.configured endpoints)
    (asking : bootstrap.fetches role = .asking retried)
    (heard : TopologyAnswer) :
    (bootstrap.settle role (Fetch.answered retried heard)).Fits
      (Registrar.configured endpoints)
      (fun other => told other (made ++ [RegistrarMove.answer call role heard]))
      fun other => (made ++ [RegistrarMove.answer call role heard]).countP
        (RegistrarMove.asks call other) where
  stored := by
    intro other member isStored
    rw [Bootstrap.fetches_settle] at isStored
    by_cases same : other = role
    · subst same
      rw [if_pos rfl] at isStored
      rcases Fetch.answered_cases retried heard with stored | failed
      · rcases stored.2 with ⟨key, isTold⟩
        rw [told_snoc, RegistrarMove.tells, if_pos rfl, isTold]
        rfl
      · rcases failed.2 with ⟨exc, isFailed⟩ | ⟨_, again⟩
        · rw [isFailed] at isStored
          cases isStored
        · rw [again] at isStored
          cases isStored
    · rw [if_neg same] at isStored
      exact told_isSome_snoc _ (fits.stored other member isStored)
  complete := by
    intro ended
    have stored := fits.complete ended role isRole
    rw [asking] at stored
    cases stored
  asked := by
    intro other
    have asked := fits.asked other
    rw [Bootstrap.fetches_settle, asks_snoc]
    by_cases same : other = role
    · subst same
      have isAsked :
          RegistrarMove.asks call other (.answer call other heard) = true := by
        simp [RegistrarMove.asks]
      rw [asking] at asked
      rw [if_pos isAsked, if_pos rfl]
      exact asked.answered heard
    · have notAsked :
          RegistrarMove.asks call other (.answer call role heard) ≠ true := by
        simp [RegistrarMove.asks, Ne.symm same]
      rw [if_neg notAsked, if_neg same]
      exact asked

theorem Registrar.Holds.answer {call retried : Nat} {role : AgentRole}
    (holds : registrar.Holds endpoints made) (heard : TopologyAnswer)
    (waits : registrar.waiting call role = some retried) :
    (registrar.next (.answer call role heard)).Holds endpoints
      (made ++ [.answer call role heard]) := by
  have moved : registrar.next (.answer call role heard) =
      { registrar with
        registry := registrar.registry.storeKey role heard
        calls := registrar.calls.modify call fun bootstrap =>
          bootstrap.settle role (Fetch.answered retried heard) } := by
    rw [Registrar.next, Registrar.answered, waits]
  rcases Registrar.waiting_eq_some_iff.mp waits with
    ⟨isRole, waiting, waitingCall, asking⟩
  rw [holds.roles] at isRole
  rw [moved]
  refine ⟨holds.roles, ?_, ?_, ?_, ?_⟩
  · intro other
    rw [AgentRegistry.publicKey_storeKey, holds.keys other, told_snoc,
      RegistrarMove.tells]
    by_cases same : role = other
    · subst same
      cases keyTold heard with
      | none => simp
      | some key => simp [isRole]
    · simp [same]
  · have notReturned : waiting.outcome ≠ some (.ok ()) := by
      intro ended
      have fits := holds.each call waiting waitingCall
      have stored := fits.complete ended role isRole
      rw [asking] at stored
      cases stored
    rw [AgentRegistry.bootstrapped_storeKey, holds.returned,
      Registrar.hasReturned_modify_iff _ waitingCall notReturned]
    constructor
    · exact Or.inl
    · intro returned
      rcases returned with before | now
      · exact before
      · exact absurd now notReturned
  · intro index bootstrap called
    rcases getElem?_modify_some called with ⟨before, wasCalled, isChanged⟩
    have fits := holds.each index before wasCalled
    by_cases same : call = index
    · subst same
      rw [if_pos rfl] at isChanged
      have isWaiting : before = waiting := by
        rw [wasCalled] at waitingCall
        exact Option.some.inj waitingCall
      subst isWaiting
      rw [isChanged]
      exact fits.answered isRole asking heard
    · rw [if_neg same] at isChanged
      subst isChanged
      refine fits.unasked ?_
      intro other
      simp [RegistrarMove.asks, same]
  · intro index beyond other
    have bound : registrar.calls.length ≤ index := by
      simpa using beyond
    have notCalled : call ≠ index := by
      intro same
      subst same
      rw [List.getElem?_eq_none bound] at waitingCall
      cases waitingCall
    rw [asks_snoc, holds.unmade index bound other]
    simp [RegistrarMove.asks, notCalled]

/-- A call goes on after its `gather`. -/
theorem Registrar.Holds.resume {call : Nat} {outcome : Except Exception Unit}
    (holds : registrar.Holds endpoints made)
    (ends : registrar.ending call = some outcome) :
    (registrar.next (.resume call)).Holds endpoints
      (made ++ [.resume call]) := by
  have moved : registrar.next (.resume call) =
      { registrar with
        registry :=
          { registrar.registry with
            bootstrapped := registrar.registry.bootstrapped || outcome.isOk }
        calls := registrar.calls.modify call fun bootstrap =>
          { bootstrap with outcome := some outcome } } := by
    rw [Registrar.next, Registrar.resume, ends]
  rcases Registrar.ending_eq_some_iff.mp ends with
    ⟨ending, endingCall, notEnded, gathers⟩
  have notReturned : ending.outcome ≠ some (.ok ()) := by
    rw [notEnded]
    exact Option.some_ne_none _ ∘ Eq.symm
  rw [moved]
  refine ⟨holds.roles, ?_, ?_, ?_, ?_⟩
  · intro role
    rw [told_snoc]
    exact holds.keys role
  · rw [Registrar.hasReturned_modify_iff _ endingCall notReturned,
      Bool.or_eq_true, holds.returned]
    refine or_congr Iff.rfl ?_
    cases outcome with
    | error exc => simp [Except.isOk, Except.toBool]
    | ok value => simp [Except.isOk, Except.toBool]
  · intro index bootstrap called
    rcases getElem?_modify_some called with ⟨before, wasCalled, isChanged⟩
    have silent : ∀ role,
        RegistrarMove.asks index role (.resume call) = false :=
      fun _ => rfl
    have fits := (holds.each index before wasCalled).unasked silent
    by_cases same : call = index
    · subst same
      rw [if_pos rfl] at isChanged
      have isEnding : before = ending := by
        rw [wasCalled] at endingCall
        exact Option.some.inj endingCall
      subst isEnding
      rw [isChanged]
      refine ⟨fits.stored, ?_, fits.asked⟩
      intro ended role member
      have isOk : outcome = .ok () := Option.some.inj ended
      rw [isOk] at gathers
      rw [← holds.roles] at member
      exact Registrar.stored_of_gathered gathers role member
    · rw [if_neg same] at isChanged
      rw [isChanged]
      exact fits
  · intro index beyond role
    have bound : registrar.calls.length ≤ index := by
      simpa using beyond
    rw [asks_snoc, holds.unmade index bound role]
    rfl

/-- Nothing is known before the first move. -/
theorem Registrar.Holds.start :
    (Registrar.start endpoints).Holds endpoints [] where
  roles := rfl
  keys := fun _ => rfl
  returned := by
    constructor
    · intro bootstrapped
      cases bootstrapped
    · intro returned
      rcases returned with ⟨_, member, _⟩
      cases member
  each := by
    intro call bootstrap called
    cases called
  unmade := fun _ _ _ => rfl

theorem Registrar.Holds.next {move : RegistrarMove}
    (possible : registrar.Possible move)
    (holds : registrar.Holds endpoints made) :
    (registrar.next move).Holds endpoints (made ++ [move]) := by
  cases move with
  | begin => exact holds.begin
  | answer call role heard =>
      rcases Option.isSome_iff_exists.mp possible with ⟨retried, waits⟩
      exact holds.answer heard waits
  | resume call =>
      rcases Option.isSome_iff_exists.mp possible with ⟨outcome, ends⟩
      exact holds.resume ends

/-- No fetch has asked its node too often. -/
theorem Registrar.Holds.asked_le
    (holds : registrar.Holds endpoints made) (call : Nat)
    (role : AgentRole) :
    made.countP (RegistrarMove.asks call role) ≤ extraAttempts + 1 := by
  by_cases isCall : call < registrar.calls.length
  · have called := List.getElem?_eq_getElem isCall
    exact ((holds.each call _ called).asked role).le
  · rw [holds.unmade call (Nat.le_of_not_lt isCall) role]
    exact Nat.zero_le _

/-- After a bootstrap has returned every configured role has told a key. -/
theorem Registrar.Holds.told_of_hasReturned {role : AgentRole}
    (holds : registrar.Holds endpoints made)
    (returned : registrar.HasReturned)
    (isRole : role ∈ Registrar.configured endpoints) :
    ∃ key, told role made = some key := by
  rcases Registrar.hasReturned_iff.mp returned with
    ⟨call, bootstrap, called, outcome⟩
  have fits := holds.each call bootstrap called
  have stored := fits.complete outcome role isRole
  exact Option.isSome_iff_exists.mp (fits.stored role isRole stored)

end Preservation

/-! ## What a lookup comes back with -/

/-- The registrar after the moves of a run. -/
def Registrar.after (endpoints : List AgentRole)
    (moves : List RegistrarMove) : Registrar :=
  runMoves Registrar.next (Registrar.start endpoints) moves

/-- In every order of answers, with any number of bootstraps under way: no
bootstrap asks a node more than three times, and a lookup fails until one has
returned and gives from then on what the node of the role told last. -/
theorem registry_gives_last_told
    {endpoints : List AgentRole} {moves : List RegistrarMove}
    (met : Meets Registrar.next Registrar.Possible
      (Registrar.start endpoints) moves) :
    (∀ call role, moves.countP (RegistrarMove.asks call role) ≤ 3) ∧
      ∀ role,
        (¬ (Registrar.after endpoints moves).HasReturned →
          ∃ exc, (Registrar.after endpoints moves).registry.pubkeyFor role =
            .error exc ∧ exc.kind = .runtimeError) ∧
        ((Registrar.after endpoints moves).HasReturned →
          role ∉ Registrar.configured endpoints →
            ∃ exc, (Registrar.after endpoints moves).registry.pubkeyFor role =
              .error exc ∧ exc.kind = .keyError) ∧
        ((Registrar.after endpoints moves).HasReturned →
          role ∈ Registrar.configured endpoints →
            ∃ key, told role moves = some key ∧
              (key ≠ "" →
                (Registrar.after endpoints moves).registry.pubkeyFor role =
                  .ok key) ∧
              (key = "" →
                ∃ exc,
                  (Registrar.after endpoints moves).registry.pubkeyFor role =
                    .error exc ∧ exc.kind = .runtimeError)) := by
  have holds : (Registrar.after endpoints moves).Holds endpoints moves :=
    met.history (fun _ _ _ possible => Registrar.Holds.next possible)
      Registrar.Holds.start
  refine ⟨fun call role => holds.asked_le call role, ?_⟩
  generalize Registrar.after endpoints moves = ended at holds
  intro role
  rw [AgentRegistry.pubkeyFor, holds.keys role]
  refine ⟨?_, ?_, ?_⟩
  · intro notReturned
    have notBootstrapped : ¬ ended.registry.bootstrapped = true :=
      fun bootstrapped => notReturned (holds.returned.mp bootstrapped)
    rw [if_neg notBootstrapped]
    exact ⟨_, rfl, rfl⟩
  · intro returned notRole
    rw [if_pos (holds.returned.mpr returned), if_neg notRole]
    exact ⟨_, rfl, rfl⟩
  · intro returned isRole
    rcases holds.told_of_hasReturned returned isRole with ⟨key, isTold⟩
    refine ⟨key, isTold, ?_, ?_⟩
    · intro notEmpty
      rw [if_pos (holds.returned.mpr returned), if_pos isRole, isTold]
      exact if_neg notEmpty
    · intro isEmpty
      rw [if_pos (holds.returned.mpr returned), if_pos isRole, isTold]
      exact ⟨_, if_pos isEmpty, rfl⟩

/-- The answer of a node that tells a key. -/
def tellsKey (key : String) : TopologyAnswer :=
  .ok {
    statusCode := 200
    reasonPhrase := "OK"
    url := "http://127.0.0.1:9002/topology"
    body := .ok (.obj [
      ("our_public_key", .str key), ("our_ipv6", .str "200::1")]) }

def nodeIsDown : TopologyAnswer :=
  .error ⟨.connectError, "All connection attempts failed"⟩

/-- Two bootstraps at once: the first one raises as a node answers 500, the
second one asks the same node again after a connect error. -/
def twoBootstraps : List RegistrarMove :=
  [.begin, .begin,
    .answer 0 .researcher (tellsKey "a1"),
    .answer 1 .risk nodeIsDown,
    .answer 0 .risk (.ok {
      statusCode := 500
      reasonPhrase := "Internal Server Error"
      url := "http://127.0.0.1:9012/topology"
      body := .ok .null }),
    .resume 0,
    .answer 1 .risk (tellsKey "b2"),
    .answer 1 .researcher (tellsKey "c3"),
    .resume 1]

theorem registry_gives_last_told_twoBootstraps :
    (Registrar.after [.researcher, .risk] twoBootstraps).registry.pubkeyFor
        .researcher = .ok "c3" ∧
      twoBootstraps.countP (RegistrarMove.asks 1 .risk) = 2 ∧
        ∃ exc, (Registrar.after [.researcher, .risk]
          twoBootstraps).registry.pubkeyFor .executor = .error exc ∧
            exc.kind = .keyError := by
  have met : Meets Registrar.next Registrar.Possible
      (Registrar.start [.researcher, .risk]) twoBootstraps := by
    decide +kernel
  have returned :
      (Registrar.after [.researcher, .risk] twoBootstraps).HasReturned := by
    unfold Registrar.HasReturned
    decide +kernel
  have isTold : told .researcher twoBootstraps = some "c3" := by
    decide +kernel
  have everyRole :=
    (@registry_gives_last_told [.researcher, .risk] twoBootstraps met).2
  rcases (everyRole .researcher).2.2 returned (by decide) with
    ⟨key, keyTold, found, _⟩
  rw [isTold] at keyTold
  cases keyTold
  exact ⟨found (by decide), by decide +kernel,
    (everyRole .executor).2.1 returned (by decide)⟩

end SwarmFi.Core
