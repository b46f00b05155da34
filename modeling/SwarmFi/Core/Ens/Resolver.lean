import SwarmFi.Python.Mapping

/-!
# The ENS identity layer

The in-memory resolver, the live one with its cache over the chain, and the
identity with a cache of its own over either.  The calls of an identity are
functions on its state, one after the other.  A write to the chain succeeds
and a read of the chain sees it at once; the hash of its transaction is left
out.  The nested dicts of the source, a name and then a key, are one mapping
here, and the address of a name is what the resolver resolves it to.
-/

namespace SwarmFi.Core.Ens

open Python

/-! ## The resolvers -/

/-- Text records by name and key. -/
abbrev Records := Mapping (String × String) String

/-- `_TEXT_RECORD` -/
def textRecord : String := "axl_pubkey"

/-- `"a" * 64` -/
def syntheticPubkey : String := String.ofList (List.replicate 64 'a')

inductive Resolver where
  | mock (records : Records)
  | live (textCache chain : Records)

namespace Resolver

/-- The text of a record, and the resolver that has read it. -/
def getTextRecord (resolver : Resolver) (name key : String) :
    Option String × Resolver :=
  match resolver with
  | .mock records =>
      match records.get? (name, key) with
      | some value => (some value, .mock records)
      | none =>
          (if key = textRecord then some syntheticPubkey else none,
            .mock records)
  | .live textCache chain =>
      match textCache.get? (name, key) with
      | some cached => (some cached, .live textCache chain)
      | none =>
          match chain.get? (name, key) with
          | none => (none, .live textCache chain)
          | some value =>
              if value = "" then
                (some value, .live textCache chain)
              else
                (some value,
                  .live (textCache.set (name, key) value) chain)

/-- The live resolver writes to the chain and leaves its cache alone. -/
def setTextRecord (resolver : Resolver) (name key value : String) :
    Resolver :=
  match resolver with
  | .mock records => .mock (records.set (name, key) value)
  | .live textCache chain =>
      .live textCache (chain.set (name, key) value)

/-- `_cache_text` -/
def cacheText (resolver : Resolver) (name key value : String) : Resolver :=
  match resolver with
  | .mock records => .mock (records.set (name, key) value)
  | .live textCache chain =>
      .live (textCache.set (name, key) value) chain

end Resolver

/-! ## The identity -/

structure AgentIdentity where
  domain : String
  resolver : Resolver
  cache : Mapping String String
  addressOf : String → Option String

/-- What `get_profile` returns. -/
structure Profile where
  name : String
  role : String
  address : Option String
  axlPubkey : Option String
  status : Option String
  last : Option String
  tx : Option String
  snapshot : Option String

namespace AgentIdentity

/-- A new identity: over the in-memory resolver, or over a live one on this
chain. -/
def new (domain : String) (addressOf : String → Option String)
    (chain : Option Records) : AgentIdentity where
  domain := domain
  resolver :=
    match chain with
    | none => .mock .empty
    | some chain => .live .empty chain
  cache := .empty
  addressOf := addressOf

def nameFor (identity : AgentIdentity) (role : String) : String :=
  role ++ "." ++ identity.domain

def getAxlPubkey (identity : AgentIdentity) (role : String) :
    Option String × AgentIdentity :=
  let name := identity.nameFor role
  match identity.cache.get? name with
  | some pubkey => (some pubkey, identity)
  | none =>
      let (pubkey, resolver) :=
        identity.resolver.getTextRecord name textRecord
      match pubkey with
      | none => (none, { identity with resolver := resolver })
      | some pubkey =>
          if pubkey = "" then
            (some pubkey, { identity with resolver := resolver })
          else
            (some pubkey,
              { identity with
                resolver := resolver
                cache := identity.cache.set name pubkey })

def registerPubkey (identity : AgentIdentity) (role pubkey : String) :
    AgentIdentity :=
  let name := identity.nameFor role
  { identity with
    resolver := identity.resolver.setTextRecord name textRecord pubkey
    cache := identity.cache.set name pubkey }

/-- `_PROFILE_KEYS` -/
def profileKeys : List String :=
  ["axl_pubkey", "swarmfi.role", "swarmfi.status", "swarmfi.last",
    "swarmfi.tx", "swarmfi.snapshot"]

/-- The records of a name under some keys, read one after the other. -/
def readRecords (name : String) :
    List String → Resolver →
      List (String × Option String) × Resolver
  | [], resolver => ([], resolver)
  | key :: rest, resolver =>
      let (value, resolver) := resolver.getTextRecord name key
      let (values, resolver) := readRecords name rest resolver
      ((key, value) :: values, resolver)

/-- `records.get(key)` -/
def recordAt (records : List (String × Option String)) (key : String) :
    Option String :=
  (records.lookup key).getD none

def getProfile (identity : AgentIdentity) (role : String) :
    Profile × AgentIdentity :=
  let name := identity.nameFor role
  let (records, resolver) :=
    readRecords name profileKeys identity.resolver
  ({ name := name
     role := role
     address := identity.addressOf name
     axlPubkey := recordAt records "axl_pubkey"
     status := recordAt records "swarmfi.status"
     last := recordAt records "swarmfi.last"
     tx := recordAt records "swarmfi.tx"
     snapshot := recordAt records "swarmfi.snapshot" },
    { identity with resolver := resolver })

def updateText (identity : AgentIdentity) (role key value : String) :
    AgentIdentity :=
  { identity with
    resolver :=
      identity.resolver.cacheText (identity.nameFor role) key value }

end AgentIdentity

/-! ## Sequences of calls -/

inductive IdentityCall where
  | registerPubkey (role pubkey : String)
  | updateText (role key value : String)
  | getAxlPubkey (role : String)
  | getProfile (role : String)

def AgentIdentity.apply (identity : AgentIdentity) :
    IdentityCall → AgentIdentity
  | .registerPubkey role pubkey => identity.registerPubkey role pubkey
  | .updateText role key value => identity.updateText role key value
  | .getAxlPubkey role => (identity.getAxlPubkey role).2
  | .getProfile role => (identity.getProfile role).2

def AgentIdentity.play (identity : AgentIdentity)
    (calls : List IdentityCall) : AgentIdentity :=
  calls.foldl AgentIdentity.apply identity

theorem AgentIdentity.play_snoc (identity : AgentIdentity)
    (calls : List IdentityCall) (call : IdentityCall) :
    identity.play (calls ++ [call]) = (identity.play calls).apply call := by
  unfold AgentIdentity.play
  rw [List.foldl_append]
  rfl

/-! ## What a resolver answers -/

namespace Resolver

/-- The text that a read returns. -/
def read (resolver : Resolver) (name key : String) : Option String :=
  (resolver.getTextRecord name key).1

/-- The text that the live resolver has cached; the other one reads its
records themselves. -/
def cachedText (resolver : Resolver) (name key : String) : Option String :=
  match resolver with
  | .mock _ => none
  | .live textCache _ => textCache.get? (name, key)

theorem read_mock (records : Records) (name key : String) :
    read (.mock records) name key =
      match records.get? (name, key) with
      | some value => some value
      | none => if key = textRecord then some syntheticPubkey else none := by
  simp only [read, getTextRecord]
  cases records.get? (name, key) <;> rfl

theorem read_live (textCache chain : Records) (name key : String) :
    read (.live textCache chain) name key =
      match textCache.get? (name, key) with
      | some cached => some cached
      | none => chain.get? (name, key) := by
  simp only [read, getTextRecord]
  cases textCache.get? (name, key) with
  | some cached => rfl
  | none =>
      cases chain.get? (name, key) with
      | none => rfl
      | some value =>
          by_cases isEmpty : value = ""
          · simp only [if_pos isEmpty]
          · simp only [if_neg isEmpty]

/-- Reading changes no answer. -/
theorem read_getTextRecord
    (resolver : Resolver) (name key otherName otherKey : String) :
    (resolver.getTextRecord name key).2.read otherName otherKey =
      resolver.read otherName otherKey := by
  cases resolver with
  | mock records =>
      simp only [getTextRecord]
      cases records.get? (name, key) <;> rfl
  | live textCache chain =>
      simp only [getTextRecord]
      cases cached : textCache.get? (name, key) with
      | some text => rfl
      | none =>
          cases onChain : chain.get? (name, key) with
          | none => rfl
          | some value =>
              by_cases isEmpty : value = ""
              · simp only [if_pos isEmpty]
              · simp only [if_neg isEmpty]
                rw [read_live, read_live, Mapping.get?_set]
                by_cases same : (otherName, otherKey) = (name, key)
                · rw [if_pos same, same, cached, onChain]
                · rw [if_neg same]

theorem read_cacheText
    (resolver : Resolver) (name key value otherName otherKey : String) :
    (resolver.cacheText name key value).read otherName otherKey =
      if (otherName, otherKey) = (name, key) then some value
      else resolver.read otherName otherKey := by
  cases resolver with
  | mock records =>
      simp only [cacheText]
      rw [read_mock, read_mock, Mapping.get?_set]
      by_cases same : (otherName, otherKey) = (name, key)
      · rw [if_pos same, if_pos same]
      · rw [if_neg same, if_neg same]
  | live textCache chain =>
      simp only [cacheText]
      rw [read_live, read_live, Mapping.get?_set]
      by_cases same : (otherName, otherKey) = (name, key)
      · rw [if_pos same, if_pos same]
      · rw [if_neg same, if_neg same]

/-- A cached text hides what is written to the chain. -/
theorem read_setTextRecord
    (resolver : Resolver) (name key value otherName otherKey : String) :
    (resolver.setTextRecord name key value).read otherName otherKey =
      if (otherName, otherKey) = (name, key) then
        some ((resolver.cachedText name key).getD value)
      else resolver.read otherName otherKey := by
  cases resolver with
  | mock records =>
      simp only [setTextRecord]
      rw [read_mock, read_mock, Mapping.get?_set]
      by_cases same : (otherName, otherKey) = (name, key)
      · rw [if_pos same, if_pos same]
        rfl
      · rw [if_neg same, if_neg same]
  | live textCache chain =>
      simp only [setTextRecord]
      rw [read_live, read_live, Mapping.get?_set]
      by_cases same : (otherName, otherKey) = (name, key)
      · rw [if_pos same, if_pos same, same]
        simp only [cachedText]
        cases textCache.get? (name, key) <;> rfl
      · rw [if_neg same, if_neg same]

end Resolver

/-! ## What an identity answers -/

namespace AgentIdentity

theorem nameFor_injective (identity : AgentIdentity) {first second : String}
    (same : identity.nameFor first = identity.nameFor second) :
    first = second := by
  unfold nameFor at same
  rw [String.append_assoc, String.append_assoc] at same
  have lists := congrArg String.toList same
  simp only [String.toList_append] at lists
  exact String.toList_injective (List.append_cancel_right lists)

/-- The identity's own cache comes first. -/
theorem answer_getAxlPubkey (identity : AgentIdentity) (role : String) :
    (identity.getAxlPubkey role).1 =
      match identity.cache.get? (identity.nameFor role) with
      | some pubkey => some pubkey
      | none =>
          identity.resolver.read (identity.nameFor role) textRecord := by
  simp only [getAxlPubkey, Resolver.read]
  cases identity.cache.get? (identity.nameFor role) with
  | some pubkey => rfl
  | none =>
      cases (identity.resolver.getTextRecord
        (identity.nameFor role) textRecord).1 with
      | none => rfl
      | some pubkey =>
          by_cases isEmpty : pubkey = ""
          · simp only [if_pos isEmpty]
          · simp only [if_neg isEmpty]

/-- Reading a key changes no record. -/
theorem read_getAxlPubkey
    (identity : AgentIdentity) (role name key : String) :
    (identity.getAxlPubkey role).2.resolver.read name key =
      identity.resolver.read name key := by
  simp only [getAxlPubkey]
  cases identity.cache.get? (identity.nameFor role) with
  | some pubkey => rfl
  | none =>
      have unchanged := identity.resolver.read_getTextRecord
        (identity.nameFor role) textRecord name key
      cases (identity.resolver.getTextRecord
        (identity.nameFor role) textRecord).1 with
      | none => exact unchanged
      | some pubkey =>
          by_cases isEmpty : pubkey = ""
          · simp only [if_pos isEmpty]
            exact unchanged
          · simp only [if_neg isEmpty]
            exact unchanged

/-- A key that is cached while it is read is the one that was read. -/
theorem cache_getAxlPubkey
    (identity : AgentIdentity) (role name : String) :
    (identity.getAxlPubkey role).2.cache.get? name =
        identity.cache.get? name ∨
      name = identity.nameFor role ∧
        identity.cache.get? name = none ∧
          (identity.getAxlPubkey role).2.cache.get? name =
            identity.resolver.read name textRecord := by
  simp only [getAxlPubkey]
  cases cached : identity.cache.get? (identity.nameFor role) with
  | some pubkey => exact Or.inl rfl
  | none =>
      cases isRead : (identity.resolver.getTextRecord
        (identity.nameFor role) textRecord).1 with
      | none => exact Or.inl rfl
      | some pubkey =>
          by_cases isEmpty : pubkey = ""
          · left
            simp only [if_pos isEmpty]
          · simp only [if_neg isEmpty]
            by_cases same : name = identity.nameFor role
            · right
              refine ⟨same, ?_, ?_⟩
              · rw [same]
                exact cached
              · rw [same, Mapping.get?_set_self]
                exact isRead.symm
            · left
              exact Mapping.get?_set_of_ne _ same _

theorem domain_getAxlPubkey (identity : AgentIdentity) (role : String) :
    (identity.getAxlPubkey role).2.domain = identity.domain := by
  simp only [getAxlPubkey]
  cases identity.cache.get? (identity.nameFor role) with
  | some pubkey => rfl
  | none =>
      cases (identity.resolver.getTextRecord
        (identity.nameFor role) textRecord).1 with
      | none => rfl
      | some pubkey =>
          by_cases isEmpty : pubkey = ""
          · simp only [if_pos isEmpty]
          · simp only [if_neg isEmpty]

/-- Reading records one after the other reads each as it is, and changes
none. -/
theorem readRecords_spec (name : String) (keys : List String)
    (resolver : Resolver) :
    (∀ key ∈ keys, recordAt (readRecords name keys resolver).1 key =
        resolver.read name key) ∧
      ∀ otherName key,
        (readRecords name keys resolver).2.read otherName key =
          resolver.read otherName key := by
  induction keys generalizing resolver with
  | nil =>
      constructor
      · intro key member
        cases member
      · intro _ _
        rfl
  | cons first rest inductionHypothesis =>
      obtain ⟨values, kept⟩ :=
        inductionHypothesis (resolver.getTextRecord name first).2
      constructor
      · intro key member
        by_cases isFirst : key = first
        · rw [isFirst]
          simp only [readRecords, recordAt, List.lookup, beq_self_eq_true,
            Option.getD_some]
          rfl
        · have later : key ∈ rest := by
            rcases List.mem_cons.mp member with same | later
            · exact absurd same isFirst
            · exact later
          have same := values key later
          rw [Resolver.read_getTextRecord] at same
          rw [← same]
          simp only [readRecords, recordAt, List.lookup,
            beq_eq_false_iff_ne.mpr isFirst]
      · intro otherName key
        simp only [readRecords]
        rw [kept, Resolver.read_getTextRecord]

end AgentIdentity

end SwarmFi.Core.Ens
