import SwarmFi.Core.Ens.Resolver

/-!
# Reading back what was written

A text record is written in two ways and read in two ways, with a cache on
either side.  A write is read back when no cache holds an older text: the
identity's cache for a text update, the resolver's cache for a registration.
-/

namespace SwarmFi.Core.Ens

open Python

/-! ## Reads and writes of one record -/

/-- The fields of a profile under the keys that they are read for. -/
def Profile.fields (profile : Profile) : List (String × Option String) :=
  [("axl_pubkey", profile.axlPubkey), ("swarmfi.role", some profile.role),
    ("swarmfi.status", profile.status), ("swarmfi.last", profile.last),
    ("swarmfi.tx", profile.tx), ("swarmfi.snapshot", profile.snapshot)]

/-- A read of the record by the next call would answer this. -/
inductive AgentIdentity.Answers (identity : AgentIdentity) (role : String) :
    String → Option String → Prop
  | pubkey : Answers identity role textRecord (identity.getAxlPubkey role).1
  | field (key : String) (answer : Option String) :
      (key, answer) ∈ (identity.getProfile role).1.fields →
        Answers identity role key answer

/-- Every read of the record answers this. -/
def AgentIdentity.Reads (identity : AgentIdentity) (role key : String)
    (expected : Option String) : Prop :=
  ∀ answer, identity.Answers role key answer → answer = expected

/-- The value that a call writes to a record. -/
def IdentityCall.written? (call : IdentityCall) (role key : String) :
    Option String :=
  match call with
  | .registerPubkey writer pubkey =>
      if writer = role ∧ key = textRecord then some pubkey else none
  | .updateText writer writtenKey value =>
      if writer = role ∧ key = writtenKey then some value else none
  | .getAxlPubkey _ => none
  | .getProfile _ => none

/-- The value of the last write to a record, over one from before. -/
def lastWrite (role key : String) (calls : List IdentityCall)
    (before : Option String) : Option String :=
  calls.foldl
    (fun value call =>
      match call.written? role key with
      | some written => some written
      | none => value)
    before

/-- At every point of a sequence the record reads as it was last written, and
the two reads of a key agree. -/
structure ReadsBack (start : AgentIdentity) (calls : List IdentityCall)
    (role key : String) : Prop where
  written : ∀ before after, calls = before ++ after →
    ∀ value, lastWrite role key before none = some value →
      (start.play before).Reads role key (some value)
  agree : key = textRecord → ∀ before after, calls = before ++ after →
    ((start.play before).getAxlPubkey role).1 =
      ((start.play before).getProfile role).1.axlPubkey

/-! ## Which writes are read back -/

/-- A write is read back: a text update of the key meets no other key in the
identity's cache, a registration no other text in the resolver's, and the
record of the role, whose field is the argument, is given that very role. -/
def AgentIdentity.Fits (identity : AgentIdentity) (role key : String) :
    IdentityCall → Prop
  | .registerPubkey writer pubkey =>
      writer = role → key = textRecord →
        ∀ cached, identity.resolver.cachedText
            (identity.nameFor role) textRecord = some cached →
          cached = pubkey
  | .updateText writer writtenKey value =>
      writer = role → key = writtenKey →
        (key = textRecord →
          ∀ cached, identity.cache.get? (identity.nameFor role) =
              some cached →
            cached = value) ∧
          (key = "swarmfi.role" → value = role)
  | .getAxlPubkey _ => True
  | .getProfile _ => True

/-- Every write of a sequence to the record meets caches that fit. -/
def WritesFit (start : AgentIdentity) (calls : List IdentityCall)
    (role key : String) : Prop :=
  ∀ before call after, calls = before ++ call :: after →
    (start.play before).Fits role key call

/-! ## What a record reads -/

/-- What the profile has for a key: the record, but the argument for the
role. -/
def AgentIdentity.profileText (identity : AgentIdentity)
    (role key : String) : Option String :=
  if key = "swarmfi.role" then
    some role
  else
    identity.resolver.read (identity.nameFor role) key

namespace AgentIdentity

theorem fields_getProfile (identity : AgentIdentity) (role : String) :
    (identity.getProfile role).1.fields =
      profileKeys.map fun key => (key, identity.profileText role key) := by
  have values := (readRecords_spec (identity.nameFor role) profileKeys
    identity.resolver).1
  have pubkey := values "axl_pubkey" (by decide)
  have status := values "swarmfi.status" (by decide)
  have last := values "swarmfi.last" (by decide)
  have tx := values "swarmfi.tx" (by decide)
  have snapshot := values "swarmfi.snapshot" (by decide)
  simp only [getProfile, Profile.fields, pubkey, status, last, tx, snapshot]
  rfl

theorem axlPubkey_getProfile (identity : AgentIdentity) (role : String) :
    (identity.getProfile role).1.axlPubkey =
      identity.resolver.read (identity.nameFor role) textRecord :=
  (readRecords_spec (identity.nameFor role) profileKeys
    identity.resolver).1 "axl_pubkey" (by decide)

/-- A record reads as expected when the profile does and, for the key, when
nothing else is in the identity's cache. -/
theorem reads_iff (identity : AgentIdentity) (role key : String)
    (expected : Option String) :
    identity.Reads role key expected ↔
      (key ∈ profileKeys → identity.profileText role key = expected) ∧
        (key = textRecord →
          ∀ cached, identity.cache.get? (identity.nameFor role) =
              some cached →
            some cached = expected) := by
  constructor
  · intro reads
    constructor
    · intro listed
      apply reads
      apply Answers.field
      rw [fields_getProfile]
      exact List.mem_map_of_mem listed
    · intro isPubkey cached isCached
      have answer := reads (identity.getAxlPubkey role).1 (by
        rw [isPubkey]
        exact Answers.pubkey)
      rw [answer_getAxlPubkey, isCached] at answer
      exact answer
  · intro both answer answers
    obtain ⟨fields, caches⟩ := both
    cases answers with
    | pubkey =>
        rw [answer_getAxlPubkey]
        cases cached : identity.cache.get? (identity.nameFor role) with
        | some pubkey => exact caches rfl pubkey cached
        | none => exact fields (by decide)
    | field key answer listed =>
        rw [fields_getProfile] at listed
        obtain ⟨found, isKey, same⟩ := List.mem_map.mp listed
        cases same
        exact fields isKey

/-- A read agrees with the profile when the record reads as anything. -/
theorem Reads.agree {identity : AgentIdentity} {role : String}
    {expected : Option String}
    (reads : identity.Reads role textRecord expected) :
    (identity.getAxlPubkey role).1 =
      (identity.getProfile role).1.axlPubkey := by
  have pubkey := reads _ Answers.pubkey
  have field := ((reads_iff identity role textRecord expected).mp reads).1
    (by decide)
  rw [pubkey, axlPubkey_getProfile]
  exact field.symm

/-! ## One call -/

/-- What a record reads is settled by three parts of an identity. -/
theorem Reads.congr {first second : AgentIdentity} {role key : String}
    {expected : Option String}
    (reads : first.Reads role key expected)
    (sameName : second.nameFor role = first.nameFor role)
    (sameText : second.resolver.read (first.nameFor role) key =
      first.resolver.read (first.nameFor role) key)
    (sameCache : key = textRecord →
      second.cache.get? (first.nameFor role) =
        first.cache.get? (first.nameFor role)) :
    second.Reads role key expected := by
  rw [reads_iff] at reads ⊢
  obtain ⟨fields, caches⟩ := reads
  constructor
  · intro listed
    rw [← fields listed]
    unfold profileText
    rw [sameName, sameText]
  · intro isPubkey cached isCached
    rw [sameName, sameCache isPubkey] at isCached
    exact caches isPubkey cached isCached

theorem name_ne {identity : AgentIdentity} {role writer key other : String}
    (apart : ¬ (writer = role ∧ key = other)) :
    (identity.nameFor role, key) ≠ (identity.nameFor writer, other) := by
  intro same
  obtain ⟨sameName, sameKey⟩ := Prod.mk.inj same
  exact apart ⟨(identity.nameFor_injective sameName).symm, sameKey⟩

/-- A call that writes elsewhere, or only reads, leaves what is read. -/
theorem Reads.unwritten {identity : AgentIdentity} {role key : String}
    {expected : Option String}
    (reads : identity.Reads role key expected) {call : IdentityCall}
    (elsewhere : call.written? role key = none) :
    (identity.apply call).Reads role key expected := by
  cases call with
  | registerPubkey writer pubkey =>
      have apart : ¬ (writer = role ∧ key = textRecord) := by
        intro here
        unfold IdentityCall.written? at elsewhere
        simp only [if_pos here] at elsewhere
        cases elsewhere
      have sameName : (identity.registerPubkey writer pubkey).nameFor role =
          identity.nameFor role := rfl
      apply reads.congr sameName
      · show (identity.resolver.setTextRecord _ _ _).read _ _ = _
        rw [Resolver.read_setTextRecord, if_neg (name_ne apart)]
      · intro isPubkey
        apply Mapping.get?_set_of_ne
        intro sameName
        exact apart
          ⟨(identity.nameFor_injective sameName).symm, isPubkey⟩
  | updateText writer writtenKey value =>
      have apart : ¬ (writer = role ∧ key = writtenKey) := by
        intro here
        unfold IdentityCall.written? at elsewhere
        simp only [if_pos here] at elsewhere
        cases elsewhere
      have sameName :
          (identity.updateText writer writtenKey value).nameFor role =
            identity.nameFor role := rfl
      apply reads.congr sameName
      · show (identity.resolver.cacheText _ _ _).read _ _ = _
        rw [Resolver.read_cacheText, if_neg (name_ne apart)]
      · intro _
        rfl
  | getProfile reader =>
      have sameName : (identity.getProfile reader).2.nameFor role =
          identity.nameFor role := rfl
      apply reads.congr sameName
      · exact (readRecords_spec _ profileKeys identity.resolver).2 _ _
      · intro _
        rfl
  | getAxlPubkey reader =>
      have sameName : (identity.getAxlPubkey reader).2.nameFor role =
          identity.nameFor role := by
        unfold nameFor
        rw [domain_getAxlPubkey]
      have sameText := identity.read_getAxlPubkey reader
        (identity.nameFor role) key
      rcases identity.cache_getAxlPubkey reader (identity.nameFor role) with
        sameCache | ⟨_, _, cachesRead⟩
      · exact reads.congr sameName sameText fun _ => sameCache
      · -- what is cached now is the record that the profile shows
        rw [reads_iff] at reads ⊢
        obtain ⟨fields, _⟩ := reads
        constructor
        · intro listed
          rw [← fields listed]
          show (identity.getAxlPubkey reader).2.profileText role key = _
          unfold profileText
          rw [sameName, sameText]
        · intro isPubkey cached isCached
          have isRead : (identity.getAxlPubkey reader).2.cache.get?
              (identity.nameFor role) = some cached := by
            rw [← sameName]
            exact isCached
          rw [cachesRead] at isRead
          subst isPubkey
          rw [← fields (by decide), ← isRead]
          rfl

/-- A call that writes the record is read back exactly when it fits. -/
theorem reads_written_iff {identity : AgentIdentity}
    {role key value : String} {call : IdentityCall}
    (writes : call.written? role key = some value) :
    (identity.apply call).Reads role key (some value) ↔
      identity.Fits role key call := by
  cases call with
  | getProfile reader => cases writes
  | getAxlPubkey reader => cases writes
  | registerPubkey writer pubkey =>
      unfold IdentityCall.written? at writes
      by_cases here : writer = role ∧ key = textRecord
      · simp only [if_pos here] at writes
        cases writes
        obtain ⟨sameRole, isPubkey⟩ := here
        subst sameRole
        subst isPubkey
        rw [reads_iff]
        have shown : (identity.apply (.registerPubkey writer value)
            ).profileText writer textRecord =
              some ((identity.resolver.cachedText
                (identity.nameFor writer) textRecord).getD value) := by
          show (identity.resolver.setTextRecord _ _ _).read _ _ = _
          rw [Resolver.read_setTextRecord]
          exact if_pos rfl
        have cached : (identity.apply (.registerPubkey writer value)
            ).cache.get? (identity.nameFor writer) = some value :=
          Mapping.get?_set_self _ _ _
        constructor
        · intro both _ _ text isText
          have fields := both.1 (by decide)
          rw [shown, isText] at fields
          exact Option.some.inj fields
        · intro fits
          constructor
          · intro _
            rw [shown]
            cases isText : identity.resolver.cachedText
                (identity.nameFor writer) textRecord with
            | none => rfl
            | some text =>
                exact congrArg some (fits rfl rfl text isText)
          · intro _ other isOther
            rw [← isOther]
            exact cached
      · simp only [if_neg here] at writes
        cases writes
  | updateText writer writtenKey written =>
      unfold IdentityCall.written? at writes
      by_cases here : writer = role ∧ key = writtenKey
      · simp only [if_pos here] at writes
        cases writes
        obtain ⟨sameRole, sameKey⟩ := here
        subst sameRole
        subst sameKey
        rw [reads_iff]
        have shown : (identity.resolver.cacheText (identity.nameFor writer)
            key value).read (identity.nameFor writer) key =
              some value := by
          rw [Resolver.read_cacheText]
          exact if_pos rfl
        constructor
        · intro both _ _
          constructor
          · intro isPubkey cached isCached
            exact Option.some.inj (both.2 isPubkey cached isCached)
          · intro isRole
            have fields := both.1 (by rw [isRole]; decide)
            unfold profileText at fields
            rw [if_pos isRole] at fields
            exact (Option.some.inj fields).symm
        · intro fits
          obtain ⟨caches, roles⟩ := fits rfl rfl
          constructor
          · intro _
            unfold profileText
            by_cases isRole : key = "swarmfi.role"
            · rw [if_pos isRole, roles isRole]
            · rw [if_neg isRole]
              exact shown
          · intro isPubkey cached isCached
            exact congrArg some (caches isPubkey cached isCached)
      · simp only [if_neg here] at writes
        cases writes

/-- A call that does not write the record fits. -/
theorem fits_of_unwritten {identity : AgentIdentity} {role key : String}
    {call : IdentityCall} (elsewhere : call.written? role key = none) :
    identity.Fits role key call := by
  cases call with
  | getProfile reader => trivial
  | getAxlPubkey reader => trivial
  | registerPubkey writer pubkey =>
      intro sameRole isPubkey
      unfold IdentityCall.written? at elsewhere
      simp only [if_pos (And.intro sameRole isPubkey)] at elsewhere
      cases elsewhere
  | updateText writer writtenKey value =>
      intro sameRole sameKey
      unfold IdentityCall.written? at elsewhere
      simp only [if_pos (And.intro sameRole sameKey)] at elsewhere
      cases elsewhere

end AgentIdentity

/-! ## Sequences of calls -/

theorem lastWrite_snoc (role key : String) (calls : List IdentityCall)
    (call : IdentityCall) (before : Option String) :
    lastWrite role key (calls ++ [call]) before =
      match call.written? role key with
      | some written => some written
      | none => lastWrite role key calls before := by
  unfold lastWrite
  rw [List.foldl_append]
  rfl

/-- After a write, what was there before does not matter. -/
theorem lastWrite_of_some {role key value : String}
    {calls : List IdentityCall}
    (written : lastWrite role key calls none = some value)
    (before : Option String) :
    lastWrite role key calls before = some value := by
  induction calls using List.reverseRecOn with
  | nil => cases written
  | append_singleton calls call inductionHypothesis =>
      rw [lastWrite_snoc] at written ⊢
      cases writes : call.written? role key with
      | some last =>
          rw [writes] at written
          exact written
      | none =>
          rw [writes] at written
          exact inductionHypothesis written

/-- What a record of a new identity reads. -/
theorem reads_new (domain : String) (addressOf : String → Option String)
    (chain : Option Records) (role key : String) :
    (AgentIdentity.new domain addressOf chain).Reads role key
      ((AgentIdentity.new domain addressOf chain).profileText role key) := by
  rw [AgentIdentity.reads_iff]
  constructor
  · intro _
    rfl
  · intro _ cached isCached
    cases isCached

section Run

variable (domain : String) (addressOf : String → Option String)
  (chain : Option Records) {role key : String}

/-- As long as the writes fit, the record reads as it was last written, or as
it was at the start. -/
theorem reads_play {calls : List IdentityCall}
    (fits : WritesFit (AgentIdentity.new domain addressOf chain) calls role
      key) :
    ((AgentIdentity.new domain addressOf chain).play calls).Reads role key
      (lastWrite role key calls
        ((AgentIdentity.new domain addressOf chain).profileText role
          key)) := by
  induction calls using List.reverseRecOn with
  | nil => exact reads_new domain addressOf chain role key
  | append_singleton calls call inductionHypothesis =>
      have earlier : WritesFit (AgentIdentity.new domain addressOf chain)
          calls role key := by
        intro before other after isCalls
        apply fits before other (after ++ [call])
        rw [isCalls, List.append_assoc]
        rfl
      have reads := inductionHypothesis earlier
      rw [AgentIdentity.play_snoc, lastWrite_snoc]
      cases writes : call.written? role key with
      | none => exact reads.unwritten writes
      | some value =>
          apply (AgentIdentity.reads_written_iff writes).mpr
          exact fits calls call [] rfl

end Run

/-- A record is read back at every point of a sequence exactly when each of
its writes fits the caches that it meets. -/
theorem readsBack_iff (domain : String)
    (addressOf : String → Option String) (chain : Option Records)
    (calls : List IdentityCall) (role key : String) :
    ReadsBack (AgentIdentity.new domain addressOf chain) calls role key ↔
      WritesFit (AgentIdentity.new domain addressOf chain) calls role
        key := by
  constructor
  · intro back before call after isCalls
    cases writes : call.written? role key with
    | none => exact AgentIdentity.fits_of_unwritten writes
    | some value =>
        apply (AgentIdentity.reads_written_iff writes).mp
        rw [← AgentIdentity.play_snoc]
        apply back.written (before ++ [call]) after
        · rw [isCalls, List.append_assoc]
          rfl
        · rw [lastWrite_snoc, writes]
  · intro fits
    have within : ∀ before after, calls = before ++ after →
        WritesFit (AgentIdentity.new domain addressOf chain) before role
          key := by
      intro before after isCalls first call rest isBefore
      apply fits first call (rest ++ after)
      rw [isCalls, isBefore, List.append_assoc]
      rfl
    have reads : ∀ before after, calls = before ++ after →
        ((AgentIdentity.new domain addressOf chain).play before).Reads role
          key (lastWrite role key before
            ((AgentIdentity.new domain addressOf chain).profileText role
              key)) :=
      fun before after isCalls =>
        reads_play domain addressOf chain (within before after isCalls)
    constructor
    · intro before after isCalls value written
      have sameValue := reads before after isCalls
      rw [lastWrite_of_some written] at sameValue
      exact sameValue
    · intro isPubkey before after isCalls
      have sameText := reads before after isCalls
      rw [isPubkey] at sameText
      exact sameText.agree

/-- A key that was read before it is updated is read again as it was. -/
def updatedAfterRead : List IdentityCall :=
  [.getAxlPubkey "researcher",
    .updateText "researcher" "axl_pubkey" "bb"]

theorem update_not_read :
    ¬ ∀ (domain : String) (addressOf : String → Option String)
        (chain : Option Records) (calls : List IdentityCall)
        (role key : String),
      ReadsBack (AgentIdentity.new domain addressOf chain) calls role
        key := by
  intro always
  have back := always "swarmfi.eth" (fun _ => none) none updatedAfterRead
    "researcher" "axl_pubkey"
  have reads := back.written updatedAfterRead [] (List.append_nil _).symm
    "bb" (by decide +kernel)
  have answer := reads _ AgentIdentity.Answers.pubkey
  have stale :
      (((AgentIdentity.new "swarmfi.eth" (fun _ => none) none).play
        updatedAfterRead).getAxlPubkey "researcher").1 =
          some syntheticPubkey := by
    decide +kernel
  rw [stale] at answer
  have differs : some syntheticPubkey ≠ some "bb" := by decide
  exact differs answer

end SwarmFi.Core.Ens
