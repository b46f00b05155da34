import SwarmFi.Foundation.Program

/-!
# Triples for programs that end well

A setting is an environment with an assumption on its states, `sound`, that
passes backwards along every call: what is assumed of all that a run leaves
behind then holds all along the run.

* `Triple` speaks of the runs that end with a value in a sound state.
* `Returns` also says that every run that ends in a sound state does so with
  a value.
-/

namespace Foundation

variable {vocabulary : Vocabulary} {ε δ α β ι σ : Type}

structure Setting (vocabulary : Vocabulary) (σ : Type) where
  environment : Environment vocabulary σ
  sound : σ → Prop
  before : ∀ state request,
    sound (environment state request).2 → sound state

namespace Setting

variable (setting : Setting vocabulary σ)

/-- The allowed calls leave the assertion true. -/
def Stable
    (allowed : vocabulary.Call → Prop) (assertion : σ → Prop) : Prop :=
  ∀ state request, allowed request →
    setting.sound (setting.environment state request).2 →
      assertion state → assertion (setting.environment state request).2

/-- The allowed calls leave the state sound. -/
def Calm (allowed : vocabulary.Call → Prop) : Prop :=
  ∀ state request, allowed request → setting.sound state →
    setting.sound (setting.environment state request).2

theorem sound_of_run
    (program : Program vocabulary ε α) (state : σ)
    (sound : setting.sound (program.run setting.environment state).2) :
    setting.sound state := by
  refine Program.run_related
    (fun first second => setting.sound second → setting.sound first)
    (fun _ => id) ?_ setting.before program state sound
  intro first second third earlier later
  exact earlier ∘ later

theorem Stable.and
    {setting : Setting vocabulary σ} {allowed : vocabulary.Call → Prop}
    {first second : σ → Prop}
    (firstStable : setting.Stable allowed first)
    (secondStable : setting.Stable allowed second) :
    setting.Stable allowed fun state => first state ∧ second state :=
  fun state request isAllowed sound holds =>
    ⟨firstStable state request isAllowed sound holds.1,
      secondStable state request isAllowed sound holds.2⟩

theorem Stable.run
    {setting : Setting vocabulary σ} {allowed : vocabulary.Call → Prop}
    {assertion : σ → Prop} (stable : setting.Stable allowed assertion)
    {program : Program vocabulary ε α} (uses : program.Uses allowed)
    {state : σ}
    (sound : setting.sound (program.run setting.environment state).2)
    (holds : assertion state) :
    assertion (program.run setting.environment state).2 := by
  induction program generalizing state with
  | done value => exact holds
  | raise error => exact holds
  | call request next inductionHypothesis =>
      have later := setting.sound_of_run (next _) _ sound
      exact inductionHypothesis _ (uses.2 _) sound
        (stable state request uses.1 later holds)

theorem Calm.run
    {setting : Setting vocabulary σ} {allowed : vocabulary.Call → Prop}
    (calm : setting.Calm allowed)
    {program : Program vocabulary ε α} (uses : program.Uses allowed)
    {state : σ} (sound : setting.sound state) :
    setting.sound (program.run setting.environment state).2 := by
  induction program generalizing state with
  | done value => exact sound
  | raise error => exact sound
  | call request next inductionHypothesis =>
      exact inductionHypothesis _ (uses.2 _)
        (calm state request uses.1 sound)

end Setting

/-! ## Triples -/

def Triple
    (setting : Setting vocabulary σ) (pre : σ → Prop)
    (program : Program vocabulary ε α) (post : α → σ → Prop) : Prop :=
  ∀ state value last, pre state →
    program.run setting.environment state = (.ok value, last) →
      setting.sound last → post value last

namespace Triple

variable {setting : Setting vocabulary σ} {pre : σ → Prop}

theorem done
    {value : α} {post : α → σ → Prop}
    (holds : ∀ state, pre state → post value state) :
    Triple setting pre
      (.done value : Program vocabulary ε α) post := by
  rintro state _ _ before finished _
  cases finished
  exact holds state before

theorem raise
    {error : ε} {post : α → σ → Prop} :
    Triple setting pre
      (.raise error : Program vocabulary ε α) post := by
  rintro state _ _ _ finished
  cases finished

/-- A program that begins with a call. -/
theorem call_bind
    {request : vocabulary.Call}
    {next : vocabulary.Answer request → Program vocabulary ε α}
    {post : α → σ → Prop} (middle : vocabulary.Answer request → σ → Prop)
    (first : ∀ state, pre state →
      setting.sound (setting.environment state request).2 →
        middle (setting.environment state request).1
          (setting.environment state request).2)
    (rest : ∀ answer, Triple setting (middle answer) (next answer) post) :
    Triple setting pre ((Program.call request .done).bind next) post := by
  intro state value last before finished sound
  have nextRun :
      (next (setting.environment state request).1).run setting.environment
        (setting.environment state request).2 = (.ok value, last) :=
    finished
  have soundThere :
      setting.sound (setting.environment state request).2 := by
    refine setting.sound_of_run
      (next (setting.environment state request).1) _ ?_
    rw [nextRun]
    exact sound
  exact rest _ _ value last (first state before soundThere) nextRun sound

/-- A call that leaves the precondition true. -/
theorem stable_bind
    {request : vocabulary.Call}
    {next : vocabulary.Answer request → Program vocabulary ε α}
    {post : α → σ → Prop} {allowed : vocabulary.Call → Prop}
    (stable : setting.Stable allowed pre) (isAllowed : allowed request)
    (rest : ∀ answer, Triple setting pre (next answer) post) :
    Triple setting pre ((Program.call request .done).bind next) post :=
  call_bind (fun _ => pre)
    (fun state before sound => stable state request isAllowed sound before)
    rest

theorem bind
    {program : Program vocabulary ε α}
    {next : α → Program vocabulary ε β}
    {middle : α → σ → Prop} {post : β → σ → Prop}
    (first : Triple setting pre program middle)
    (rest : ∀ value, Triple setting (middle value) (next value) post) :
    Triple setting pre (program.bind next) post := by
  intro state result last before finished sound
  obtain ⟨value, reached, firstRun, nextRun⟩ :=
    (Program.run_bind_eq_ok_iff setting.environment program next state last
      result).mp finished
  have soundThere : setting.sound reached := by
    refine setting.sound_of_run (next value) reached ?_
    rw [nextRun]
    exact sound
  exact rest value reached result last
    (first state value reached before firstRun soundThere) nextRun sound

theorem mono
    {stronger : σ → Prop} {program : Program vocabulary ε α}
    {post weaker : α → σ → Prop} (triple : Triple setting pre program post)
    (before : ∀ state, stronger state → pre state)
    (after : ∀ value state, post value state → weaker value state) :
    Triple setting stronger program weaker :=
  fun state value last start finished sound =>
    after value last
      (triple state value last (before state start) finished sound)

theorem weaken
    {program : Program vocabulary ε α} {post weaker : α → σ → Prop}
    (triple : Triple setting pre program post)
    (after : ∀ value state, post value state → weaker value state) :
    Triple setting pre program weaker :=
  triple.mono (fun _ => id) after

theorem strengthen
    {stronger : σ → Prop} {program : Program vocabulary ε α}
    {post : α → σ → Prop} (triple : Triple setting pre program post)
    (before : ∀ state, stronger state → pre state) :
    Triple setting stronger program post :=
  triple.mono before fun _ _ => id

theorem and
    {program : Program vocabulary ε α} {post other : α → σ → Prop}
    (first : Triple setting pre program post)
    (second : Triple setting pre program other) :
    Triple setting pre program
      fun value state => post value state ∧ other value state :=
  fun state value last before finished sound =>
    ⟨first state value last before finished sound,
      second state value last before finished sound⟩

/-- The last state is sound. -/
theorem with_sound
    {program : Program vocabulary ε α} {post : α → σ → Prop}
    (triple : Triple setting pre program post) :
    Triple setting pre program
      fun value state => post value state ∧ setting.sound state :=
  fun state value last before finished sound =>
    ⟨triple state value last before finished sound, sound⟩

/-- What is known only to exist may be named. -/
theorem exists_pre
    {before : ι → σ → Prop} {program : Program vocabulary ε α}
    {post : α → σ → Prop}
    (triple : ∀ index, Triple setting (before index) program post) :
    Triple setting (fun state => ∃ index, before index state) program
      post :=
  fun state value last start finished sound =>
    let ⟨index, holds⟩ := start
    triple index state value last holds finished sound

/-- A condition that does not speak of the state. -/
theorem of_fact
    {fact : Prop} {program : Program vocabulary ε α}
    {post : α → σ → Prop}
    (triple : fact → Triple setting pre program post) :
    Triple setting (fun state => fact ∧ pre state) program post :=
  fun state value last start finished sound =>
    triple start.1 state value last start.2 finished sound

theorem ofExcept
    {outcome : Except ε α} {post : α → σ → Prop}
    (holds : ∀ value, outcome = .ok value →
      ∀ state, pre state → post value state) :
    Triple setting pre
      (Program.ofExcept outcome : Program vocabulary ε α) post := by
  cases outcome with
  | ok value => exact done (holds value rfl)
  | error error => exact raise

end Triple

/-- What the calls of a program leave alone. -/
theorem Program.Uses.triple
    {setting : Setting vocabulary σ} {allowed : vocabulary.Call → Prop}
    {assertion : σ → Prop} {program : Program vocabulary ε α}
    (uses : program.Uses allowed)
    (stable : setting.Stable allowed assertion) :
    Triple setting assertion program fun _ => assertion := by
  intro state value last before finished sound
  have kept : setting.sound (program.run setting.environment state).2 →
      assertion state →
        assertion (program.run setting.environment state).2 :=
    stable.run uses
  rw [finished] at kept
  exact kept sound before

/-- The frame rule. -/
theorem Triple.frame
    {setting : Setting vocabulary σ} {pre : σ → Prop}
    {program : Program vocabulary ε α} {post : α → σ → Prop}
    (triple : Triple setting pre program post)
    {allowed : vocabulary.Call → Prop} (uses : program.Uses allowed)
    {assertion : σ → Prop} (stable : setting.Stable allowed assertion) :
    Triple setting (fun state => pre state ∧ assertion state) program
      fun value state => post value state ∧ assertion state :=
  (triple.strengthen fun _ => And.left).and
    ((uses.triple stable).strengthen fun _ => And.right)

/-! ## Programs that return -/

def Returns
    (setting : Setting vocabulary σ) (pre : σ → Prop)
    (program : Program vocabulary ε α) (post : α → σ → Prop) : Prop :=
  ∀ state, pre state →
    setting.sound (program.run setting.environment state).2 →
      ∃ value, (program.run setting.environment state).1 = .ok value ∧
        post value (program.run setting.environment state).2

namespace Returns

variable {setting : Setting vocabulary σ} {pre : σ → Prop}

theorem triple
    {program : Program vocabulary ε α} {post : α → σ → Prop}
    (returns : Returns setting pre program post) :
    Triple setting pre program post := by
  intro state value last before finished sound
  obtain ⟨other, isOk, holds⟩ := returns state before (by rwa [finished])
  rw [finished] at isOk holds
  cases isOk
  exact holds

theorem done
    {value : α} {post : α → σ → Prop}
    (holds : ∀ state, pre state → post value state) :
    Returns setting pre (.done value : Program vocabulary ε α) post :=
  fun state before _ => ⟨value, rfl, holds state before⟩

theorem call_bind
    {request : vocabulary.Call}
    {next : vocabulary.Answer request → Program vocabulary ε α}
    {post : α → σ → Prop} (middle : vocabulary.Answer request → σ → Prop)
    (first : ∀ state, pre state →
      setting.sound (setting.environment state request).2 →
        middle (setting.environment state request).1
          (setting.environment state request).2)
    (rest : ∀ answer, Returns setting (middle answer) (next answer) post) :
    Returns setting pre ((Program.call request .done).bind next) post := by
  intro state before sound
  have soundThere := setting.sound_of_run (next _) _ sound
  exact rest _ _ (first state before soundThere) sound

theorem bind
    {program : Program vocabulary ε α}
    {next : α → Program vocabulary ε β}
    {middle : α → σ → Prop} {post : β → σ → Prop}
    (first : Returns setting pre program middle)
    (rest : ∀ value, Returns setting (middle value) (next value) post) :
    Returns setting pre (program.bind next) post := by
  intro state before sound
  have firstReturns := first state before
  rw [Program.run_bind] at sound ⊢
  rcases finished : program.run setting.environment state with
    ⟨outcome, reached⟩
  rw [finished] at sound firstReturns
  cases outcome with
  | ok value =>
      obtain ⟨_, isOk, holds⟩ :=
        firstReturns (setting.sound_of_run (next value) reached sound)
      cases isOk
      exact rest value reached holds sound
  | error error =>
      obtain ⟨_, isOk, _⟩ := firstReturns sound
      cases isOk

theorem strengthen
    {stronger : σ → Prop} {program : Program vocabulary ε α}
    {post : α → σ → Prop} (returns : Returns setting pre program post)
    (before : ∀ state, stronger state → pre state) :
    Returns setting stronger program post :=
  fun state start => returns state (before state start)

theorem weaken
    {program : Program vocabulary ε α} {post weaker : α → σ → Prop}
    (returns : Returns setting pre program post)
    (after : ∀ value state, post value state → weaker value state) :
    Returns setting pre program weaker := by
  intro state before sound
  obtain ⟨value, isOk, holds⟩ := returns state before sound
  exact ⟨value, isOk, after value _ holds⟩

theorem frame
    {program : Program vocabulary ε α} {post : α → σ → Prop}
    (returns : Returns setting pre program post)
    {allowed : vocabulary.Call → Prop} (uses : program.Uses allowed)
    {assertion : σ → Prop} (stable : setting.Stable allowed assertion) :
    Returns setting (fun state => pre state ∧ assertion state) program
      fun value state => post value state ∧ assertion state := by
  intro state before sound
  obtain ⟨value, isOk, holds⟩ := returns state before.1 sound
  exact ⟨value, isOk, holds, stable.run uses sound before.2⟩

theorem attempt
    {program : Program vocabulary ε α} {post : α → σ → Prop}
    (returns : Returns setting pre program post) :
    Returns setting pre
      (program.attempt : Program vocabulary δ (Except ε α))
      fun outcome state => ∃ value, outcome = .ok value ∧ post value state := by
  intro state before sound
  rw [Program.run_attempt] at sound ⊢
  obtain ⟨value, isOk, holds⟩ := returns state before sound
  exact ⟨_, rfl, value, isOk, holds⟩

theorem exists_pre
    {before : ι → σ → Prop} {program : Program vocabulary ε α}
    {post : α → σ → Prop}
    (returns : ∀ index, Returns setting (before index) program post) :
    Returns setting (fun state => ∃ index, before index state) program
      post :=
  fun state start sound =>
    let ⟨index, holds⟩ := start
    returns index state holds sound

theorem of_fact
    {fact : Prop} {program : Program vocabulary ε α}
    {post : α → σ → Prop}
    (returns : fact → Returns setting pre program post) :
    Returns setting (fun state => fact ∧ pre state) program post :=
  fun state start sound => returns start.1 state start.2 sound

/-- A handler is not needed by a program that returns. -/
theorem recover
    {program : Program vocabulary ε α} {post : α → σ → Prop}
    (returns : Returns setting pre program post)
    (handler : ε → Program vocabulary δ α) :
    Returns setting pre (program.recover handler) post := by
  intro state before sound
  have finishes := returns state before
  rw [Program.run_recover] at sound ⊢
  rcases finished : program.run setting.environment state with
    ⟨outcome, reached⟩
  rw [finished] at sound finishes
  cases outcome with
  | ok value =>
      obtain ⟨_, isOk, holds⟩ := finishes sound
      cases isOk
      exact ⟨value, rfl, holds⟩
  | error error =>
      obtain ⟨_, isOk, _⟩ :=
        finishes (setting.sound_of_run (handler error) reached sound)
      cases isOk

end Returns

/-! ## Programs that keep an assertion -/

/-- The program leaves the assertion true, however it ends. -/
def Keeps
    (setting : Setting vocabulary σ) (assertion : σ → Prop)
    (program : Program vocabulary ε α) : Prop :=
  ∀ state, assertion state →
    setting.sound (program.run setting.environment state).2 →
      assertion (program.run setting.environment state).2

namespace Keeps

variable {setting : Setting vocabulary σ} {assertion : σ → Prop}

theorem done (value : α) :
    Keeps setting assertion
      (.done value : Program vocabulary ε α) :=
  fun _ holds _ => holds

theorem bind
    {program : Program vocabulary ε α}
    {next : α → Program vocabulary ε β}
    (first : Keeps setting assertion program)
    (rest : ∀ value, Keeps setting assertion (next value)) :
    Keeps setting assertion (program.bind next) := by
  intro state before sound
  have firstKept := first state before
  rw [Program.run_bind] at sound ⊢
  rcases finished : program.run setting.environment state with
    ⟨outcome, reached⟩
  rw [finished] at sound firstKept
  cases outcome with
  | ok value =>
      have soundThere : setting.sound reached :=
        setting.sound_of_run (next value) reached sound
      exact rest value reached (firstKept soundThere) sound
  | error error => exact firstKept sound

end Keeps

/-- The calls that leave an assertion alone keep it. -/
theorem Program.Uses.keeps
    {setting : Setting vocabulary σ} {allowed : vocabulary.Call → Prop}
    {assertion : σ → Prop} {program : Program vocabulary ε α}
    (uses : program.Uses allowed)
    (stable : setting.Stable allowed assertion) :
    Keeps setting assertion program :=
  fun _ holds sound => stable.run uses sound holds

/-! ## One program after another -/

namespace Program

/-- The steps one after another, with the list of what they return. -/
def each (step : ι → Program vocabulary ε α) :
    List ι → Program vocabulary ε (List α)
  | [] => .done []
  | item :: rest =>
      (step item).bind fun value =>
        (each step rest).bind fun values => .done (value :: values)

/-- The last step is the last to run. -/
theorem run_each_snoc
    (environment : Environment vocabulary σ)
    (step : ι → Program vocabulary ε α) (items : List ι) (item : ι)
    {state last : σ} {values : List α}
    (finished : (each step (items ++ [item])).run environment state =
      (.ok values, last)) :
    ∃ earlier value reached,
      (each step items).run environment state = (.ok earlier, reached) ∧
        (step item).run environment reached = (.ok value, last) ∧
          values = earlier ++ [value] := by
  induction items generalizing state values with
  | nil =>
      obtain ⟨value, reached, firstRun, rest⟩ :=
        (run_bind_eq_ok_iff environment _ _ _ _ _).mp finished
      cases rest
      exact ⟨[], value, state, rfl, firstRun, rfl⟩
  | cons first items inductionHypothesis =>
      obtain ⟨value, reached, firstRun, rest⟩ :=
        (run_bind_eq_ok_iff environment _ _ _ _ _).mp finished
      obtain ⟨later, _, laterRun, listed⟩ :=
        (run_bind_eq_ok_iff environment _ _ _ _ _).mp rest
      cases listed
      obtain ⟨earlier, lastValue, before, earlierRun, lastRun, rfl⟩ :=
        inductionHypothesis laterRun
      refine ⟨value :: earlier, lastValue, before, ?_, lastRun, rfl⟩
      exact (run_bind_eq_ok_iff environment _ _ _ _ _).mpr
        ⟨value, reached, firstRun,
          (run_bind_eq_ok_iff environment _ _ _ _ _).mpr
            ⟨earlier, before, earlierRun, rfl⟩⟩

end Program

namespace Program

theorem uses_each
    {allowed : vocabulary.Call → Prop} {step : ι → Program vocabulary ε α}
    (uses : ∀ item, (step item).Uses allowed) (items : List ι) :
    (each step items).Uses allowed := by
  induction items with
  | nil => exact uses_done _
  | cons item items inductionHypothesis =>
      exact (uses item).bind fun _ =>
        inductionHypothesis.bind fun _ => uses_done _

end Program

/-- What the first step finds and every step carries on holds at the end of
them all. -/
theorem run_each_induct
    (setting : Setting vocabulary σ) {step : ι → Program vocabulary ε α}
    {motive : List ι → List α → σ → Prop} {first : σ}
    (start : motive [] [] first)
    (carried : ∀ items values item value state last,
      motive items values state →
        (step item).run setting.environment state = (.ok value, last) →
          setting.sound last →
            motive (items ++ [item]) (values ++ [value]) last)
    {items : List ι} {values : List α} {last : σ}
    (finished : (Program.each step items).run setting.environment first =
      (.ok values, last))
    (sound : setting.sound last) : motive items values last := by
  induction items using List.reverseRecOn generalizing values last with
  | nil =>
      cases finished
      exact start
  | append_singleton items item inductionHypothesis =>
      obtain ⟨earlier, value, reached, earlierRun, lastRun, rfl⟩ :=
        Program.run_each_snoc _ _ _ _ finished
      have soundThere : setting.sound reached := by
        refine setting.sound_of_run (step item) reached ?_
        rw [lastRun]
        exact sound
      exact carried items earlier item value reached last
        (inductionHypothesis earlierRun soundThere) lastRun sound

end Foundation
