import SwarmFi.Foundation.History

/-!
# Programs that return on fine answers

A predicate on events says which answers are fine.  A program `Needs` them
when it returns as long as all answers are fine and raises, sooner or later,
after one that is not.  The outcome of such a program can be read off the
history of its run.
-/

namespace Foundation

variable {vocabulary : Vocabulary} {ε δ α β σ : Type}

namespace Program

/-- Whatever is answered, the program raises in the end. -/
def Fails : Program vocabulary ε α → Prop
  | .done _ => False
  | .raise _ => True
  | .call _ next => ∀ answer, (next answer).Fails

/-- The program returns a value with `post` when every answer is fine, and
raises in the end after an answer that is not. -/
def Needs (fine : Event vocabulary → Prop) (post : α → Prop) :
    Program vocabulary ε α → Prop
  | .done value => post value
  | .raise _ => False
  | .call request next => ∀ answer,
      (fine ⟨request, answer⟩ → (next answer).Needs fine post) ∧
        (¬ fine ⟨request, answer⟩ → (next answer).Fails)

/-! ## Programs that fail -/

theorem Fails.bind
    {program : Program vocabulary ε α} (fails : program.Fails)
    (next : α → Program vocabulary ε β) : (program.bind next).Fails := by
  induction program with
  | done value => exact fails.elim
  | raise error => trivial
  | call request rest inductionHypothesis =>
      intro answer
      exact inductionHypothesis answer (fails answer)

theorem Fails.after
    (program : Program vocabulary ε α)
    {next : α → Program vocabulary ε β}
    (fails : ∀ value, (next value).Fails) : (program.bind next).Fails := by
  induction program with
  | done value => exact fails value
  | raise error => trivial
  | call request rest inductionHypothesis =>
      intro answer
      exact inductionHypothesis answer

theorem Fails.attempt_bind
    {program : Program vocabulary ε α} (fails : program.Fails)
    {next : Except ε α → Program vocabulary δ β}
    (onError : ∀ error, (next (.error error)).Fails) :
    (program.attempt.bind next).Fails := by
  induction program with
  | done value => exact fails.elim
  | raise error => exact onError error
  | call request rest inductionHypothesis =>
      intro answer
      exact inductionHypothesis answer (fails answer)

theorem Fails.run
    {program : Program vocabulary ε α} (fails : program.Fails)
    (environment : Environment vocabulary σ) (state : σ) (value : α) :
    (program.run environment state).1 ≠ .ok value := by
  induction program generalizing state with
  | done value => exact fails.elim
  | raise error =>
      intro returned
      cases returned
  | call request next inductionHypothesis =>
      exact inductionHypothesis _ (fails _) _

/-! ## Programs that need fine answers -/

section Needs

variable
  {fine : Event vocabulary → Prop} {post : α → Prop} {after : β → Prop}

theorem Needs.mono
    {program : Program vocabulary ε α} (needs : program.Needs fine post)
    {weaker : α → Prop} (implied : ∀ value, post value → weaker value) :
    program.Needs fine weaker := by
  induction program with
  | done value => exact implied value needs
  | raise error => exact needs
  | call request next inductionHypothesis =>
      intro answer
      constructor
      · intro isFine
        exact inductionHypothesis answer ((needs answer).1 isFine)
      · exact (needs answer).2

theorem Needs.bind
    {program : Program vocabulary ε α} (needs : program.Needs fine post)
    {next : α → Program vocabulary ε β}
    (rest : ∀ value, post value → (next value).Needs fine after) :
    (program.bind next).Needs fine after := by
  induction program with
  | done value => exact rest value needs
  | raise error => exact needs.elim
  | call request continuation inductionHypothesis =>
      intro answer
      constructor
      · intro isFine
        exact inductionHypothesis answer ((needs answer).1 isFine)
      · intro notFine
        exact ((needs answer).2 notFine).bind next

/-- After an attempt the rest decides what an error leads to. -/
theorem Needs.attempt_bind
    {program : Program vocabulary ε α} (needs : program.Needs fine post)
    {next : Except ε α → Program vocabulary δ β}
    (rest : ∀ value, post value → (next (.ok value)).Needs fine after)
    (onError : ∀ error, (next (.error error)).Fails) :
    (program.attempt.bind next).Needs fine after := by
  induction program with
  | done value => exact rest value needs
  | raise error => exact needs.elim
  | call request continuation inductionHypothesis =>
      intro answer
      constructor
      · intro isFine
        exact inductionHypothesis answer ((needs answer).1 isFine)
      · intro notFine
        exact ((needs answer).2 notFine).attempt_bind onError

/-- A call whose answers are all fine. -/
theorem needs_call
    {request : vocabulary.Call}
    (isFine : ∀ answer, fine ⟨request, answer⟩) :
    (Program.call request .done :
      Program vocabulary ε (vocabulary.Answer request)).Needs fine
        fun _ => True :=
  fun answer => ⟨fun _ => trivial, fun notFine => notFine (isFine answer)⟩

/-- A call whose answer is read, and fine when it can be. -/
theorem needs_read
    {request : vocabulary.Call}
    {read : vocabulary.Answer request → Except ε α}
    (fine_iff : ∀ answer,
      fine ⟨request, answer⟩ ↔ ∃ value, read answer = .ok value) :
    (Program.bind (.call request .done) fun answer =>
      .ofExcept (read answer)).Needs fine fun _ => True := by
  intro answer
  rw [fine_iff]
  show (_ → (ofExcept (read answer)).Needs fine _) ∧
    (_ → (ofExcept (read answer)).Fails)
  cases reads : read answer with
  | ok value => exact ⟨fun _ => trivial, fun none => none ⟨value, rfl⟩⟩
  | error error =>
      constructor
      · intro isRead
        obtain ⟨value, same⟩ := isRead
        cases same
      · intro _
        trivial

/-- A run returns exactly when every answer in its history is fine. -/
theorem Needs.run
    {program : Program vocabulary ε α} (needs : program.Needs fine post)
    (environment : Environment vocabulary σ) (state : σ) :
    (∃ value, (program.run environment state).1 = .ok value) ↔
      ∀ event ∈ program.trace environment state, fine event := by
  induction program generalizing state with
  | done value =>
      apply iff_of_true ⟨value, rfl⟩
      intro event member
      cases member
  | raise error => exact needs.elim
  | call request next inductionHypothesis =>
      rw [trace_call, run_call, List.forall_mem_cons]
      obtain ⟨onFine, onOther⟩ := needs (environment state request).1
      by_cases isFine : fine ⟨request, (environment state request).1⟩
      · rw [inductionHypothesis _ (onFine isFine), and_iff_right isFine]
      · apply iff_of_false
        · intro returned
          obtain ⟨value, isValue⟩ := returned
          exact (onOther isFine).run environment _ value isValue
        · intro both
          exact isFine both.1

end Needs

end Program

end Foundation
