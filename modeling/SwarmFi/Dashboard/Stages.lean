import SwarmFi.Dashboard.Server

/-!
# The calls of the stages

Which calls each stage of a trade cycle makes: reports (progress, memory
writes, ENS texts and announcements) and few others.
-/

namespace SwarmFi.Dashboard.Cycle

open Foundation Python SwarmFi.Core Uniswap Compute

/-- A call that reports what the cycle does, and writes to no memory but that
of the given roles. -/
def Reports (roles : AgentRole → Prop) : CycleCall → Prop
  | .publishPartial _ _ => True
  | .write role _ => roles role
  | .updateText _ _ _ => True
  | .announce _ _ => True
  | _ => False

/-- A call from inside the clients: a report, or one for the scorer, the
executor or the snapshot. -/
def Inside : CycleCall → Prop
  | .chat _ => True
  | .newStamp => True
  | .executeSwap _ => True
  | .flush => True
  | request => Reports (fun _ => True) request

/-- Without a write, whatever roles are named. -/
theorem reports_of_silent {roles : AgentRole → Prop} (request : CycleCall)
    (silent : Reports (fun _ => False) request) : Reports roles request := by
  cases request with
  | write role memoryWrite => exact silent.elim
  | _ => exact silent

section Uses

variable {allowed : CycleCall → Prop} {roles : AgentRole → Prop}

/-! ## Steps that write to no memory -/

section Silent

variable
  (silent : ∀ request, Reports (fun _ => False) request → allowed request)

include silent in
theorem uses_updateText
    (role : AgentRole) (key : String) (value : TextValue) :
    (updateText role key value).Uses allowed :=
  ⟨silent _ trivial, fun answer => Program.uses_ofExcept answer⟩

include silent in
theorem uses_announce (messageType : MessageType) (payload : Dict) :
    (announce messageType payload).Uses allowed :=
  ⟨silent _ trivial, fun answer => Program.uses_ofExcept answer⟩

include silent in
theorem uses_publishPartial (stage : String) (fields : Dict) :
    (publishPartial stage fields).Uses allowed :=
  ⟨silent _ trivial, fun _ => trivial⟩

include silent in
theorem uses_recordDecision (payload : Dict) :
    (recordDecision payload).Uses allowed := by
  apply (uses_updateText silent _ _ _).bind
  intro _
  apply (uses_updateText silent _ _ _).bind
  intro _
  apply (Program.uses_ofExcept _).bind
  intro riskScore
  apply (Program.uses_ofExcept _).bind
  intro confidence
  apply (Program.uses_ofExcept _).bind
  intro percent
  exact uses_updateText silent _ _ _

include silent in
theorem uses_recordSettlement (result : SwapResult) :
    (recordSettlement result).Uses allowed := by
  apply (uses_updateText silent _ _ _).bind
  intro _
  apply (uses_updateText silent _ _ _).bind
  intro _
  split
  · trivial
  · split
    · trivial
    · apply (uses_updateText silent _ _ _).bind
      intro _
      exact uses_updateText silent _ _ _

include silent in
theorem uses_recordSnapshot (root : Option String) :
    (recordSnapshot root).Uses allowed := by
  cases root with
  | none => trivial
  | some root =>
      by_cases isEmpty : root = ""
      · rw [recordSnapshot, if_pos isEmpty]
        trivial
      · rw [recordSnapshot, if_neg isEmpty]
        apply (uses_updateText silent _ _ _).bind
        intro _
        apply (uses_updateText silent _ _ _).bind
        intro _
        exact (uses_updateText silent _ _ _).bind fun _ => trivial

include silent in
theorem uses_committing
    (flushes : allowed .flush) (signal view : Dict) :
    (committing signal view).Uses allowed := by
  have flushed : (flush.recover fun _ =>
      (.done (none, none) :
        Steps (Option String × Option String))).Uses allowed := by
    apply Program.Uses.recover
    · exact ⟨flushes, fun answer => Program.uses_ofExcept answer⟩
    · exact fun _ => trivial
  apply (uses_publishPartial silent _ _).bind
  intro _
  apply flushed.bind
  intro snapshot
  exact (uses_recordSnapshot silent _).bind fun _ => trivial

end Silent

/-! ## Steps that write to the memory of one role -/

theorem uses_write {role : AgentRole} {memoryWrite : MemoryWrite}
    (free : allowed (.write role memoryWrite)) :
    (Cycle.write role memoryWrite).Uses allowed :=
  ⟨free, fun answer => Program.uses_ofExcept answer⟩

theorem silent_of_reports
    (reports : ∀ request, Reports roles request → allowed request) :
    ∀ request, Reports (fun _ => False) request → allowed request :=
  fun request silent => reports request (reports_of_silent request silent)

theorem uses_scanning
    (reports : ∀ request, Reports (· = .researcher) request →
      allowed request)
    (signal : Dict) : (scanning signal).Uses allowed := by
  have silent := silent_of_reports reports
  apply (uses_publishPartial silent _ _).bind
  intro _
  apply (uses_write (reports _ rfl)).bind
  intro _
  apply (uses_write (reports _ rfl)).bind
  intro _
  apply (uses_updateText silent _ _ _).bind
  intro _
  apply (uses_updateText silent _ _ _).bind
  intro _
  apply (Program.uses_ofExcept _).bind
  intro price
  apply (uses_updateText silent _ _ _).bind
  intro _
  exact uses_announce silent _ _

theorem uses_rememberDecision
    (reports : ∀ request, Reports (· = .risk) request → allowed request)
    (signal payload : Dict) :
    (rememberDecision signal payload).Uses allowed := by
  apply (uses_write (reports _ rfl)).bind
  intro _
  apply (uses_write (reports _ rfl)).bind
  intro _
  exact uses_publishPartial (silent_of_reports reports) _ _

theorem uses_score
    (chats : ∀ prompt, allowed (.chat prompt)) (stamps : allowed .newStamp)
    (signal : Dict) (ourPubkey : String) :
    (score chat newStamp signal ourPubkey).Uses allowed := by
  have chatted : ∀ prompt, (chat prompt).Uses allowed :=
    fun prompt => ⟨chats prompt, fun _ => trivial⟩
  have stamped : newStamp.Uses allowed := ⟨stamps, fun _ => trivial⟩
  apply (Program.uses_ofExcept _).bind
  intro prompt
  apply (chatted prompt).bind
  intro reply
  apply (Program.uses_ofExcept _).bind
  intro decision
  apply stamped.bind
  intro stamp
  exact Program.uses_ofExcept _

theorem uses_deciding
    (reports : ∀ request, Reports (· = .risk) request → allowed request)
    (chats : ∀ prompt, allowed (.chat prompt)) (stamps : allowed .newStamp)
    (signal : Dict) : (deciding signal).Uses allowed := by
  have silent := silent_of_reports reports
  apply (uses_publishPartial silent _ _).bind
  intro _
  apply (uses_write (reports _ rfl)).bind
  intro _
  apply (uses_score chats stamps signal zeroPubkey).bind
  intro decision
  apply (uses_rememberDecision reports _ _).bind
  intro _
  apply (uses_recordDecision silent _).bind
  intro _
  apply (uses_announce silent _ _).bind
  intro _
  trivial

section Executing

variable
  (reports : ∀ request, Reports (· = .executor) request → allowed request)

include reports in
theorem uses_recordResult (view : Dict) (result : SwapResult) :
    (recordResult view result).Uses allowed := by
  unfold recordResult
  split
  · apply (uses_write (reports _ rfl)).bind
    intro _
    exact (uses_write (reports _ rfl)).bind fun _ => trivial
  · apply (uses_write (reports _ rfl)).bind
    intro _
    exact (uses_write (reports _ rfl)).bind fun _ => trivial

include reports in
theorem uses_settling (view : Dict) (result : SwapResult) :
    (settling view result).Uses allowed := by
  have silent := silent_of_reports reports
  apply (uses_recordResult reports view result).bind
  intro recorded
  apply (uses_recordSettlement silent result).bind
  intro _
  exact (uses_announce silent _ _).bind fun _ => trivial

include reports in
theorem uses_executing
    (swaps : ∀ request, allowed (.executeSwap request))
    (wallet : String) (signal view payload : Dict) :
    (executing wallet signal view payload).Uses allowed := by
  apply (uses_publishPartial (silent_of_reports reports) _ _).bind
  intro _
  apply (uses_write (reports _ rfl)).bind
  intro _
  have swapped :
      (executeSwap (swapRequest wallet payload)).Uses allowed :=
    ⟨swaps _, fun answer => Program.uses_ofExcept answer⟩
  apply swapped.bind
  intro result
  exact uses_settling reports view result

include reports in
theorem uses_acting
    (swaps : ∀ request, allowed (.executeSwap request))
    (wallet : String) (signal view payload : Dict) :
    (acting wallet signal view payload).Uses allowed := by
  unfold acting
  split
  · exact (uses_write (reports _ rfl)).bind fun _ => trivial
  · exact uses_executing reports swaps wallet signal view payload

end Executing

end Uses

theorem inside_of_reports {roles : AgentRole → Prop} (request : CycleCall)
    (reports : Reports roles request) : Inside request := by
  cases request with
  | publishPartial stage fields => trivial
  | write role memoryWrite => trivial
  | updateText role key value => trivial
  | announce messageType payload => trivial
  | _ => exact reports.elim

/-- All that happens between the opening and the closing of the clients. -/
theorem uses_insideClients (wallet : String) (signal view : Dict) :
    (insideClients wallet signal view).Uses Inside := by
  apply (uses_scanning inside_of_reports signal).bind
  intro _
  apply (uses_deciding inside_of_reports (fun _ => trivial) trivial
    signal).bind
  intro payload
  apply (uses_acting inside_of_reports (fun _ => trivial) wallet signal
    _ payload).bind
  intro acted
  apply (uses_committing inside_of_reports trivial signal acted).bind
  intro snapshot
  trivial

end SwarmFi.Dashboard.Cycle
