import Kasper.Correctness.StateMachine
import Kasper.Correctness.Tours
import Kasper.Runtime.Program

/-! Where control goes back to a checkpoint, by the jump of a direct restart or through an
interrupt's frame, the preserved registers are the saved ones. Outside speculation control
goes nowhere else.
-/

namespace Kasper

open ByteMemory Exits

/-- The registers a resumed caller relies on were loaded. -/
def Loaded (e : Exit) (t : Rt) : Prop :=
  e = .resumed → Preserves t.cpu t.registers

/-- The jump itself. -/
theorem Rt.resumed_loaded (kernel : Kernel) (s : Rt) : Loaded .resumed (s.resumed kernel) := by
  intro _ slot member
  simp only [preservedSlots, List.mem_cons, List.not_mem_nil, or_false] at member
  rcases member with rfl | rfl | rfl | rfl | rfl | rfl | rfl | rfl <;> rfl

theorem Loaded.other {e : Exit} {t : Rt} (other : e ≠ .resumed) : Loaded e t :=
  fun resumed => absurd resumed other

theorem Exit.Final.ne_resumed {e : Exit} (final : e.Final) : e ≠ .resumed := by
  rintro rfl
  exact final.elim

theorem loadedTour : Tour (fun _ => True) Loaded where
  quiet := fun _ _ _ _ => True.intro
  final := fun _ _ final _ _ _ => .other final.ne_resumed
  stores := fun _ _ => .other (by decide)

section
variable {env : Env} {onFail : SpecAssert → RtM Unit}

theorem restart_loaded (fails : ∀ failed, Keeps (fun _ => True) Loaded (onFail failed))
    {direct : Bool} {restartType : RestartType} {callArg frameaddr regs : Address}
    : Keeps (fun _ => True) Loaded
        (restart env onFail direct restartType callArg frameaddr regs) := by
  intro s _
  refine loadedTour.restart loadedTour fails fails (fun _ _ => True.intro)
    (fun s _ => s.resumed_loaded env.kernel) ?_ (fun _ _ _ _ _ => True.intro) True.intro
  intro _ _ arg t _ _
  refine (addRestartToStatistics_stats restartType arg t (.refl t)).imp (fun _ _ _ => True.intro) ?_
  rintro e u ⟨⟨table, _, rfl⟩, _⟩
  exact .other (by simp)

theorem loadedSectionTour (fails : ∀ failed, Keeps (fun _ => True) Loaded (onFail failed))
    : SectionTour env onFail (fun _ => True) Loaded where
  toTour := loadedTour
  fails := fails
  restarts := fun _ _ _ => restart_loaded fails
  sections := fun _ _ _ => True.intro

theorem loaded_loads (words : List Address)
    : LoadsFrom (fun _ => True) Loaded env.kernel words :=
  fun _ _ _ => Or.inr fun _ _ => .other (by decide)

/-- A failed assertion resumes by the jump of its restart, by induction on the room. -/
theorem kspecemPanic_loaded (env : Env) (depth : Nat) (failed : SpecAssert)
    : Keeps (fun _ => True) Loaded (kspecemPanic env depth failed) := by
  induction depth generalizing failed with
  | zero =>
      exact keeps_bind (keeps_modify fun _ _ => True.intro) fun _ =>
        keeps_throw fun _ _ => .other (by decide)
  | succ depth ih =>
      intro s start
      have tour := @loadedSectionTour env (kspecemPanic env depth) ih
      exact tour.kspecemPanicWith (loaded_loads _) (fun _ _ _ => True.intro) (restart_loaded ih)
        True.intro

-----------------------------------------------------------------------------------------
-- Out of speculation
-----------------------------------------------------------------------------------------

/-- A hook of an episode resumes by the jump. -/
theorem Action.run_loaded {action : Action} (hook : ¬action.Interrupts)
    : Keeps (fun _ => True) Loaded (action.run env) := by
  have fails := kspecemPanic_loaded env env.kernel.panicDepth
  have tour := @loadedSectionTour env env.onFail fails
  have opens (inInterrupt : Bool) : Keeps (fun _ => True) Loaded
      (hookNewCheckpoint env env.onFail inInterrupt) := by
    intro s start
    have opened := @SectionTour.hookNewCheckpoint _ _ _ _ tour (fun _ => True) (loaded_loads _)
      inInterrupt s start (fun _ _ _ => True.intro) (fun _ _ _ _ _ => True.intro)
    exact opened.imp (fun _ _ _ => True.intro) (fun _ _ exit => exit)
  cases action with
  | newCheckpoint inInterrupt => exact keeps_bind (opens _) fun _ => keeps_pure _
  | branch saveFrames leaveFrames inInterrupt frameaddress rsp cpu returnAddress =>
      have saveTour := @loadedSectionTour { env with frames := saveFrames } _
        (kspecemPanic_loaded { env with frames := saveFrames } env.kernel.panicDepth)
      have leaveTour := @loadedSectionTour { env with frames := leaveFrames } _
        (kspecemPanic_loaded { env with frames := leaveFrames } env.kernel.panicDepth)
      refine keeps_bind (keeps_bind (opens _) fun token => ?_) fun _ => keeps_pure _
      refine keeps_bind (saveTour.hookSaveStack _ _ _) fun _ => ?_
      refine keeps_bind (keeps_modify fun _ _ => True.intro) fun _ => ?_
      exact keeps_bind (leaveTour.hookLeaveRt (loaded_loads _) _) fun _ => keeps_pure _
  | _ =>
      refine tour.run (fun _ _ => .other (by decide)) (fun _ _ => .other (by decide)) ?_
        (fun opens => opens) hook (fun _ _ _ => restart_loaded fails)
      exact keeps_printRestartStatistics (fun _ _ => .other (by decide))
        (fun _ _ => Or.inr (.other (by decide)))

/-- The registers a handler leaves with are those its frame holds. -/
theorem leaveInterrupt_loaded {regs frameaddr : Address} {s t : Rt}
    (back : HandlerReturn env (Rider.trivial env.kernel) regs frameaddr s t)
    (apart : FrameApart regs s.stack)
    (flag : ¬Within regs sizeofPtregs env.kernel.swapBranchCondition)
    : Ends (leaveInterrupt regs) (fun _ v => Loaded .resumed v) Loaded t := by
  rw [leaveInterrupt, ends_modify]
  intro _ slot member
  have copied : slot ∈ interruptSlots := by
    revert slot
    decide
  exact back.slot apart flag copied

theorem kspecemPanic_keeps_loaded (env : Env) (failed : SpecAssert)
    : Keeps (fun _ => True) Loaded (env.onFail failed) :=
  kspecemPanic_loaded env env.kernel.panicDepth failed

theorem loaded_interrupts : KeepsInterrupts env env.onFail (fun _ => True) Loaded :=
  fun _ _ _ _ _ => restart_loaded (kspecemPanic_keeps_loaded env)

/-- Where a handler finds nothing to roll back, `trivial` asks for nothing. -/
theorem Interruptible.of_flag {regs frameaddr : Address} {restartType : RestartType} {s : Rt}
    (flag : ¬Within regs sizeofPtregs env.kernel.swapBranchCondition)
    (other : restartType ≠ .restartReturn)
    : Interruptible env (Rider.trivial env.kernel) regs frameaddr restartType s where
  memory := fun _ _ _ => True.intro
  flag := flag
  direct := True.intro
  indirect := True.intro
  admitted := True.intro
  other := other
  apart := fun no => no.elim

section
variable {regs frameaddr : Address} {interrupted : PtRegs} {s : Rt}
  (standing : Standing env.kernel (Rider.trivial env.kernel) s)
  (flag : ¬Within regs sizeofPtregs env.kernel.swapBranchCondition)
  (apart : s.inSpeculativeEmulation = true → FrameApart regs s.stack)
include standing flag apart

theorem timerInterrupt_loaded
    : Ends (timerInterrupt env regs frameaddr interrupted) (fun _ _ => True) Loaded s := by
  have tour := (@loadedSectionTour env env.onFail (kspecemPanic_keeps_loaded env)).toBodyTour
  have entered := @enterInterrupt_keeps env _ s regs interrupted standing
    (fun _ _ _ => True.intro) flag
  rw [enterInterrupt, ends_modify] at entered
  rw [timerInterrupt, enterInterrupt, ends_bind, ends_modify, ends_bind, ends_get]
  obtain ⟨entered, busy⟩ := entered
  refine Ends.bind (((hookInterruptTimer_keeps env.handler entered
    (fun _ => .of_flag flag (by decide))).and
      (tour.hookInterruptTimer loaded_interrupts regs frameaddr _ True.intro)).imp
    (fun _ _ both => both.1) (fun _ _ both => both.2)) ?_
  rintro _ t (⟨idle, rfl⟩ | ⟨spec, back⟩)
  · rw [ends_bind, leaveInterrupt, ends_modify, if_neg (by rw [idle]; decide)]
    exact True.intro
  · refine Ends.bind (leaveInterrupt_loaded back ?_ flag) (fun _ v loaded => ?_)
    · exact busy.stack ▸ apart (busy.inSpec.symm.trans spec)
    · rw [if_pos spec]
      exact loaded

theorem exceptionInterrupt_loaded {exceptionType : Int}
    : Ends (exceptionInterrupt env regs frameaddr interrupted exceptionType) (fun _ _ => True)
        Loaded s := by
  have tour := (@loadedSectionTour env env.onFail (kspecemPanic_keeps_loaded env)).toBodyTour
  have entered := @enterInterrupt_keeps env _ s regs interrupted standing
    (fun _ _ _ => True.intro) flag
  rw [enterInterrupt, ends_modify] at entered
  rw [exceptionInterrupt, enterInterrupt, ends_bind, ends_modify]
  obtain ⟨entered, busy⟩ := entered
  refine Ends.bind (((hookInterruptException_keeps env.handler entered
    (fun _ => .of_flag flag (exceptionRestartType_ne exceptionType))).and
      (tour.hookInterruptException loaded_interrupts regs frameaddr exceptionType _
        True.intro)).imp (fun _ _ both => both.1) (fun _ _ both => both.2)) ?_
  rintro handled t ⟨⟨idle, rfl⟩ | ⟨spec, back⟩, one⟩
  · rw [ends_bind, leaveInterrupt, ends_modify, if_neg (fun handled => ?_)]
    · exact True.intro
    · exact absurd (idle.symm.trans (one.mp handled)) (by decide)
  · refine Ends.bind (leaveInterrupt_loaded back ?_ flag) (fun _ v loaded => ?_)
    · exact busy.stack ▸ apart (busy.inSpec.symm.trans spec)
    · rw [if_pos (one.mpr spec)]
      exact loaded

end

/-- An interrupt of an episode has its frame apart from the saved one. -/
def Action.FramesApart (s : Rt) : Action → Prop
  | .timer _ regs _ _
  | .exception regs _ _ _ => s.inSpeculativeEmulation = true → FrameApart regs s.stack
  | _ => True

/-- Whichever event takes control back to a checkpoint has loaded its registers. -/
theorem Event.run_loaded {kernel : Kernel} {event : Event} {s : Rt}
    (standing : Standing kernel (Rider.trivial kernel) s) (placed : event.action.Placed kernel)
    (apart : event.action.FramesApart s)
    : Ends (event.run kernel) (fun _ _ => True) Loaded s := by
  obtain ⟨frames, task, action⟩ := event
  have hooks (hook : ¬action.Interrupts) := @Action.run_loaded ⟨kernel, frames, task⟩ action hook s
    True.intro
  cases action with
  | timer leaving regs frameaddr interrupted =>
      have timer {t : Rt} (standing : Standing kernel (Rider.trivial kernel) t)
          (apart : t.inSpeculativeEmulation = true → FrameApart regs t.stack) :=
        @timerInterrupt_loaded ⟨kernel, frames, task⟩ regs frameaddr interrupted t standing placed
          apart
      have late : Standing kernel (Rider.trivial kernel) { s with isInRt := true } :=
        ⟨standing.coherent.congr rfl rfl rfl rfl rfl (fun _ clear => clear),
          standing.consistent.congr rfl, fun _ => True.intro, fun _ => True.intro⟩
      rw [Event.run, Action.run, timerBetween, ends_ite]
      refine ⟨fun _ => ?_, fun _ => timer standing apart⟩
      rw [setRt, ends_bind, ends_modify]
      exact Ends.bind (timer late apart) (fun _ _ _ => True.intro)
  | exception regs frameaddr interrupted exceptionType =>
      exact @exceptionInterrupt_loaded ⟨kernel, frames, task⟩ regs frameaddr interrupted s standing
        placed apart exceptionType
  | _ => exact hooks (fun interrupts => interrupts)

end

-----------------------------------------------------------------------------------------
-- Outside speculation
-----------------------------------------------------------------------------------------

/-- Outside speculation control stays with the hook's caller or leaves for good. -/
def Resting (e : Exit) (t : Rt) : Prop :=
  t.inSpeculativeEmulation = false ∧ e ≠ .resumed

def Rt.Idle (s : Rt) : Prop :=
  s.inSpeculativeEmulation = false

theorem restingTour : Tour Rt.Idle Resting where
  quiet := fun _ _ quiet idle => quiet.inSpec.trans idle
  final := fun _ _ final _ _ idle => ⟨idle, final.ne_resumed⟩
  stores := fun _ idle => ⟨idle, by decide⟩

section
variable {env : Env}

theorem onFail_rests (failed : SpecAssert) : Keeps Rt.Idle Resting (env.onFail failed) := by
  intro s idle
  refine (env.handler.loud failed s idle).imp (fun _ _ no => no.elim) ?_
  rintro e t ⟨exit, rfl⟩
  rcases exit with rfl | rfl
  · exact ⟨idle, by decide⟩
  · exact ⟨idle, by simp⟩

theorem restart_rests {direct : Bool} {restartType : RestartType}
    {callArg frameaddr regs : Address}
    : Keeps Rt.Idle Resting
        (restart env env.onFail direct restartType callArg frameaddr regs) := by
  intro s idle
  exact (restart_idle idle direct restartType callArg frameaddr regs).imp
    (fun _ t same => same.2 ▸ idle) (fun _ _ exit => exit)

theorem restingSectionTour : SectionTour env env.onFail Rt.Idle Resting where
  toTour := restingTour
  fails := onFail_rests
  restarts := fun _ _ _ => restart_rests
  sections := fun _ _ idle => idle

theorem hookInterruptTimer_rests (regs frameaddr : Address)
    : Keeps Rt.Idle Resting (hookInterruptTimer env env.onFail regs frameaddr) := by
  refine keeps_read fun _ => keeps_branch (keeps_pure _) ?_
  refine keeps_bind (keeps_ltAssert onFail_rests) fun _ => keeps_read fun _ => ?_
  refine keeps_read fun _ => keeps_bind (keeps_ltAssert onFail_rests) fun _ => ?_
  exact keeps_get_bind fun s idle =>
    keeps_ite (fun spec => absurd (spec.symm.trans idle) (by decide)) (fun _ => keeps_pure _) s idle

theorem hookInterruptException_rests (regs frameaddr : Address) (exceptionType : Int) {s : Rt}
    (idle : s.Idle)
    : Ends (hookInterruptException env env.onFail regs frameaddr exceptionType)
        (fun handled t => handled = 0 ∧ t.Idle) Resting s := by
  have check {p : Prop} [Decidable p] {line : Nat} {condition : String}
      : Keeps Rt.Idle Resting
          (ltAssert env.onFail p "kspecem_interface.c" line condition) :=
    keeps_ltAssert onFail_rests
  rw [hookInterruptException, ends_bind, ends_get, ends_ite]
  refine ⟨fun _ => ⟨rfl, idle⟩, fun _ => ?_⟩
  refine Ends.bind (check s idle) fun _ t idle => ?_
  rw [ends_bind, ends_get, ends_bind, ends_get]
  refine Ends.bind (check t idle) fun _ u idle => ?_
  rw [ends_bind, ends_get, if_neg (fun spec => absurd (spec.symm.trans idle) (by decide))]
  exact ⟨rfl, idle⟩

theorem timerInterrupt_rests (regs frameaddr : Address) (interrupted : PtRegs)
    : Keeps Rt.Idle Resting (timerInterrupt env regs frameaddr interrupted) := by
  refine keeps_bind (keeps_modify fun _ idle => idle) fun _ => ?_
  refine keeps_get_bind fun s idle => ?_
  refine Ends.bind (hookInterruptTimer_rests regs frameaddr s idle) fun _ t after => ?_
  rw [ends_bind, leaveInterrupt, ends_modify,
    if_neg (fun spec => absurd (spec.symm.trans idle) (by decide))]
  exact after

theorem exceptionInterrupt_rests (regs frameaddr : Address) (interrupted : PtRegs)
    (exceptionType : Int)
    : Keeps Rt.Idle Resting
        (exceptionInterrupt env regs frameaddr interrupted exceptionType) := by
  refine keeps_bind (keeps_modify fun _ idle => idle) fun _ s idle => ?_
  refine Ends.bind (hookInterruptException_rests regs frameaddr exceptionType idle) ?_
  rintro _ t ⟨rfl, after⟩
  rw [ends_bind, leaveInterrupt, ends_modify, if_neg (by decide)]
  exact after

/-- Outside speculation an event that takes no checkpoint stays outside it. -/
theorem Action.run_rests {action : Action} (closed : ¬action.MayOpen)
    : Keeps Rt.Idle Resting (action.run env) := by
  cases action with
  | timer leaving regs frameaddr interrupted =>
      have timer := @timerInterrupt_rests env regs frameaddr interrupted
      refine keeps_branch (keeps_bind (keeps_modify fun _ idle => idle) fun _ => ?_) timer
      exact keeps_bind timer fun _ => keeps_modify fun _ idle => idle
  | exception regs frameaddr interrupted exceptionType =>
      exact exceptionInterrupt_rests regs frameaddr interrupted exceptionType
  | _ =>
      refine restingSectionTour.run (fun _ idle => ⟨idle, by decide⟩)
        (fun _ idle => ⟨idle, by decide⟩) ?_ closed (fun interrupts => interrupts)
        (fun _ _ _ => restart_rests)
      exact keeps_printRestartStatistics (fun _ idle => ⟨idle, by decide⟩)
        (fun _ idle => Or.inr ⟨idle, by decide⟩)

end

end Kasper
