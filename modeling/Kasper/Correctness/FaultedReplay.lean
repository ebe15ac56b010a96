import Kasper.Correctness.MemoryRestoration
import Kasper.Correctness.SurvivedReplay

/-! Rollbacks whose replay meets words that cannot be written.
The fault enters a handler, whose own restart goes on with the entries left; each fault
leaves fewer of them, and the last handler returns to the checkpoint.
-/

namespace Kasper

open ByteMemory Exits

/-- The handler of one fault, up to its `iret`. -/
structure FaultHandler where
  frames : Frames
  regs : Address
  frameaddr : Address
  interrupted : PtRegs
  exceptionType : Int

section
variable (kernel : Kernel) (task : Task)

def FaultHandler.run (handler : FaultHandler) : RtM Unit :=
  exceptionInterrupt { kernel, frames := handler.frames, task } handler.regs handler.frameaddr
    handler.interrupted handler.exceptionType

/-- The words the handler's replay leaves alone. -/
def FaultHandler.Skips (handler : FaultHandler) (w : Address) : Prop :=
  restartSkips { kernel, frames := handler.frames, task } false handler.frameaddr handler.regs w
    = true

/-- The handler gets a frame address; the frame the fault pushes lies apart from the saved
stack frame and the swap flag.
-/
structure FaultHandler.Placed (handler : FaultHandler) (stack : StackLog) : Prop where
  frameaddr : handler.frameaddr ≠ 0
  apart : FrameApart handler.regs stack
  flag : ¬Within handler.regs sizeofPtregs kernel.swapBranchCondition

/-- A way into `kspecem_restart`: a call, or an exception's handler. -/
inductive RestartEntry
  | call (attempt : Attempt)
  | exception (handler : FaultHandler)

def RestartEntry.run : RestartEntry → RtM Unit
  | .call attempt => do
      let _ ← attempt.run kernel task
  | .exception handler => handler.run kernel task

def RestartEntry.Skips : RestartEntry → Address → Prop
  | .call attempt => attempt.Skips kernel task
  | .exception handler => handler.Skips kernel task

/-- The entry comes to a rollback. -/
def RestartEntry.Rolls (t : Rt) : RestartEntry → Prop
  | .call attempt => ¬NestedReturn attempt.restartType t
  | .exception handler => handler.Placed kernel t.stack

/-- The faults of the restart `first` from `s` on, the last one first: each enters a handler
while the restart before it replays. The innermost restart is that of `entry`, from `t`.
-/
inductive Faults (first : RestartEntry) (s : Rt)
    : List FaultHandler → RestartEntry → Rt → Prop
  | none : Faults first s [] first s
  | fault {handlers : List FaultHandler} {entry : RestartEntry} {t u : Rt} {isWrite : Bool}
      (faults : Faults first s handlers entry t)
      (cut : entry.run kernel task t = .error (.fault isWrite) u) (handler : FaultHandler)
      : Faults first s (handler :: handlers) (.exception handler) u

end

section
variable {env : Env} {skips : Address → Prop} {s t : Rt} {regs frameaddr : Address}

/-- Pushing an interrupt's frame leaves a rollback where it is. -/
theorem Interrupted.pushed {u : Rt} (h : Interrupted env.kernel skips s t)
    (aligned : ∀ i < s.log.position, wordOf (s.log.addrs.cell i) = s.log.addrs.cell i)
    (frame : FrameOnly regs t.mem u.mem)
    (covered : ∀ b, Within regs sizeofPtregs b → skips (wordOf b))
    (same : u = { t with mem := u.mem, irqsEnabled := u.irqsEnabled })
    : Interrupted env.kernel skips s u := by
  have survived := h.survived.pushed aligned frame covered
  rw [same]
  exact {
    initDone := h.initDone
    inSpec := h.inSpec
    log := h.log
    position := h.position
    stack := h.stack
    registers := h.registers
    reports := h.reports
    sized := h.sized
    survived := survived
  }

/-- The interrupt frame at `regs` holds the checkpoint's instruction pointer. -/
def FrameReturns (regs : Address) (s t : Rt) : Prop :=
  readWord t.mem (slotAddress regs .rip) = s.registers .rip

/-- After a handler's restart its frame holds the checkpoint's registers. -/
theorem Finished.frameReturns {u : Rt}
    (h : Finished env.kernel skips (restartSkips env false frameaddr regs) s t u)
    (apart : FrameApart regs s.stack)
    (flag : ¬Within regs sizeofPtregs env.kernel.swapBranchCondition) {mem : Memory}
    (copied : t.mem = copyRegisters regs s.registers mem)
    : FrameReturns regs s u := by
  have kept : readWord u.mem (slotAddress regs .rip) = readWord t.mem (slotAddress regs .rip) := by
    refine readWord_congr (fun b within => ?_)
    have inFrame := within_frame within
    refine h.kept b (apart.skips inFrame) (apart.apart b inFrame) ?_
    rintro rfl
    exact flag inFrame
  rw [FrameReturns, kept, copied]
  exact foldl_slots_read regs s.registers mem (Or.inl (by decide))

/-- A handler's rollback of `s` is over, and its frame leads to the checkpoint. -/
def HandlerDone (kernel : Kernel) (skips : Address → Prop) (regs : Address) (s u : Rt) : Prop :=
  RolledBack kernel skips s u ∧ FrameReturns regs s u

/-- How a handler on the way to roll `s` back leaves. -/
def HandlerExit (kernel : Kernel) (skips : Address → Prop) (regs : Address) (s t : Rt)
    (e : Exit) (u : Rt)
    : Prop :=
  e = .fault true ∧ Cut kernel skips s t u
  ∨ FinishExit s e u ∧ HandlerDone kernel skips regs s u

theorem interruptRestart_survives {onFail : SpecAssert → RtM Unit} {restartType : RestartType}
    {line : Nat} (replayable : Replayable env.kernel s)
    (cut : Interrupted env.kernel skips s t) (other : restartType ≠ .restartReturn)
    (apart : FrameApart regs s.stack)
    (flag : ¬Within regs sizeofPtregs env.kernel.swapBranchCondition)
    (range : ∀ w, restartSkips env false frameaddr regs w = true → skips w)
    (quiet : FailsQuietly False onFail) (loud : FailsLoudly onFail)
    : Ends (interruptRestart env onFail regs frameaddr restartType line)
        (fun _ u => HandlerDone env.kernel skips regs s u)
        (HandlerExit env.kernel skips regs s t) t := by
  rw [interruptRestart, ends_bind, ends_modify]
  have copied : Interrupted env.kernel skips s
      { t with mem := copyRegisters regs t.registers t.mem } :=
    cut.pushed replayable.coherent.aligned (foldl_slots_frame regs t.registers _ t.mem)
      (fun b within => range _ (apart.skips within)) rfl
  have frame {u : Rt}
      (finished : Finished env.kernel skips (restartSkips env false frameaddr regs) s
        { t with mem := copyRegisters regs t.registers t.mem } u)
      : HandlerDone env.kernel skips regs s u :=
    ⟨finished.rolledBack,
      finished.frameReturns apart flag (congrArg (copyRegisters regs · t.mem) cut.registers)⟩
  refine Ends.bind ((restart_survives replayable copied (fun nested => other nested.2.1) range
    quiet loud).imp (fun _ _ done => frame done.2) ?_) ?_
  · rintro e u (⟨fault, later⟩ | ⟨exit, finished⟩)
    · exact Or.inl ⟨fault, later.interrupted, later.fewer⟩
    · exact Or.inr ⟨exit, frame finished⟩
  · intro _ u done
    rw [ends_bind, ends_get, ends_bind, ends_get]
    exact ends_ltAssert_pos ((congrFun done.1.registers .rip).trans done.2.symm) done

theorem hookInterruptException_survives {onFail : SpecAssert → RtM Unit} {exceptionType : Int}
    (replayable : Replayable env.kernel s) (cut : Interrupted env.kernel skips s t)
    (frame : frameaddr ≠ 0) (apart : FrameApart regs s.stack)
    (flag : ¬Within regs sizeofPtregs env.kernel.swapBranchCondition)
    (range : ∀ w, restartSkips env false frameaddr regs w = true → skips w)
    (quiet : FailsQuietly False onFail) (loud : FailsLoudly onFail)
    : Ends (hookInterruptException env onFail regs frameaddr exceptionType)
        (fun r u => r = 1 ∧ HandlerDone env.kernel skips regs s u)
        (HandlerExit env.kernel skips regs s t) t := by
  have coupled : t.log.enabled = t.inSpeculativeEmulation := by rw [cut.log, cut.inSpec]
  rw [hookInterruptException, ends_bind, ends_get, if_neg (by simp [cut.initDone]), ends_bind]
  refine ends_ltAssert_pos frame ?_
  simp only [ends_bind, ends_get]
  refine ends_ltAssert_pos coupled ?_
  rw [if_pos cut.inSpec, ends_bind]
  exact (interruptRestart_survives replayable cut (exceptionRestartType_ne exceptionType)
    apart flag range quiet loud).imp (fun _ _ done => ⟨rfl, done⟩) (fun _ _ exit => exit)

end

section
variable {kernel : Kernel} {task : Task} {skips : Address → Prop} {s t : Rt}

/-- A handler entered in the middle of a rollback finishes it, or faults further down. -/
theorem FaultHandler.run_survives {handler : FaultHandler} (replayable : Replayable kernel s)
    (cut : Interrupted kernel skips s t) (placed : handler.Placed kernel s.stack)
    (range : ∀ w, handler.Skips kernel task w → skips w)
    : Ends (handler.run kernel task) (fun _ _ => False)
        (HandlerExit kernel skips handler.regs s t) t := by
  rw [FaultHandler.run, exceptionInterrupt, enterInterrupt, ends_bind, ends_modify, ends_bind]
  have replayable : Replayable (Env.kernel { kernel, frames := handler.frames, task }) s :=
    replayable
  have cut : Interrupted (Env.kernel { kernel, frames := handler.frames, task }) skips s t := cut
  have pushed := cut.pushed replayable.coherent.aligned
    (u := { t with
      mem := allSlots.foldl (fun mem slot => writeWord mem (slotAddress handler.regs slot)
        ((handler.interrupted.put .eflags (irqFlags t.irqsEnabled)) slot)) t.mem
      irqsEnabled := false })
    (foldl_slots_frame handler.regs _ _ t.mem)
    (fun b within => range _ (placed.apart.skips within)) rfl
  refine (hookInterruptException_survives replayable pushed placed.frameaddr placed.apart
    placed.flag range (kspecemPanic_quiet _ kernel.panicDepth_pos)
    (kspecemPanic_loud _ _)).imp ?_ ?_
  · rintro _ u ⟨rfl, done⟩
    rw [leaveInterrupt, ends_bind, ends_modify, if_pos rfl]
    refine Or.inr ⟨Or.inl ⟨rfl, done.2⟩, ?_, done.2⟩
    exact done.1.congr ⟨rfl, rfl, rfl, rfl⟩
  · rintro e u (⟨fault, later⟩ | finished)
    · exact Or.inl ⟨fault, later.interrupted, later.fewer⟩
    · exact Or.inr finished

theorem Replayable.interrupted (h : Replayable kernel s) : Interrupted kernel skips s s where
  initDone := h.coherent.initDone
  inSpec := h.inSpec
  log := by
    rw [← h.inSpec, ← h.coherent.coupled]
  position := Nat.le_refl _
  stack := rfl
  registers := rfl
  reports := rfl
  sized := h.sized
  survived := .start kernel skips s

/-- The words that a restart's replay or one of its handlers' replays leaves alone. -/
def RestoreSkips (kernel : Kernel) (task : Task) (first : RestartEntry)
    (handlers : List FaultHandler) (w : Address)
    : Prop :=
  first.Skips kernel task w ∨ ∃ handler ∈ handlers, handler.Skips kernel task w

/-- A handler's frame leads to the checkpoint. -/
def RestartEntry.Returns (s u : Rt) : RestartEntry → Prop
  | .call _ => True
  | .exception handler => FrameReturns handler.regs s u

/-- The rollback of `s` is over, and the innermost handler's frame leads to the checkpoint. -/
structure ReplayDone (kernel : Kernel) (skips : Address → Prop) (entry : RestartEntry)
    (s u : Rt) : Prop where
  rolledBack : RolledBack kernel skips s u
  returns : entry.Returns s u

/-- What holds where the innermost restart, the one of `entry`, starts. -/
structure Nested (kernel : Kernel) (task : Task) (skips : Address → Prop) (s : Rt)
    (handlers : List FaultHandler) (entry : RestartEntry) (t : Rt) : Prop where
  interrupted : Interrupted kernel skips s t
  rolls : entry.Rolls kernel t
  range : ∀ w, entry.Skips kernel task w → skips w
  fewer : t.log.position + handlers.length ≤ s.log.position

variable {first entry : RestartEntry} {handlers : List FaultHandler}

/-- The innermost restart is cut short with fewer entries left, or finishes. -/
theorem Nested.run_survives (replayable : Replayable kernel s)
    (nested : Nested kernel task skips s handlers entry t)
    : Ends (entry.run kernel task)
        (fun _ u => ReplayDone kernel skips entry s u)
        (fun e u =>
          e = .fault true ∧ Cut kernel skips s t u
          ∨ FinishExit s e u ∧ ReplayDone kernel skips entry s u) t := by
  cases entry with
  | call attempt =>
      have replayable
          : Replayable (Env.kernel { kernel, frames := attempt.frames, task }) s := replayable
      refine Ends.bind ((restart_survives replayable nested.interrupted nested.rolls nested.range
        (kspecemPanic_quiet _ kernel.panicDepth_pos) (kspecemPanic_loud _ _)).imp
        (fun _ _ done => ⟨done.2.rolledBack, trivial⟩) ?_) (fun _ _ done => done)
      rintro e u (cut | ⟨exit, done⟩)
      · exact Or.inl cut
      · exact Or.inr ⟨exit, done.rolledBack, trivial⟩
  | exception handler =>
      have placed : handler.Placed kernel s.stack := nested.interrupted.stack ▸ nested.rolls
      refine (handler.run_survives replayable nested.interrupted placed nested.range).imp
        (fun _ _ no => no.elim) ?_
      rintro e u (cut | ⟨exit, done⟩)
      · exact Or.inl cut
      · exact Or.inr ⟨exit, done.1, done.2⟩

/-- Every fault leaves the rollback as far as it had come, by induction on the faults. -/
theorem Faults.nested (replayable : Replayable kernel s) (rolls : first.Rolls kernel s)
    (faults : Faults kernel task first s handlers entry t)
    (placed : ∀ handler ∈ handlers, handler.Placed kernel s.stack)
    (range : ∀ w, RestoreSkips kernel task first handlers w → skips w)
    : Nested kernel task skips s handlers entry t := by
  induction faults with
  | none =>
      exact ⟨replayable.interrupted, rolls, fun w skip => range w (Or.inl skip), Nat.le_refl _⟩
  | @fault handlers entry t u isWrite faults cut handler ih =>
      have nested : Nested kernel task skips s handlers entry t := by
        refine ih (fun other member => placed other (List.mem_cons_of_mem _ member)) ?_
        rintro w (skip | ⟨other, member, skip⟩)
        · exact range w (Or.inl skip)
        · exact range w (Or.inr ⟨other, List.mem_cons_of_mem _ member, skip⟩)
      have exit := (nested.run_survives replayable).of_error cut
      rcases exit with ⟨_, cut⟩ | ⟨⟨no, _⟩ | ⟨final, _⟩, _⟩
      · have stack := cut.interrupted.stack
        refine ⟨cut.interrupted, ?_, ?_, ?_⟩
        · have placed := placed handler List.mem_cons_self
          rw [← stack] at placed
          exact placed
        · exact fun w skip => range w (Or.inr ⟨handler, List.mem_cons_self, skip⟩)
        · have before := nested.fewer
          have fewer := cut.fewer
          rw [List.length_cons]
          omega
      · contradiction
      · exact final.elim

/-- Whatever handlers the faults enter, some innermost restart does not fault, by induction on
the entries left.
-/
theorem Faults.exists_last (replayable : Replayable kernel s) (rolls : first.Rolls kernel s)
    {next : Rt → FaultHandler} (placed : ∀ u, (next u).Placed kernel s.stack)
    (faults : Faults kernel task first s handlers entry t)
    (chosen : ∀ handler ∈ handlers, ∃ u, next u = handler)
    : ∃ handlers entry t,
        Faults kernel task first s handlers entry t
        ∧ (∀ handler ∈ handlers, ∃ u, next u = handler)
        ∧ Ends (entry.run kernel task) (fun _ _ => True) (fun e _ => ∀ isWrite, e ≠ .fault isWrite)
            t := by
  induction left : t.log.position using Nat.strong_induction_on
    generalizing handlers entry t with
  | _ left_ ih =>
      subst left
      by_cases stuck : ∃ isWrite u, entry.run kernel task t = .error (.fault isWrite) u
      · obtain ⟨isWrite, u, cut⟩ := stuck
        have allPlaced : ∀ handler ∈ handlers, handler.Placed kernel s.stack := by
          intro handler member
          obtain ⟨u, rfl⟩ := chosen handler member
          exact placed u
        have nested : Nested kernel task _ s handlers entry t :=
          faults.nested replayable rolls allPlaced (fun _ skip => skip)
        rcases (nested.run_survives replayable).of_error cut with
          ⟨_, later⟩ | ⟨⟨no, _⟩ | ⟨final, _⟩, _⟩
        · refine ih _ later.fewer (faults.fault cut (next u)) ?_ rfl
          intro handler member
          rcases List.mem_cons.mp member with rfl | older
          · exact ⟨u, rfl⟩
          · exact chosen handler older
        · contradiction
        · exact final.elim
      · refine ⟨handlers, entry, t, faults, chosen, Ends.intro (fun _ _ _ => trivial) ?_⟩
        rintro e u exit isWrite rfl
        exact stuck ⟨isWrite, u, exit⟩

/-- A rollback survives the faults of its replay. Every fault leaves fewer entries, and the
innermost restart faults again or is over: the log is empty, speculation is off, memory is the
checkpoint's, and its handler returns to the checkpoint. Whatever handlers the faults enter,
some innermost restart comes to this.
-/
theorem faultedReplay_finishes {kernel : Kernel} {task : Task} {first : RestartEntry} {s : Rt}
    (replayable : Replayable kernel s) (rolls : first.Rolls kernel s)
    : (∀ handlers entry t,
        Faults kernel task first s handlers entry t
        → (∀ handler ∈ handlers, handler.Placed kernel s.stack)
        → t.log.position + handlers.length ≤ s.log.position
          ∧ Ends (entry.run kernel task)
              (fun _ u => ReplayDone kernel (RestoreSkips kernel task first handlers) entry s u)
              (fun e u =>
                e = .fault true ∧ u.log.position < t.log.position
                ∨ FinishExit s e u
                  ∧ ReplayDone kernel (RestoreSkips kernel task first handlers) entry s u)
              t)
      ∧ ∀ next : Rt → FaultHandler,
          (∀ u, (next u).Placed kernel s.stack)
          → ∃ handlers entry t,
              Faults kernel task first s handlers entry t
              ∧ (∀ handler ∈ handlers, ∃ u, next u = handler)
              ∧ Ends (entry.run kernel task) (fun _ _ => True)
                  (fun e _ => ∀ isWrite, e ≠ .fault isWrite) t := by
  refine ⟨fun handlers entry t faults placed => ?_, fun next placed => ?_⟩
  · have nested : Nested kernel task _ s handlers entry t :=
      faults.nested replayable rolls placed (fun _ skip => skip)
    refine ⟨nested.fewer, (nested.run_survives replayable).imp (fun _ _ done => done) ?_⟩
    exact fun _ _ exit => exit.imp_left (fun cut => ⟨cut.1, cut.2.fewer⟩)
  · exact Faults.none.exists_last replayable rolls placed
      (fun _ member => absurd member List.not_mem_nil)

end

/-- The sample kernel with the page at `0x600000` read-only. -/
def readOnlyKernel : Kernel :=
  { sampleKernel with
    writablePage := fun page => page ≠ 0x600
    nmiCount_writable := by decide }

/-- The open episode after a store, and a second one to the read-only page. -/
def sampleStored : Machine :=
  machineAfter [sampleEvent (.store 0x610000), sampleEvent (.store 0x600000)] sampleOpen

theorem sampleStored_reached : Reached sampleKernel sampleStored :=
  (sampleOpen_reached.after (sampleEvent (.store 0x610000)) True.intro (by decide)).after
    (sampleEvent (.store 0x600000)) True.intro (by decide)

theorem sampleStored_replayable : Replayable readOnlyKernel sampleStored.rt where
  coherent := { sampleStored_reached.inv.coherent (by decide) with }
  inSpec := rfl
  fits := by decide
  sized := by constructor <;> decide

/-- A handler whose frame lies below the sample restart's. -/
def sampleHandler : FaultHandler where
  frames := sampleFrames
  regs := 0x6f000
  frameaddr := 0x6efc0
  interrupted := fun _ => 0
  exceptionType := 1

/-- The restart that the read-only word cuts short. -/
def sampleCut : RestartEntry := .call ⟨sampleFrames, true, .restartCall, 0, 0, 0⟩

/-- The state its fault leaves. -/
def sampleFaulted : Rt :=
  endState (sampleCut.run readOnlyKernel sampleEnv.task) sampleStored.rt

theorem faultedReplay_finishes_sample
    : sampleFaulted.log.position + 1 ≤ sampleStored.rt.log.position
      ∧ Ends ((RestartEntry.exception sampleHandler).run readOnlyKernel sampleEnv.task)
          (fun _ u =>
            ReplayDone readOnlyKernel
              (RestoreSkips readOnlyKernel sampleEnv.task sampleCut [sampleHandler])
              (.exception sampleHandler) sampleStored.rt u)
          (fun e u =>
            e = .fault true ∧ u.log.position < sampleFaulted.log.position
            ∨ FinishExit sampleStored.rt e u
              ∧ ReplayDone readOnlyKernel
                  (RestoreSkips readOnlyKernel sampleEnv.task sampleCut [sampleHandler])
                  (.exception sampleHandler) sampleStored.rt u)
          sampleFaulted := by
  have rolls : sampleCut.Rolls readOnlyKernel sampleStored.rt := by
    rintro ⟨_, other, _⟩
    contradiction
  have cut : sampleCut.run readOnlyKernel sampleEnv.task sampleStored.rt
      = .error (.fault true) sampleFaulted := rfl
  have faults := Faults.none.fault cut sampleHandler
  refine (faultedReplay_finishes sampleStored_replayable rolls).1 _ _ _ faults ?_
  intro handler member
  obtain rfl := List.mem_singleton.mp member
  refine ⟨by decide, ⟨by decide, by decide, by decide, ?_⟩, by decide⟩
  intro b within holds
  simp only [StackLog.Holds, Within] at within holds
  have base : sampleStored.rt.stack.baseAddress = 0x70200 := rfl
  have len : sampleStored.rt.stack.len = 0x100 := rfl
  have regs : sampleHandler.regs = 0x6f000 := rfl
  rw [base, len] at holds
  rw [regs, sizeofPtregs] at within
  bv_omega

end Kasper
