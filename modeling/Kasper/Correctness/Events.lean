import Kasper.Correctness.Interrupts

/-! One event keeps every rider that admits it. -/

namespace Kasper

open ByteMemory Exits

/-- The runtime's own variables are not the program's: a program write leaves the swap flag
alone or clears it, and neither saved stack frames nor interrupt frames reach it.
-/
def Action.Placed (kernel : Kernel) : Action → Prop
  | .saveStack _ frameaddress rsp
  | .branch _ _ _ frameaddress rsp _ _ =>
      ¬Within rsp (frameaddress - rsp).toNat kernel.swapBranchCondition
  | .timer _ regs _ _
  | .exception regs _ _ _ => ¬Within regs sizeofPtregs kernel.swapBranchCondition
  | .write target bytes =>
      ∀ byte, bytes[(kernel.swapBranchCondition - target).toNat]? = some byte → byte = 0
  | _ => True

/-- The report a report hook records. -/
def ReportCall.bug (kernel : Kernel) (inSpec : Bool) (specLength : BitVec 32)
    : ReportCall → Bug
  | .kasan addr size isWrite ip =>
      makeBug kernel inSpec specLength addr size isWrite ip 0 0 .kasanAccess
  | .ridl addr size isWrite ip dataLabel ptrLabel =>
      makeBug kernel inSpec specLength addr size isWrite ip dataLabel ptrLabel .mdsAccess
  | .specv1 addr size isWrite ip dataLabel ptrLabel =>
      makeBug kernel inSpec specLength addr size isWrite ip dataLabel ptrLabel .ccAccess
  | .smotherspectre ip label =>
      makeBug kernel inSpec specLength 0 0 false ip 0 label .pcAccess

/-- A rider admits an interrupt when memory outside its frame is all it looks at, and the
handler's rollback where there is one.
-/
structure AdmitsInterrupt (env : Env) (X : Rider env.kernel) (regs frameaddr : Address)
    (restartType : RestartType) (s : Rt)
    : Prop where
  memory : ∀ (t : Rt) mem, FrameOnly regs t.mem mem → X.admitsMemory t mem
  indirect
    : s.inSpeculativeEmulation = true → X.spares (restartSkips env false frameaddr regs)
  admitted : s.inSpeculativeEmulation = true → X.admits restartType s
  apart : s.inSpeculativeEmulation = true → X.readsFrames → FrameApart regs s.stack

/-- A rider admits a hook's arguments. -/
def Action.Admitted (env : Env) (X : Rider env.kernel) (s : Rt) : Action → Prop
  | .checkSpecLength bbInstCount => X.admitsBlock bbInstCount
  | .checkCallDepth => X.admitsDepth
  | .saveStack irqFlags frameaddress rsp =>
      irqFlags ≠ noCheckpoint → X.admitsFrame frameaddress rsp
  | .saveRegisters _ _ token => ¬token.toInt ≤ -1 → X.admitsRegisters s
  | .branch _ leaveFrames _ frameaddress rsp _ _ =>
      X.spares (restartSkips { env with frames := leaveFrames } true 0 0)
      ∧ (s.inSpeculativeEmulation = false
        → X.admitsFrame frameaddress rsp
          ∧ ∀ t : Rt, t.reports = s.reports → X.admitsRegisters t)
  | .restart restartType _ => X.admits restartType s
  | .report call =>
      ∀ specLength, X.admitsBug (call.bug env.kernel s.inSpeculativeEmulation specLength)
  | .timer _ regs frameaddr _ => AdmitsInterrupt env X regs frameaddr .restartTimer s
  | .exception regs frameaddr _ exceptionType =>
      AdmitsInterrupt env X regs frameaddr (exceptionRestartType exceptionType) s
  | .write target bytes => X.admitsMemory s (writeBytes s.mem target bytes)
  | _ => True

/-- What a rider asks of an event in a state. -/
structure Event.Admitted (kernel : Kernel) (X : Rider kernel) (s : Rt) (event : Event)
    : Prop where
  placed : event.action.Placed kernel
  spares : X.spares (restartSkips (event.env kernel) true 0 0)
  action : event.action.Admitted (event.env kernel) X s

/-- A rider that looks neither at the program's memory nor at its stack frames. -/
structure Rider.Lenient {kernel : Kernel} (X : Rider kernel) : Prop where
  spares : ∀ skip, X.spares skip
  frame : ∀ frameaddress rsp, X.admitsFrame frameaddress rsp
  memory : ∀ s mem, X.admitsMemory s mem
  frames : ¬X.readsFrames

/-- The restart type of a hook or handler that may end an episode. -/
def Action.endsBy : Action → Option RestartType
  | .restart restartType _ => some restartType
  | .timer _ _ _ _ => some .restartTimer
  | .exception _ _ _ exceptionType => some (exceptionRestartType exceptionType)
  | _ => none

/-- Only the restart hook is ever of type `RETURN`. -/
theorem Action.endsBy_return {action : Action} (ends : action.endsBy = some .restartReturn)
    : ∃ callArg, action = .restart .restartReturn callArg := by
  cases action with
  | restart restartType callArg =>
      obtain rfl := Option.some.inj ends
      exact ⟨callArg, rfl⟩
  | exception regs frameaddr interrupted exceptionType =>
      exact absurd (Option.some.inj ends) (exceptionRestartType_ne exceptionType)
  | timer leaving regs frameaddr interrupted => exact absurd (Option.some.inj ends) (by decide)
  | _ => contradiction

/-- The action may save the registers of a checkpoint. -/
def Action.SavesRegisters (s : Rt) : Action → Prop
  | .saveRegisters _ _ _ => True
  | .branch _ _ _ _ _ _ _ => s.inSpeculativeEmulation = false
  | _ => False

/-- What a lenient rider asks of an event. -/
structure Event.Asked (kernel : Kernel) (X : Rider kernel) (s : Rt) (event : Event)
    : Prop where
  placed : event.action.Placed kernel
  block
    : ∀ bbInstCount, event.action = .checkSpecLength bbInstCount → X.admitsBlock bbInstCount
  depth : event.action = .checkCallDepth → X.admitsDepth
  restarts : ∀ restartType, event.action.endsBy = some restartType → X.admits restartType s
  registers : event.action.SavesRegisters s → ∀ t, X.admitsRegisters t
  bug
    : ∀ call specLength,
        event.action = .report call
        → X.admitsBug (call.bug kernel s.inSpeculativeEmulation specLength)

theorem Rider.Lenient.admitted {kernel : Kernel} {X : Rider kernel} {s : Rt} {event : Event}
    (lenient : X.Lenient) (asked : event.Asked kernel X s)
    : event.Admitted kernel X s where
  placed := asked.placed
  spares := lenient.spares _
  action := by
    have restarts := asked.restarts
    have registers := asked.registers
    have interrupt {regs frameaddr : Address} {restartType : RestartType}
        (ends : event.action.endsBy = some restartType)
        : AdmitsInterrupt (event.env kernel) X regs frameaddr restartType s :=
      ⟨fun t mem _ => lenient.memory t mem, fun _ => lenient.spares _,
        fun _ => restarts restartType ends, fun _ reads => absurd reads lenient.frames⟩
    cases action : event.action with
    | checkSpecLength bbInstCount => exact asked.block bbInstCount action
    | checkCallDepth => exact asked.depth action
    | restart restartType callArg => exact restarts restartType (by rw [action]; rfl)
    | timer leaving regs frameaddr interrupted => exact interrupt (by rw [action]; rfl)
    | exception regs frameaddr interrupted exceptionType =>
        exact interrupt (by rw [action]; rfl)
    | branch saveFrames leaveFrames inInterrupt frameaddress rsp cpu returnAddress =>
        refine ⟨lenient.spares _, fun idle => ⟨lenient.frame _ _, fun t _ => ?_⟩⟩
        exact registers (by rw [action]; exact idle) t
    | saveStack irqFlags frameaddress rsp => exact fun _ => lenient.frame _ _
    | saveRegisters cpu returnAddress token =>
        exact fun _ => registers (by rw [action]; exact True.intro) s
    | report call => exact fun specLength => asked.bug call specLength action
    | write target bytes => exact lenient.memory s _
    | _ => exact True.intro

section
variable {env : Env} {X : Rider env.kernel} {s : Rt}

theorem AdmitsInterrupt.interruptible {regs frameaddr : Address} {restartType : RestartType}
    (h : AdmitsInterrupt env X regs frameaddr restartType s)
    (flag : ¬Within regs sizeofPtregs env.kernel.swapBranchCondition)
    (direct : X.spares (restartSkips env true 0 0)) (other : restartType ≠ .restartReturn)
    (spec : s.inSpeculativeEmulation = true)
    : Interruptible env X regs frameaddr restartType s where
  memory := h.memory
  flag := flag
  direct := direct
  indirect := h.indirect spec
  admitted := h.admitted spec
  other := other
  apart := h.apart spec

theorem reportCall_keeps {call : ReportCall} (inv : Inv env.kernel X s)
    (admitted
      : ∀ specLength, X.admitsBug (call.bug env.kernel s.inSpeculativeEmulation specLength))
    : Ends (call.run env) (fun _ t => Inv env.kernel X t) (InvExit env.kernel X) s := by
  have handler := env.handler
  have reports {addr : Address} {size : Word} {isWrite : Bool} {ip : Address}
      {dataLabel ptrLabel : BitVec 32} {accessType : AccessType} {line : Nat}
      (other : ¬SpecAssert.OfStateMachine ⟨"kspecem_interface.c", line, "irqs_disabled()"⟩)
      (admitted
        : ∀ specLength,
            X.admitsBug
              (makeBug env.kernel s.inSpeculativeEmulation specLength addr size isWrite ip
                dataLabel ptrLabel accessType))
      : Ends
          (hookReport env.onFail line
            (accessReport env env.onFail addr size isWrite ip dataLabel ptrLabel accessType))
          (fun _ t => Inv env.kernel X t) (InvExit env.kernel X) s := by
    refine hookReport_keeps handler inv other (fun t inv inSpec => ?_)
    exact accessReport_keeps handler inv (fun specLength => inSpec ▸ admitted specLength)
  cases call with
  | kasan addr size isWrite ip =>
      rw [ReportCall.run, hookKasanReport, ends_bind, ends_ite]
      exact ⟨fun _ => inv, fun _ => reports (by decide) admitted⟩
  | ridl addr size isWrite ip dataLabel ptrLabel =>
      exact Ends.bind (reports (by decide) admitted) (fun _ _ kept => kept)
  | specv1 addr size isWrite ip dataLabel ptrLabel =>
      exact Ends.bind (reports (by decide) admitted) (fun _ _ kept => kept)
  | smotherspectre ip label =>
      exact Ends.bind (reports (by decide) admitted) (fun _ _ kept => kept)

/-- The hooks of a branch: in speculation none of them does anything with the token. -/
theorem branchHooks_keeps {saveFrames leaveFrames : Frames} {inInterrupt : Bool}
    {frameaddress rsp : Address} {cpu : PtRegs} {returnAddress : Word}
    (spares : X.spares (restartSkips env true 0 0))
    (clear : ¬Within rsp (frameaddress - rsp).toNat env.kernel.swapBranchCondition)
    (admitted
      : (Action.branch saveFrames leaveFrames inInterrupt frameaddress rsp cpu
          returnAddress).Admitted env X s)
    (inv : Inv env.kernel X s)
    : Ends
        (branchHooks env { env with frames := saveFrames } { env with frames := leaveFrames }
          inInterrupt frameaddress rsp cpu returnAddress)
        (fun _ t => Inv env.kernel X t) (InvExit env.kernel X) s := by
  obtain ⟨spareLeave, admitted⟩ := admitted
  refine Ends.bind (hookNewCheckpoint_keeps env.handler spares inInterrupt inv) ?_
  rintro token t ⟨opened, taken⟩
  have saveHandler := Env.handler { env with frames := saveFrames }
  refine Ends.bind (hookSaveStack_keeps saveHandler
    (fun token => (admitted (taken token).1).1) (fun _ => clear) opened) ?_
  rintro _ u ⟨saved, reports⟩
  refine Ends.bind (saveRegisters_keeps saved (fun positive => ?_)) ?_
  · have some : token ≠ noCheckpoint := fun none => positive (by rw [none]; decide)
    obtain ⟨idle, same⟩ := taken some
    exact (admitted idle).2 u (reports.trans same)
  · intro _ v registered
    have leaveHandler := Env.handler { env with frames := leaveFrames }
    refine Ends.bind (hookLeaveRt_keeps leaveHandler spareLeave token v registered) ?_
    exact fun _ _ kept => kept

theorem programWrite_keeps {target : Address} {bytes : List Byte} (inv : Inv env.kernel X s)
    (placed : (Action.write target bytes).Placed env.kernel)
    (admitted : X.admitsMemory s (writeBytes s.mem target bytes))
    : Ends (programWrite env.kernel target bytes) (fun _ t => Inv env.kernel X t)
        (InvExit env.kernel X) s := by
  rw [programWrite, ends_ite, ends_modify, ends_throw]
  refine ⟨fun _ => ⟨?_, inv.consistent.congr rfl, ?_⟩, fun _ => ?_⟩
  · refine inv.coherent.congr rfl rfl rfl rfl rfl (fun _ clear => ?_)
    have byte := placed
    simp only [Action.Placed] at byte
    simp only [writeBytes, List.getD_eq_getElem?_getD]
    cases stored : bytes[(env.kernel.swapBranchCondition - target).toNat]? with
    | none => exact clear
    | some value => exact byte value stored
  · exact X.written s _ inv.holds admitted
  · refine ⟨inv.consistent, by simp, fun _ _ => ⟨inv.coherent, ?_, fun _ => inv.holds⟩,
      fun final => final.elim⟩
    exact X.rolls_of_holds s inv.holds

/-- Every action keeps the invariant; an exception also out of a fault. -/
theorem Action.run_keeps {action : Action} (placed : action.Placed env.kernel)
    (spares : X.spares (restartSkips env true 0 0)) (admitted : action.Admitted env X s)
    (standing : Standing env.kernel X s)
    (running
      : (∃ regs frameaddr interrupted exceptionType,
          action = .exception regs frameaddr interrupted exceptionType)
        ∨ Inv env.kernel X s)
    : Ends (action.run env) (fun _ t => Inv env.kernel X t) (InvExit env.kernel X) s := by
  have handler := env.handler
  -- out of a fault only the exception runs, and `standing` is all it needs
  rcases running with ⟨regs, frameaddr, interrupted, exceptionType, rfl⟩ | inv
  · exact exceptionInterrupt_keeps handler standing admitted.memory placed
      (admitted.interruptible placed spares (exceptionRestartType_ne exceptionType))
  cases action with
  | checkSpecLength bbInstCount => exact hookCheckSpecLength_keeps handler spares admitted inv
  | panicInfo => exact hookPanicInfo_keeps s inv
  | printRestartStatistics => exact hookPrintRestartStatistics_keeps handler spares s inv
  | checkCallDepth => exact hookCheckCallDepth_keeps handler spares admitted s inv
  | newCheckpoint inInterrupt =>
      exact Ends.bind (hookNewCheckpoint_keeps handler spares inInterrupt inv)
        (fun _ _ kept => kept.1)
  | saveStack irqFlags frameaddress rsp =>
      exact (hookSaveStack_keeps handler admitted (fun _ => placed) inv).imp
        (fun _ _ kept => kept.1) (fun _ _ exit => exit)
  | saveRegisters cpu returnAddress token => exact saveRegisters_keeps inv admitted
  | leaveRt irqFlags => exact hookLeaveRt_keeps handler spares irqFlags s inv
  | branch saveFrames leaveFrames inInterrupt frameaddress rsp cpu returnAddress =>
      exact Ends.bind (branchHooks_keeps spares placed admitted inv) (fun _ _ kept => kept)
  | restart restartType callArg =>
      exact Ends.bind (hookRestart_returns handler spares inv admitted) (fun _ _ kept => kept.1)
  | store addr => exact hookStore_inv handler spares addr s inv
  | memcpy addr size => exact hookMemcpy_keeps handler spares addr size s inv
  | report call => exact reportCall_keeps inv admitted
  | isWhitelistTask =>
      exact Ends.bind (hookIsWhitelistTask_keeps handler spares s inv) (fun _ _ kept => kept)
  | access pfDummyRegion ptr size addrValid =>
      exact Ends.bind (hookAccess_keeps handler pfDummyRegion ptr size addrValid s inv)
        (fun _ _ kept => kept)
  | timer leaving regs frameaddr interrupted =>
      exact timerBetween_keeps handler inv admitted.memory placed
        (admitted.interruptible placed spares (by decide))
  | exception regs frameaddr interrupted exceptionType =>
      exact exceptionInterrupt_keeps handler standing admitted.memory placed
        (admitted.interruptible placed spares (exceptionRestartType_ne exceptionType))
  | write target bytes => exact programWrite_keeps inv placed admitted
  | setIrqs enabled =>
      rw [Action.run, ends_modify]
      refine ⟨?_, inv.consistent.congr rfl, X.section_ s s.isInRt enabled inv.holds⟩
      exact inv.coherent.congr rfl rfl rfl rfl rfl (fun _ clear => clear)

end

/-- What holds of the machine: the invariant while the kernel runs, a state an exception
may come in after a fault, and no assertion of the state machine failed.
-/
structure MachineInv (kernel : Kernel) (X : Rider kernel) (m : Machine) : Prop where
  consistent : m.rt.Consistent
  running : m.phase = .running → Inv kernel X m.rt
  faulted : m.phase = .faulted → Standing kernel X m.rt

/-- The machine after a step: it runs on where the hook returned, where control went back to
a checkpoint the rider has `resumed`, and where the kernel stopped the rider has `ended`.
-/
structure MachineStep (kernel : Kernel) (X : Rider kernel) (m : Machine) : Prop where
  consistent : m.rt.Consistent
  running
    : m.phase = .running
      → Inv kernel X m.rt
        ∨ Coherent kernel m.rt ∧ m.rt.inSpeculativeEmulation = false ∧ X.resumed m.rt
  faulted : m.phase = .faulted → Standing kernel X m.rt
  stopped : m.phase = .stopped → X.ended m.rt.reports.printed

/-- An enabled event the rider admits, from a machine that meets the invariant. -/
theorem MachineInv.run_keeps {kernel : Kernel} {X : Rider kernel} {m : Machine}
    {event : Event} (inv : MachineInv kernel X m)
    (admitted : event.Admitted kernel X m.rt) (enabled : m.Enabled event.action)
    : Ends (event.run kernel) (fun _ t => Inv kernel X t) (InvExit kernel X) m.rt := by
  cases phase : m.phase with
  | running =>
      have inv := inv.running phase
      exact @Action.run_keeps (event.env kernel) X m.rt event.action admitted.placed admitted.spares
        admitted.action inv.standing (Or.inr inv)
  | faulted =>
      have standing := inv.faulted phase
      refine @Action.run_keeps (event.env kernel) X m.rt event.action admitted.placed
        admitted.spares admitted.action standing (Or.inl ?_)
      simp only [Machine.Enabled, phase] at enabled
      split at enabled
      case h_1 regs frameaddr interrupted exceptionType same =>
        exact ⟨regs, frameaddr, interrupted, exceptionType, same⟩
      case h_2 => exact enabled.elim
  | stopped =>
      simp only [Machine.Enabled, phase] at enabled

/-- The machine a step leads to. -/
theorem Machine.step_eq {kernel : Kernel} {m next : Machine} {event : Event}
    (steps : m.step kernel event = some next)
    : m.Enabled event.action ∧ next = .after (event.run kernel m.rt) := by
  unfold Machine.step at steps
  split at steps
  · rename_i enabled
    exact ⟨enabled, (Option.some.inj steps).symm⟩
  · contradiction

/-- Nothing happens to a kernel that has stopped. -/
theorem Machine.alive_of_enabled {m : Machine} {action : Action} (enabled : m.Enabled action)
    : m.phase ≠ .stopped := by
  intro stopped
  simp only [Machine.Enabled, stopped] at enabled

/-- A step leads on from a machine that has not stopped. -/
theorem Machine.alive_of_step {kernel : Kernel} {m next : Machine} {event : Event}
    (steps : m.step kernel event = some next)
    : m.phase ≠ .stopped :=
  Machine.alive_of_enabled (Machine.step_eq steps).1

/-- The kernel runs on where the hook returned or control went back to the checkpoint. -/
theorem Machine.after_running {result : EStateM.Result Exit Rt Unit}
    (running : (Machine.after result).phase = .running)
    : (∃ t, result = .ok () t) ∨ ∃ t, result = .error .resumed t := by
  cases result with
  | ok _ t => exact Or.inl ⟨t, rfl⟩
  | error e t =>
      cases e with
      | resumed => exact Or.inr ⟨t, rfl⟩
      | fault isWrite => contradiction
      | panicked reason => contradiction
      | outOfBounds table => contradiction
      | stackOverflow => contradiction
      | diverged => contradiction

/-- The machine after what the kernel did ended well. -/
theorem MachineStep.of_ends {kernel : Kernel} {X : Rider kernel} {c : RtM Unit} {s : Rt}
    (ends : Ends c (fun _ t => Inv kernel X t) (InvExit kernel X) s)
    : MachineStep kernel X (.after (c s)) := by
  unfold Ends at ends
  cases result : c s with
  | ok _ t =>
      rw [result] at ends
      exact ⟨ends.consistent, fun _ => Or.inl ends, fun phase => by contradiction,
        fun phase => by contradiction⟩
  | error e t =>
      rw [result] at ends
      obtain ⟨consistent, resumed, fault, ended⟩ := ends
      have stops (final : e.Final) (phase : Machine.after (.error e t) = ⟨t, .stopped⟩)
          : MachineStep kernel X (.after (.error e t)) := by
        rw [phase]
        exact ⟨consistent, fun phase => by contradiction, fun phase => by contradiction,
          fun _ => ended final⟩
      cases e with
      | resumed =>
          exact ⟨consistent, fun _ => Or.inr (resumed rfl), fun phase => by contradiction,
            fun phase => by contradiction⟩
      | fault isWrite =>
          obtain ⟨coherent, rolls, holds⟩ := fault isWrite rfl
          exact ⟨consistent, fun phase => by contradiction,
            fun _ => ⟨coherent, consistent, rolls, holds⟩, fun phase => by contradiction⟩
      | panicked reason => exact stops trivial rfl
      | outOfBounds table => exact stops trivial rfl
      | stackOverflow => exact stops trivial rfl
      | diverged => exact stops trivial rfl

/-- A step from a machine that meets the invariant, under an event the rider admits. -/
theorem MachineInv.step {kernel : Kernel} {X : Rider kernel} {m next : Machine}
    {event : Event} (inv : MachineInv kernel X m)
    (admitted : event.Admitted kernel X m.rt) (steps : m.step kernel event = some next)
    : MachineStep kernel X next := by
  obtain ⟨enabled, rfl⟩ := Machine.step_eq steps
  exact MachineStep.of_ends (inv.run_keeps admitted enabled)

/-- A step keeps the invariant where the rider holds again at the checkpoint. -/
theorem MachineStep.inv {kernel : Kernel} {X : Rider kernel} {m : Machine}
    (stepped : MachineStep kernel X m)
    (back
      : Coherent kernel m.rt
        → m.rt.inSpeculativeEmulation = false
        → X.resumed m.rt
        → X.holds m.rt)
    : MachineInv kernel X m where
  consistent := stepped.consistent
  running := by
    intro phase
    rcases stepped.running phase with inv | ⟨coherent, idle, resumed⟩
    · exact inv
    · exact ⟨coherent, stepped.consistent, back coherent idle resumed⟩
  faulted := stepped.faulted

/-- A run keeps the invariant when the rider admits each of its events, by induction on
the run.
-/
theorem Run.inv {kernel : Kernel} {X : Rider kernel} {allowed : Event → Machine → Prop}
    {start m : Machine} (run : Run kernel allowed start m) (inv : MachineInv kernel X start)
    (admits
      : ∀ event m,
          allowed event m → MachineInv kernel X m → event.Admitted kernel X m.rt)
    (back
      : ∀ t,
          Coherent kernel t
          → t.inSpeculativeEmulation = false
          → X.resumed t
          → X.holds t)
    : MachineInv kernel X m := by
  induction run with
  | refl => exact inv
  | @step m next event _ admitted steps ih =>
      have stepped := ih.step (admits event m admitted ih) steps
      exact stepped.inv (back next.rt)

end Kasper
