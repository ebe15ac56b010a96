import Kasper.Correctness.Idle
import Kasper.Runtime.Sample

/-! The state machine of checkpoints and restarts keeps its variables in step, over every
run from the late initialisation on.
-/

namespace Kasper

open ByteMemory Exits

/-- The rider that always holds and admits everything. -/
def Rider.trivial (kernel : Kernel) : Rider kernel where
  holds := fun _ => True
  rolls := fun _ => True
  landed := fun _ => True
  resumed := fun _ => True
  replay := fun _ _ _ => True
  admits := fun _ _ => True
  spares := fun _ => True
  admitsBlock := fun _ => True
  admitsDepth := True
  admitsFrame := fun _ _ => True
  admitsRegisters := fun _ => True
  admitsBug := fun _ => True
  admitsMemory := fun _ _ => True
  readsFrames := False
  ended := fun _ => True
  section_ := fun _ _ _ _ => True.intro
  counters := fun _ _ _ => True.intro
  metered := fun _ _ _ _ _ => True.intro
  failed := fun _ _ _ _ _ => True.intro
  appended := fun _ _ _ _ _ _ _ _ => True.intro
  scratched := fun _ _ _ _ => True.intro
  counted := fun _ _ _ _ _ => True.intro
  redepth := fun _ _ _ _ _ => True.intro
  checkpointed := fun _ _ _ _ _ => True.intro
  framed := fun _ _ _ _ _ _ => True.intro
  registered := fun _ _ _ _ _ => True.intro
  cpu := fun _ _ _ => True.intro
  written := fun _ _ _ _ => True.intro
  clobbered := fun _ _ _ _ _ _ _ => True.intro
  reported := fun _ _ _ _ _ _ _ => True.intro
  printed := fun _ _ _ _ _ _ _ _ => True.intro
  admits_busy := fun _ _ _ _ _ => True.intro
  admits_flush := fun _ _ _ _ => True.intro
  nested := fun _ _ _ _ _ _ _ => True.intro
  rolls_of_holds := fun _ _ _ => True.intro
  doomed := fun _ _ _ _ _ _ _ => True.intro
  rolls_written := fun _ _ _ _ _ => True.intro
  starts := fun _ _ => True.intro
  rules := fun s skip _ _ => .vacuous _ skip s
  stopped := fun _ _ _ _ _ _ _ => True.intro
  rolledBack := fun _ _ _ _ _ _ _ _ _ _ _ _ => True.intro
  jumped := fun _ _ => True.intro
  returned := fun _ _ _ _ => True.intro
  ended_holds := fun _ _ => True.intro
  ended_rolls := fun _ _ => True.intro
  ended_landed := fun _ _ => True.intro
  ended_rolled := fun _ _ _ _ _ _ => True.intro
  ended_printed := fun _ _ _ _ _ _ _ _ => True.intro

theorem Rider.trivial_lenient (kernel : Kernel)
    : (Rider.trivial kernel).Lenient where
  spares := fun _ => True.intro
  frame := fun _ _ => True.intro
  memory := fun _ _ => True.intro
  frames := id

/-- It admits every event that keeps off the runtime's own variables. -/
theorem Rider.trivial_admitted {kernel : Kernel} {s : Rt} {event : Event}
    (placed : event.action.Placed kernel)
    : event.Admitted kernel (Rider.trivial kernel) s :=
  (Rider.trivial_lenient kernel).admitted {
    placed
    block := fun _ _ => True.intro
    depth := fun _ => True.intro
    restarts := fun _ _ => True.intro
    registers := fun _ _ => True.intro
    bug := fun _ _ _ => True.intro }

/-- The speculation variables agree with `kspecem_in_speculative_emulation`. -/
structure InStep (kernel : Kernel) (s : Rt) : Prop where
  enabled : s.log.enabled = s.inSpeculativeEmulation
  position : s.inSpeculativeEmulation = false → s.log.position = 0
  depth : s.inSpeculativeEmulation = false → s.specCallDepth = 0
  flag : s.inSpeculativeEmulation = false → s.swapBranchCondition kernel = false

theorem Coherent.inStep {kernel : Kernel} {s : Rt} (h : Coherent kernel s)
    : InStep kernel s where
  enabled := h.coupled
  position := h.idleLog
  depth := h.idleDepth
  flag := by
    intro idle
    simp [Rt.swapBranchCondition, h.idleFlag idle]

/-- The five variables of the state machine have the same values in both states. -/
structure SameSpeculation (kernel : Kernel) (s t : Rt) : Prop where
  inSpec : t.inSpeculativeEmulation = s.inSpeculativeEmulation
  enabled : t.log.enabled = s.log.enabled
  position : t.log.position = s.log.position
  depth : t.specCallDepth = s.specCallDepth
  flag : t.swapBranchCondition kernel = s.swapBranchCondition kernel

/-- Outside speculation `kspecem_restart` does nothing. -/
theorem restart_idle {env : Env} {onFail : SpecAssert → RtM Unit} {s : Rt}
    {E : Exit → Rt → Prop} (idle : s.inSpeculativeEmulation = false) (direct : Bool)
    (restartType : RestartType) (callArg frameaddr regs : Address)
    : Ends (restart env onFail direct restartType callArg frameaddr regs)
        (fun r t => r = 0 ∧ t = s) E s := by
  rw [restart, ends_bind, ends_get, if_pos idle]
  exact ⟨rfl, rfl⟩

/-- Outside speculation the restart hook gives the NMI counter back and changes no variable
of the state machine.
-/
theorem hookRestart_idle {env : Env} {s : Rt} {E : Exit → Rt → Prop}
    (coherent : Coherent env.kernel s) (idle : s.inSpeculativeEmulation = false)
    (direct : Bool) (restartType : RestartType) (callArg : Address)
    : Ends (hookRestart env env.onFail direct restartType callArg)
        (fun r t => r = 0 ∧ t.mem = s.mem ∧ SameSpeculation env.kernel s t) E s := by
  have disabled : s.log.enabled = false := coherent.coupled.trans idle
  rw [hookRestart, ends_bind, ends_get, if_neg (by simp [coherent.initDone]), ends_bind,
    enterKspecemRt_disabled disabled]
  refine Ends.bind (restart_idle (by exact idle) direct restartType callArg 0 0) ?_
  rintro _ _ ⟨rfl, rfl⟩
  rw [ends_bind, leaveKspecemRt_disabled (by exact disabled) rfl]
  have mem : (((s.entered env.kernel).left env.kernel (irqFlags s.irqsEnabled))).mem = s.mem :=
    counted_back env.kernel s
  exact ⟨rfl, mem, rfl, rfl, rfl, rfl, by simp [Rt.swapBranchCondition, mem]⟩

/-- The late initialisation establishes the machine's invariant. -/
theorem Booted.machineInv {kernel : Kernel} {X : Rider kernel} {switches : Switches} {s : Rt}
    (booted : Booted kernel switches s) (holds : X.holds s)
    : MachineInv kernel X ⟨s, .running⟩ := by
  have consistent : s.Consistent := by
    intro failed member
    rw [booted.asserted] at member
    exact absurd member List.not_mem_nil
  exact ⟨consistent, fun _ => ⟨booted.coherent, consistent, holds⟩, fun phase => by contradiction⟩

theorem MachineInv.coherent {kernel : Kernel} {X : Rider kernel} {m : Machine}
    (inv : MachineInv kernel X m) (alive : m.phase ≠ .stopped)
    : Coherent kernel m.rt := by
  cases phase : m.phase with
  | running => exact (inv.running phase).coherent
  | faulted => exact (inv.faulted phase).coherent
  | stopped => exact absurd phase alive

/-- A fault in an episode never leads back into it. -/
theorem MachineInv.faulted_leaves {kernel : Kernel} {X : Rider kernel} {m next : Machine}
    {event : Event} (inv : MachineInv kernel X m) (admitted : event.Admitted kernel X m.rt)
    (phase : m.phase = .faulted) (inSpec : m.rt.inSpeculativeEmulation = true)
    (steps : m.step kernel event = some next) (running : next.phase = .running)
    : next.rt.inSpeculativeEmulation = false := by
  obtain ⟨enabled, rfl⟩ := Machine.step_eq steps
  have kept := inv.run_keeps admitted enabled
  simp only [Machine.Enabled, phase] at enabled
  split at enabled
  case h_2 => exact enabled.elim
  case h_1 regs frameaddr interrupted exceptionType action =>
    obtain ⟨placed, spares, admitted⟩ := admitted
    rw [action] at placed admitted
    have returns
        : Ends (event.run kernel) (fun _ _ => m.rt.inSpeculativeEmulation = false)
            (fun _ _ => True) m.rt := by
      rw [Event.run, action]
      exact @exceptionInterrupt_returns (event.env kernel) X m.rt regs frameaddr interrupted
        exceptionType (event.env kernel).handler (inv.faulted phase) admitted.memory placed
        (admitted.interruptible placed spares (exceptionRestartType_ne exceptionType))
    rcases Machine.after_running running with ⟨t, result⟩ | ⟨t, result⟩
    · exact absurd (inSpec.symm.trans (returns.of_ok result)) (by decide)
    · rw [result]
      exact ((kept.of_error result).2.1 rfl).2.1

/-- A restart from `s`, from wherever it is called, changes none of the five variables. -/
def RestartInert (kernel : Kernel) (s : Rt) : Prop :=
  ∀ env : Env,
    env.kernel = kernel
    → ∀ direct restartType callArg,
        (∀ frameaddr regs,
          Ends (restart env env.onFail direct restartType callArg frameaddr regs)
            (fun _ t => t = s) (fun _ _ => False) s)
        ∧ Ends (hookRestart env env.onFail direct restartType callArg)
            (fun _ t => SameSpeculation kernel s t) (fun _ _ => False) s

theorem Coherent.restartInert {kernel : Kernel} {s : Rt} (h : Coherent kernel s)
    (idle : s.inSpeculativeEmulation = false)
    : RestartInert kernel s := by
  rintro env rfl direct restartType callArg
  refine ⟨fun frameaddr regs => ?_, ?_⟩
  · exact (restart_idle idle direct restartType callArg frameaddr regs).imp
      (fun _ _ kept => kept.2) (fun _ _ exit => exit)
  · exact (hookRestart_idle h idle direct restartType callArg).imp
      (fun _ _ kept => kept.2.2) (fun _ _ exit => exit)

/-- Over every run of hooks, interrupts and program steps from the late initialisation on,
the variables of the state machine are in step wherever the kernel still runs, a restart
outside speculation changes none of them, and no assertion on them has failed.
-/
theorem stateMachine_inStep {env : Env} {heap : Heap} {switches : Switches} {mem : Memory}
    {cpu : PtRegs} {irqsEnabled : Bool} {s : Rt} {m : Machine}
    (fits : heap.writelogAddrs.toNat + writelogBytes < 2 ^ 64)
    (booted
      : commonLateInit env env.onFail heap (Rt.static switches mem cpu irqsEnabled)
        = .ok () s)
    (run
      : Run env.kernel (fun event _ => event.action.Placed env.kernel) ⟨s, .running⟩ m)
    : m.rt.Consistent
      ∧ (m.phase ≠ .stopped
        → InStep env.kernel m.rt
          ∧ (m.rt.inSpeculativeEmulation = false → RestartInert env.kernel m.rt)) := by
  have booted : Booted env.kernel switches s := (commonLateInit_booted fits).of_ok booted
  have inv := run.inv (X := Rider.trivial env.kernel) (booted.machineInv True.intro)
    (fun _ _ placed _ => Rider.trivial_admitted placed) (fun _ _ _ _ => True.intro)
  refine ⟨inv.consistent, fun alive => ?_⟩
  have coherent := inv.coherent alive
  exact ⟨coherent.inStep, coherent.restartInert⟩

/-- Some boot of the kernel and some run from there lead to the machine. -/
def Reached (kernel : Kernel) (m : Machine) : Prop :=
  ∃ (env : Env) (heap : Heap) (switches : Switches) (mem : Memory) (cpu : PtRegs)
    (irqsEnabled : Bool) (s : Rt),
    env.kernel = kernel
    ∧ heap.writelogAddrs.toNat + writelogBytes < 2 ^ 64
    ∧ commonLateInit env env.onFail heap (Rt.static switches mem cpu irqsEnabled) = .ok () s
    ∧ Run kernel (fun event _ => event.action.Placed kernel) ⟨s, .running⟩ m

theorem Reached.inv {kernel : Kernel} {m : Machine} (reached : Reached kernel m)
    : MachineInv kernel (Rider.trivial kernel) m := by
  obtain ⟨env, heap, switches, mem, cpu, irqsEnabled, s, rfl, fits, booted, run⟩ := reached
  have booted : Booted env.kernel switches s := (commonLateInit_booted fits).of_ok booted
  exact run.inv (booted.machineInv True.intro)
    (fun _ _ placed _ => Rider.trivial_admitted placed) (fun _ _ _ _ => True.intro)

theorem Reached.after {kernel : Kernel} {m : Machine} (reached : Reached kernel m)
    (event : Event) (placed : event.action.Placed kernel) (enabled : m.Enabled event.action)
    : Reached kernel (.after (event.run kernel m.rt)) := by
  obtain ⟨env, heap, switches, mem, cpu, irqsEnabled, s, same, fits, booted, run⟩ := reached
  exact ⟨env, heap, switches, mem, cpu, irqsEnabled, s, same, fits, booted,
    run.after event placed enabled⟩

theorem sampleReached : Reached sampleKernel sampleMachine :=
  ⟨sampleEnv, sampleHeap, sampleSwitches, fun _ => 0, fun _ => 0, true, sampleRt, rfl,
    by decide, sampleRt_booted, .refl⟩

/-- The sample kernel with an open episode. -/
def sampleOpen : Machine := machineAfter [sampleBranch] sampleMachine

theorem sampleOpen_reached : Reached sampleKernel sampleOpen := by
  refine sampleReached.after sampleBranch ?_ ?_
  · exact (by decide : ¬Within 0x70100 0x100 sampleKernel.swapBranchCondition)
  · decide

/-- A branch that opens an episode, then a restart that ends it. -/
def sampleEpisode : Machine :=
  machineAfter [sampleBranch, sampleEvent (.restart .restartCall 0)] sampleMachine

theorem stateMachine_inStep_sample
    : sampleEpisode.rt.Consistent
      ∧ (sampleEpisode.phase ≠ .stopped
        → InStep sampleKernel sampleEpisode.rt
          ∧ (sampleEpisode.rt.inSpeculativeEmulation = false
            → RestartInert sampleKernel sampleEpisode.rt)) := by
  refine @stateMachine_inStep sampleEnv sampleHeap sampleSwitches (fun _ => 0) (fun _ => 0)
    true _ _ (by decide) sampleRt_booted ?_
  refine (Run.refl.after sampleBranch ?_ ?_).after (sampleEvent (.restart .restartCall 0)) ?_ ?_
  · exact (by decide : ¬Within 0x70100 0x100 sampleKernel.swapBranchCondition)
  · decide
  · exact True.intro
  · decide

end Kasper
