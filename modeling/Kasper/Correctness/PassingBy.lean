import Kasper.Correctness.ProgramHooks
import Kasper.Passes.IrSteps

/-! Where the runtime leaves a task alone, no inserted instruction does anything: before the
late initialisation, and afterwards in a task that is not listed.
-/

namespace Kasper.Ir

open ByteMemory Exits

/-- The kernel does not speculate, and would not begin to in this task. -/
structure LeavesAlone (kernel : Kernel) (task : Task) (s : Rt) : Prop where
  idle : s.inSpeculativeEmulation = false
  disabled : s.log.enabled = false
  clear : s.mem kernel.swapBranchCondition = 0
  unlisted : s.initDone = true → isWhitelistTask s.whitelistType task = false

/-- The step from `s` to `t` leaves alone what the program and the task go by. -/
structure Unnoticed (kernel : Kernel) (task : Task) (s t : Rt) : Prop where
  alone : LeavesAlone kernel task t
  agree : Agree kernel t.mem s.mem

variable {kernel : Kernel} {task : Task} {s t : Rt}

theorem LeavesAlone.unnoticed (alone : LeavesAlone kernel task s) : Unnoticed kernel task s s :=
  ⟨alone, fun _ _ => rfl⟩

theorem LeavesAlone.congr (alone : LeavesAlone kernel task s)
    (idle : t.inSpeculativeEmulation = s.inSpeculativeEmulation)
    (log : t.log.enabled = s.log.enabled) (mem : t.mem = s.mem)
    (initDone : t.initDone = s.initDone) (whitelist : t.whitelistType = s.whitelistType)
    : Unnoticed kernel task s t where
  alone := {
    idle := idle.trans alone.idle
    disabled := log.trans alone.disabled
    clear := mem ▸ alone.clear
    unlisted := by
      rw [initDone, whitelist]
      exact alone.unlisted }
  agree := fun b _ => congrFun mem b

/-- What an inserted instruction needs of the values defined before it. -/
def Inserted.Ready {Op : Type} (pass : Nat) (temps : Temps) : Inserted Op → Prop
  | .saveStack | .saveRegisters | .leaveRt => temps ⟨pass, .irqFlags⟩ = noCheckpoint
  | .interruptTimer | .interruptException _ => temps ⟨pass, .frameAddress⟩ ≠ 0
  | _ => True

section
variable {Op V : Type} (meaning : Meaning kernel Op V) (values : V) (temps : Temps)

/-- What the value it defines is, where the runtime leaves the task alone. -/
def Inserted.Yields (pass : Nat) (value : Word) : Inserted Op → Prop
  | .newCheckpoint => value = noCheckpoint
  | .frameAddress => value ≠ 0
  | .invertCondition condition op =>
      value = boolWord (!condition.holds meaning values temps op)
  | .loadSwapBranchCondition => value ≠ 1
  | .icmpOne => value = boolWord (temps ⟨pass, .swapBranchCondition⟩ == 1)
  | .select condition op =>
      temps ⟨pass, .cond⟩ = 0 → value = boolWord (condition.holds meaning values temps op)
  | .access ptr _ op => value = ptr.address meaning values temps op
  | .interruptException _ => value = 0
  | .isNull => value = boolWord (temps ⟨pass, .inSpec⟩ == 0)
  | _ => True

end

-----------------------------------------------------------------------------------------
-- Hooks
-----------------------------------------------------------------------------------------

section
variable (env : Env)

theorem hookNewCheckpoint_passes (alone : LeavesAlone env.kernel env.task s) (inInterrupt : Bool)
    : Ends (hookNewCheckpoint env env.onFail inInterrupt)
        (fun token t => token = noCheckpoint ∧ t = s) (fun _ _ => False) s := by
  have refused : Ends (pure noCheckpoint : RtM Word) (fun token t => token = noCheckpoint ∧ t = s)
      (fun _ _ => False) s :=
    ⟨rfl, rfl⟩
  simp only [hookNewCheckpoint, ends_bind, ends_get]
  by_cases early : s.initDone = false ∨ s.isInRt = true
  · rw [if_pos early]
    exact refused
  rw [if_neg early, ends_ite]
  refine ⟨fun _ => refused, fun _ => ?_⟩
  simp only [ends_bind, ends_get, ends_ite]
  refine ⟨fun _ => refused, fun _ => ⟨fun _ => refused, fun _ => ⟨fun _ => refused, ?_⟩⟩⟩
  have late : s.initDone = true := Bool.of_not_eq_false fun off => early (Or.inl off)
  exact fun listed => absurd (alone.unlisted late) listed

/-- The hook of a restart opens a section and closes it again. -/
theorem hookRestart_passes (alone : LeavesAlone env.kernel env.task s) (restartType : RestartType)
    (callArg : Address)
    : Ends (hookRestart env env.onFail true restartType callArg)
        (fun _ t => Unnoticed env.kernel env.task s t) (fun _ _ => False) s := by
  rw [hookRestart, ends_bind, ends_get, ends_ite]
  refine ⟨fun _ => alone.unnoticed, fun _ => ?_⟩
  have idle : (s.entered env.kernel).inSpeculativeEmulation = false := alone.idle
  have nothing : restart env env.onFail true restartType callArg 0 0 (s.entered env.kernel)
      = .ok 0 (s.entered env.kernel) := by
    rw [restart, run_get_bind, if_pos idle]
    rfl
  rw [ends_bind, enterKspecemRt_disabled alone.disabled, ends_bind, Ends, nothing]
  have disabled : (s.entered env.kernel).log.enabled = false := alone.disabled
  simp only [ends_bind]
  rw [leaveKspecemRt_disabled disabled rfl]
  exact alone.congr rfl rfl (counted_back env.kernel s) rfl rfl

theorem hookInterruptTimer_passes (alone : LeavesAlone env.kernel env.task s)
    {regs frameaddr : Address} (frame : frameaddr ≠ 0)
    : Ends (hookInterruptTimer env env.onFail regs frameaddr) (fun _ t => t = s)
        (fun _ _ => False) s := by
  rw [hookInterruptTimer, ends_bind, ends_get, ends_ite]
  refine ⟨fun _ => rfl, fun _ => ?_⟩
  rw [ends_bind]
  refine ends_ltAssert_pos frame ?_
  rw [ends_bind, ends_get, ends_bind, ends_get, ends_bind]
  refine ends_ltAssert_pos (alone.disabled.trans alone.idle.symm) ?_
  rw [ends_bind, ends_get, alone.idle]
  rfl

theorem hookInterruptException_passes (alone : LeavesAlone env.kernel env.task s)
    {regs frameaddr : Address} (frame : frameaddr ≠ 0) (exceptionType : Int)
    : Ends (hookInterruptException env env.onFail regs frameaddr exceptionType)
        (fun inSpec t => inSpec = 0 ∧ t = s) (fun _ _ => False) s := by
  rw [hookInterruptException, ends_bind, ends_get, ends_ite]
  refine ⟨fun _ => ⟨rfl, rfl⟩, fun _ => ?_⟩
  rw [ends_bind]
  refine ends_ltAssert_pos frame ?_
  rw [ends_bind, ends_get, ends_bind, ends_get, ends_bind]
  refine ends_ltAssert_pos (alone.disabled.trans alone.idle.symm) ?_
  rw [ends_bind, ends_get, alone.idle]
  exact ⟨rfl, rfl⟩

end

-----------------------------------------------------------------------------------------
-- Inserted instructions
-----------------------------------------------------------------------------------------

/-- The select's store clears the flag, which was clear. -/
theorem LeavesAlone.stored (alone : LeavesAlone kernel task s)
    : Unnoticed kernel task s
        { s with mem := storeInt32 s.mem kernel.swapBranchCondition 0 } where
  alone := ⟨alone.idle, alone.disabled, select_flag s.mem _, alone.unlisted⟩
  agree := fun _ outside => (storeInt32_zero ..).trans (if_neg outside)

/-- A clear flag is not one, whatever the bytes behind it are. -/
theorem LeavesAlone.loaded (alone : LeavesAlone kernel task s)
    : (loadInt32 s.mem kernel.swapBranchCondition).setWidth 64 ≠ 1 := by
  intro one
  have set : loadInt32 s.mem kernel.swapBranchCondition = 1 := by bv_omega
  have byte := (loadInt32_eq_one_iff.mp set).1
  rw [alone.clear] at byte
  exact absurd byte (by decide)

variable {Op V : Type}

/-- Where the runtime leaves the task alone, an inserted instruction returns, defines what it
should, and goes unnoticed.
-/
theorem Inserted.run_passes {meaning : Meaning kernel Op V} {values : V} {temps : Temps}
    {site : Site} {pass : Nat} {inst : Inserted Op} (alone : LeavesAlone kernel task s)
    (ready : inst.Ready pass temps)
    : Ends (inst.run meaning values temps task site pass)
        (fun value t => inst.Yields meaning values temps pass value ∧ Unnoticed kernel task s t)
        (fun _ _ => False) s := by
  cases inst with
  | cast | returnAddress | loadRegistersPtr => exact ⟨True.intro, alone.unnoticed⟩
  | frameAddress => exact ⟨site.frameaddress_ne, alone.unnoticed⟩
  | checkCallDepth =>
      rw [Inserted.run, ends_bind, hookCheckCallDepth, ends_bind, ends_get, ends_bind,
        ends_get, ends_ite]
      refine ⟨fun _ => ⟨True.intro, alone.unnoticed⟩, fun _ => ?_⟩
      rw [ends_bind, ends_get, alone.disabled]
      exact ⟨True.intro, alone.unnoticed⟩
  | newCheckpoint =>
      refine (hookNewCheckpoint_passes ⟨kernel, site.frames, task⟩ alone _).imp ?_
        (fun _ _ no => no)
      rintro token t ⟨rfl, rfl⟩
      exact ⟨rfl, alone.unnoticed⟩
  | saveStack =>
      have none : temps ⟨pass, .irqFlags⟩ = noCheckpoint := ready
      rw [Inserted.run, ends_bind, hookSaveStack, if_neg (not_not.mpr none), ends_pure]
      exact ⟨True.intro, alone.unnoticed⟩
  | saveRegisters =>
      have none : temps ⟨pass, .irqFlags⟩ = noCheckpoint := ready
      rw [Inserted.run, ends_bind, none]
      refine saveRegisters_refused.imp ?_ (fun _ _ no => no)
      rintro _ t ⟨cpu, rfl, _⟩
      exact ⟨True.intro, alone.congr rfl rfl rfl rfl rfl⟩
  | leaveRt =>
      have none : temps ⟨pass, .irqFlags⟩ = noCheckpoint := ready
      rw [Inserted.run, ends_bind, hookLeaveRt, if_neg (not_not.mpr none), ends_pure]
      exact ⟨True.intro, alone.unnoticed⟩
  | invertCondition condition op =>
      refine ⟨?_, alone.unnoticed⟩
      cases condition with
      | own => exact congrArg boolWord (Condition.inverted_holds _)
      | temp t =>
          refine congrArg boolWord ?_
          simp only [Operand.holds, bne, Bool.not_not]
  | loadSwapBranchCondition => exact ⟨alone.loaded, alone.unnoticed⟩
  | icmpOne => exact ⟨rfl, alone.unnoticed⟩
  | select condition op => exact ⟨fun unset => if_neg (not_not.mpr unset), alone.unnoticed⟩
  | storeSwapBranchCondition => exact ⟨True.intro, alone.stored⟩
  | restart restartType callArg =>
      rw [Inserted.run, ends_bind]
      exact (hookRestart_passes ⟨kernel, site.frames, task⟩ alone _ _).imp
        (fun _ _ passed => ⟨True.intro, passed⟩) (fun _ _ no => no)
  | store target =>
      rw [Inserted.run, ends_bind, hookStore, ends_bind, ends_get, if_pos alone.disabled]
      exact ⟨True.intro, alone.unnoticed⟩
  | memcpy ptr op =>
      rw [Inserted.run, ends_bind, hookMemcpy, ends_bind, ends_get, if_pos alone.disabled]
      exact ⟨True.intro, alone.unnoticed⟩
  | access ptr size op =>
      rw [Inserted.run, hookAccess, ends_bind, ends_get, if_pos alone.idle]
      exact ⟨rfl, alone.unnoticed⟩
  | interruptTimer =>
      rw [Inserted.run, ends_bind]
      refine (hookInterruptTimer_passes ⟨kernel, site.frames, task⟩ alone ready).imp ?_
        (fun _ _ no => no)
      rintro _ t rfl
      exact ⟨True.intro, alone.unnoticed⟩
  | interruptException exceptionType =>
      rw [Inserted.run, ends_bind]
      refine (hookInterruptException_passes ⟨kernel, site.frames, task⟩ alone ready _).imp
        ?_ (fun _ _ no => no)
      rintro inSpec t ⟨rfl, rfl⟩
      exact ⟨rfl, alone.unnoticed⟩
  | isNull => exact ⟨rfl, alone.unnoticed⟩
  | checkSpecLength bbInstCount =>
      rw [Inserted.run, ends_bind, hookCheckSpecLength, ends_bind, ends_get, alone.idle]
      exact ⟨True.intro, alone.unnoticed⟩

end Kasper.Ir
