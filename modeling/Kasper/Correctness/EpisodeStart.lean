import Kasper.Correctness.CallDepth
import Kasper.Correctness.ReadFaults

/-! Where an episode starts: outside speculation no restart is under way and no failure is
recorded, and the sections of an episode whose counter lies outside the log arrays record
none.
-/

namespace Kasper

open ByteMemory Exits

/-- The word `stop_nmi` and `restart_nmi` save lies outside the log arrays. -/
def Rt.NmiApart (kernel : Kernel) (s : Rt) : Prop :=
  s.log.Outside kernel.nmiCount

theorem Rt.NmiApart.congr {kernel : Kernel} {s t : Rt} (h : s.NmiApart kernel)
    (addrsBase : t.log.addrs.base = s.log.addrs.base)
    (dataBase : t.log.data.base = s.log.data.base)
    : t.NmiApart kernel := by
  rw [Rt.NmiApart, WriteLog.Outside, addrsBase, dataBase]
  exact h

/-- No failure was recorded on the way from `s` to `t`, and the interrupt flag is as before. -/
structure Unfailed (s t : Rt) : Prop where
  specAssert : t.specAssert = s.specAssert
  irqsEnabled : t.irqsEnabled = s.irqsEnabled

section
variable {env : Env} {s : Rt}

/-- A word outside the log arrays is logged without a failure, or the log is full. -/
theorem writeWlAligned_unfailed {w : Address} (speculating : Speculating env.kernel s)
    (outside : s.log.Outside w)
    : Ends (writeWlAligned env env.onFail w) (fun _ t => Unfailed s t) (fun _ _ => True) s := by
  by_cases room : s.log.position < logCapacity
  · refine (writeWlAligned_takes speculating.inv.coherent room outside).imp ?_
      (fun _ _ _ => trivial)
    rintro _ t ⟨_, rfl | rfl⟩
    · exact ⟨rfl, rfl⟩
    · exact ⟨rfl, rfl⟩
  · have allocated := speculating.inv.coherent.allocated
    have full : s.log.position ≥ writelogMaxlen * 2 := Nat.le_of_not_lt room
    simp only [writeWlAligned, ends_bind, ends_get]
    refine ends_ltAssert_pos speculating.inv.coherent.coupled ?_
    refine ends_ltAssert_pos allocated.addrsBase (ends_ltAssert_pos allocated.dataBase ?_)
    rw [if_pos full]
    exact Ends.bind ((restart_flushing (Q := fun _ _ => False) env.handler speculating.inv
      speculating.inSpec (by decide) (by decide) trivial).imp (fun _ _ no => no)
      (fun _ _ _ => trivial)) (fun _ _ no => no.elim)

theorem leaveKspecemNonmiRt_unfailed {line : Nat} {irqFlags : Word} {t : Rt}
    (irqs : t.irqsEnabled = false)
    : Ends (leaveKspecemNonmiRt env.onFail line irqFlags)
        (fun _ v => v.specAssert = t.specAssert ∧ v.irqsEnabled = irqsEnabledIn irqFlags)
        (fun _ _ => True) t := by
  rw [leaveKspecemNonmiRt, ends_bind, ends_get, ends_bind]
  refine ends_ltAssert_pos irqs ?_
  rw [ends_bind, localIrqRestore, ends_modify, unsetRt, ends_modify]
  exact ⟨rfl, rfl⟩

/-- Saving the counter's word records no failure. -/
theorem hookStore_unfailed (speculating : Speculating env.kernel s)
    (apart : s.NmiApart env.kernel)
    : Ends (hookStore env env.onFail env.kernel.nmiCount) (fun _ t => Unfailed s t)
        (fun _ _ => True) s := by
  have aligned : alignDown 3 env.kernel.nmiCount = env.kernel.nmiCount :=
    env.kernel.nmiCount_aligned
  have saves : store env env.onFail env.kernel.nmiCount
      = writeWlAligned env env.onFail env.kernel.nmiCount := by
    simp [store, writeWl, aligned]
  have entered : Speculating env.kernel { s with isInRt := true, irqsEnabled := false } :=
    ⟨(speculating.inv.busy.section_ true false).1, speculating.inSpec⟩
  rw [hookStore, ends_bind, ends_get, if_neg (by simp [speculating.enabled]), ends_bind, ends_get,
    if_neg (by simp [speculating.inv.coherent.initDone]), ends_bind, enterKspecemNonmiRt]
  simp only [setRt, localIrqSave, ends_bind, ends_modify, ends_get, ends_pure]
  rw [saves]
  refine (writeWlAligned_unfailed entered apart).imp ?_ (fun _ _ _ => trivial)
  intro _ t stored
  refine (leaveKspecemNonmiRt_unfailed stored.irqsEnabled).imp ?_ (fun _ _ _ => trivial)
  rintro _ v ⟨specAssert, irqs⟩
  rw [irqsEnabledIn_irqFlags] at irqs
  exact ⟨specAssert.trans stored.specAssert, irqs⟩

theorem countNmi_unfailed (speculating : Speculating env.kernel s)
    (apart : s.NmiApart env.kernel) (delta : Word)
    : Ends (countNmi env env.onFail delta) (fun _ t => Unfailed s t) (fun _ _ => True) s := by
  rw [countNmi]
  refine Ends.bind (hookStore_unfailed speculating apart) ?_
  intro _ t saved
  exact ⟨saved.specAssert, saved.irqsEnabled⟩

/-- Entering a section disables interrupts and records no failure. -/
theorem enterKspecemRt_unfailed (speculating : Speculating env.kernel s)
    (apart : s.NmiApart env.kernel)
    : Ends (enterKspecemRt env env.onFail)
        (fun _ t => t.specAssert = s.specAssert ∧ t.irqsEnabled = false) (fun _ _ => True) s := by
  have entered : Speculating env.kernel { s with isInRt := true, irqsEnabled := false } :=
    ⟨(speculating.inv.busy.section_ true false).1, speculating.inSpec⟩
  simp only [enterKspecemRt, setRt, localIrqSave, stopNmi, ends_bind, ends_modify, ends_get,
    ends_pure]
  exact (countNmi_unfailed entered apart 1).imp
    (fun _ _ counted => ⟨counted.specAssert, counted.irqsEnabled⟩) (fun _ _ _ => trivial)

theorem leaveKspecemRt_unfailed (speculating : Speculating env.kernel s)
    (apart : s.NmiApart env.kernel) (irqs : s.irqsEnabled = false) (line : Nat)
    (irqFlags : Word)
    : Ends (leaveKspecemRt env env.onFail line irqFlags)
        (fun _ t => t.specAssert = s.specAssert) (fun _ _ => True) s := by
  rw [leaveKspecemRt, ends_bind, ends_get, ends_bind]
  refine ends_ltAssert_pos irqs ?_
  refine Ends.bind (countNmi_unfailed speculating apart (-1)) ?_
  intro _ t counted
  rw [localIrqRestore, ends_bind, ends_modify, unsetRt, ends_modify]
  exact counted.specAssert

/-- Outside a restart the counter's word is not saved from within the log arrays. -/
theorem hookStore_apart (speculating : Speculating env.kernel s)
    (fresh : s.isInRestart = false)
    : Ends (hookStore env env.onFail env.kernel.nmiCount)
        (fun _ _ => s.NmiApart env.kernel) (fun _ _ => True) s := by
  have entered : Inv env.kernel (Rider.trivial env.kernel)
      { s with isInRt := true, irqsEnabled := false } :=
    (speculating.inv.busy.section_ true false).1
  have member : env.kernel.nmiCount ∈ savedWords env.kernel.nmiCount :=
    mem_savedWords.mpr (Or.inl env.kernel.nmiCount_aligned.symm)
  rw [hookStore, ends_bind, ends_get, if_neg (by simp [speculating.enabled]), ends_bind, ends_get,
    if_neg (by simp [speculating.inv.coherent.initDone]), ends_bind, enterKspecemNonmiRt]
  simp only [setRt, localIrqSave, ends_bind, ends_modify, ends_get, ends_pure]
  refine (store_keeps env.handler True.intro entered.busy speculating.inSpec).imp ?_
    (fun _ _ _ => trivial)
  rintro _ t ⟨_, admitted⟩
  exact (Ends.trivial _).imp (fun _ _ _ => admitted.outside fresh _ member) (fun _ _ _ => trivial)

theorem leaveKspecemRt_apart (speculating : Speculating env.kernel s)
    (fresh : s.isInRestart = false) (line : Nat) (irqFlags : Word)
    (other
      : ¬SpecAssert.OfStateMachine ⟨"kspecem_interface.c", line, "irqs_disabled()"⟩)
    : Ends (leaveKspecemRt env env.onFail line irqFlags)
        (fun _ _ => s.NmiApart env.kernel) (fun _ _ => True) s := by
  rw [leaveKspecemRt, ends_bind, ends_get]
  refine Ends.bind ((env.handler.ltAssert speculating.inv.busy other).imp
    (fun _ _ outcome => outcome) (fun _ _ _ => trivial)) ?_
  rintro _ t ⟨_, ⟨_, rfl⟩ | ⟨_, _, restarts, _⟩⟩
  · rw [restartNmi, countNmi, ends_bind, ends_bind]
    refine (hookStore_apart speculating fresh).imp ?_ (fun _ _ _ => trivial)
    intro _ u apart
    exact (Ends.trivial _).imp
      (fun _ _ _ => (Ends.trivial _).imp (fun _ _ _ => apart) (fun _ _ _ => trivial))
      (fun _ _ _ => trivial)
  · exact absurd (restarts.symm.trans fresh) (by decide)

end

/-- No restart is under way and no failure recorded. -/
structure Rt.Rested (s : Rt) : Prop where
  isInRestart : s.isInRestart = false
  specAssert : s.specAssert = none

/-- The rider of what the restart variables are outside speculation. -/
def Rider.rested (kernel : Kernel) : Rider kernel where
  holds := fun s => s.inSpeculativeEmulation = false → s.Rested
  rolls := fun _ => True
  landed := Rt.Rested
  resumed := Rt.Rested
  replay := fun _ _ _ => True
  admits := fun _ _ => True
  spares := fun _ => True
  admitsBlock := fun _ => True
  admitsDepth := True
  admitsFrame := fun _ _ => True
  admitsRegisters := fun _ => True
  admitsBug := fun _ => True
  admitsMemory := fun _ _ => True
  readsFrames := False
  ended := fun _ => True
  section_ := fun _ _ _ h idle => ⟨(h idle).1, (h idle).2⟩
  counters := fun _ _ h idle => ⟨(h idle).1, (h idle).2⟩
  metered := fun _ _ h _ _ idle => ⟨(h idle).1, (h idle).2⟩
  failed := fun _ _ _ inSpec _ idle => absurd (inSpec.symm.trans idle) (by decide)
  appended := fun _ _ _ _ h _ _ _ idle => ⟨(h idle).1, (h idle).2⟩
  scratched := fun _ _ _ _ => True.intro
  counted := fun _ _ _ h _ idle => ⟨(h idle).1, (h idle).2⟩
  redepth := fun _ _ h _ _ idle => ⟨(h idle).1, (h idle).2⟩
  checkpointed := fun _ _ _ _ _ inSpec => absurd inSpec (by simp [Rt.checkpointed])
  framed := fun _ _ _ _ h _ idle => ⟨(h idle).1, (h idle).2⟩
  registered := fun _ _ _ h _ idle => ⟨(h idle).1, (h idle).2⟩
  cpu := fun _ _ h idle => ⟨(h idle).1, (h idle).2⟩
  written := fun _ _ h _ idle => ⟨(h idle).1, (h idle).2⟩
  clobbered := fun _ _ _ h _ _ _ idle => ⟨(h idle).1, (h idle).2⟩
  reported := fun _ _ h _ _ _ _ idle => ⟨(h idle).1, (h idle).2⟩
  printed := fun _ _ _ h _ _ _ _ idle => ⟨(h idle).1, (h idle).2⟩
  admits_busy := fun _ _ _ _ _ => True.intro
  admits_flush := fun _ _ _ _ => True.intro
  nested := fun _ _ _ _ inSpec _ _ idle => absurd (inSpec.symm.trans idle) (by decide)
  rolls_of_holds := fun _ _ _ => True.intro
  doomed := fun _ _ _ _ _ _ _ => True.intro
  rolls_written := fun _ _ _ _ _ => True.intro
  starts := fun _ _ => True.intro
  rules := fun s skip _ _ => .vacuous _ skip s
  stopped := fun _ _ _ _ _ _ _ => True.intro
  rolledBack := by
    intro s stats restartType u t _ _ _ _ _ passed landed
    rw [landed.frame]
    exact ⟨rfl, passed⟩
  jumped := fun _ h => ⟨h.1, h.2⟩
  returned := fun _ _ h _ => ⟨h.1, h.2⟩
  ended_holds := fun _ _ => True.intro
  ended_rolls := fun _ _ => True.intro
  ended_landed := fun _ _ => True.intro
  ended_rolled := fun _ _ _ _ _ _ => True.intro
  ended_printed := fun _ _ _ _ _ _ _ _ => True.intro

theorem Rider.rested_lenient (kernel : Kernel)
    : (Rider.rested kernel).Lenient where
  spares := fun _ => True.intro
  frame := fun _ _ => True.intro
  memory := fun _ _ => True.intro
  frames := id

theorem Rider.rested_admitted {kernel : Kernel} {s : Rt} {event : Event}
    (placed : event.action.Placed kernel)
    : event.Admitted kernel (Rider.rested kernel) s :=
  (Rider.rested_lenient kernel).admitted {
    placed
    block := fun _ _ => True.intro
    depth := fun _ => True.intro
    restarts := fun _ _ => True.intro
    registers := fun _ _ => True.intro
    bug := fun _ _ _ => True.intro }

/-- Every reachable machine outside speculation has come out of its restarts. -/
theorem Reached.rested {kernel : Kernel} {m : Machine} (reached : Reached kernel m)
    (running : m.phase = .running) (idle : m.rt.inSpeculativeEmulation = false)
    : m.rt.Rested := by
  obtain ⟨env, heap, switches, mem, cpu, irqsEnabled, s, rfl, fits, booted, run⟩ := reached
  have booted : Booted env.kernel switches s := (commonLateInit_booted fits).of_ok booted
  have start : (Rider.rested env.kernel).holds s :=
    fun _ => ⟨booted.isInRestart, booted.specAssert⟩
  have inv := run.inv (booted.machineInv start)
    (fun _ _ placed _ => Rider.rested_admitted placed) (fun _ _ _ resumed _ => resumed)
  exact (inv.running running).holds idle

section
variable {env : Env} {s : Rt}

/-- Outside speculation a checkpoint is refused, opens an episode, or ends the run. -/
theorem hookNewCheckpoint_opens (coherent : Coherent env.kernel s)
    (idle : s.inSpeculativeEmulation = false) (inInterrupt : Bool)
    : Ends (hookNewCheckpoint env env.onFail inInterrupt)
        (fun token t =>
          token = noCheckpoint ∧ t = s
          ∨ token = irqFlags s.irqsEnabled
            ∧ ∃ stats, t = (s.entered env.kernel).checkpointed env.kernel stats)
        (fun e t => e.Final ∧ ∀ failed ∈ t.asserted, failed ∈ s.asserted ∨ failed.line = 32) s := by
  have disabled : s.log.enabled = false := coherent.coupled.trans idle
  have refused : True ∧ True := ⟨trivial, trivial⟩
  simp only [hookNewCheckpoint, ends_bind, ends_get, ends_ite, ends_pure]
  refine ⟨fun _ => .inl refused, fun _ => ⟨fun _ => .inl refused, fun _ =>
    ⟨fun _ => .inl refused, fun _ => ⟨fun _ => .inl refused, fun _ =>
      ⟨fun _ => .inl refused, fun _ => ⟨fun spec => ?_, fun _ => ?_⟩⟩⟩⟩⟩⟩
  · exact absurd (spec.symm.trans idle) (by decide)
  · rw [enterKspecemRt_disabled disabled]
    refine newCheckpoint_ends env.handler.loud (by exact idle) ?_
      (fun _ _ lost => ⟨lost.1, lost.2.2⟩)
    intro _ stats
    exact ⟨fun none => absurd none (by decide), fun _ => .inr ⟨rfl, stats, rfl⟩⟩

theorem hookNewCheckpoint_idle (coherent : Coherent env.kernel s)
    (idle : s.inSpeculativeEmulation = false) (inInterrupt : Bool)
    : Ends (hookNewCheckpoint env env.onFail inInterrupt)
        (fun token t =>
          token = noCheckpoint ∧ t = s
          ∨ token = irqFlags s.irqsEnabled
            ∧ ∃ stats, t = (s.entered env.kernel).checkpointed env.kernel stats)
        (fun _ _ => True) s :=
  (hookNewCheckpoint_opens coherent idle inInterrupt).imp (fun _ _ taken => taken)
    (fun _ _ _ => trivial)

end

end Kasper
