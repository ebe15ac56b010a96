import Kasper.Correctness.Replay

/-! What `kspecem_new_checkpoint` and `kspecem_restart` can do: the first opens an episode,
the second does nothing, counts a nested return off, or rolls back.
-/

namespace Kasper

open ByteMemory Exits

/-- The state after `kspecem_new_checkpoint` opened an episode. -/
def Rt.checkpointed (kernel : Kernel) (s : Rt) (stats : Statistics) : Rt :=
  { s with
    speculativeInstrCount := 0
    stats
    log := { s.log with position := 0, enabled := true }
    inSpeculativeEmulation := true
    mem :=
      if s.swapBranchEnabled then writeBytes s.mem kernel.swapBranchCondition [1] else s.mem
    specCallDepth := 0
    callDepth := 0 }

/-- The ways `kspecem_new_checkpoint` can end the run: without a stack buffer, or past the
end of a statistics table.
-/
def CheckpointExit (s : Rt) (e : Exit) (t : Rt) : Prop :=
  e.Final
  ∧ t.reports = s.reports
  ∧ ∀ failed ∈ t.asserted, failed ∈ s.asserted ∨ failed.line = 32

/-- Outside speculation a checkpoint opens an episode or ends the run. -/
theorem newCheckpoint_ends {env : Env} {onFail : SpecAssert → RtM Unit} {s : Rt}
    {Q : Word → Rt → Prop} {E : Exit → Rt → Prop} (loud : FailsLoudly onFail)
    (idle : s.inSpeculativeEmulation = false)
    (opened
      : s.stack.stack.base ≠ 0 → ∀ stats, Q 0 (s.checkpointed env.kernel stats))
    (lost : ∀ e t, CheckpointExit s e t → E e t)
    : Ends (newCheckpoint env onFail) Q E s := by
  rw [newCheckpoint, ends_bind, ends_get]
  refine Ends.bind (R := fun _ t => t = s ∧ s.stack.stack.base ≠ 0)
    (ends_ltAssert (fun base => ⟨rfl, base⟩) (fun _ => ?_)) ?_
  · refine (loud _ s idle).imp (fun _ _ no => no.elim) ?_
    rintro e t ⟨exit, rfl⟩
    refine lost _ _ ⟨by rcases exit with rfl | rfl <;> trivial, rfl, fun failed member => ?_⟩
    rcases List.mem_cons.mp member with rfl | older
    · exact Or.inr rfl
    · exact Or.inl older
  rintro _ _ ⟨rfl, base⟩
  rw [ends_bind, ends_get]
  refine Ends.bind (R := fun _ t => t = _) (ends_ltAssert_pos idle rfl) ?_
  rintro _ _ rfl
  rw [ends_bind, ends_modify]
  refine Ends.bind ((addSpecStatistics_stats _ _ _ _ _ _ (OnlyStats.refl _)).imp
    (fun _ _ kept => kept) ?_) ?_
  · rintro e t ⟨⟨table, _, rfl⟩, frame⟩
    refine lost _ _ ⟨trivial, ?_, fun failed member => Or.inl ?_⟩
    · rw [frame]
    · rw [frame] at member
      exact member
  · intro _ t frame
    rw [frame]
    have opened := opened base t.stats
    simp only [Rt.checkpointed] at opened
    simp only [setSwapBranchCondition, ends_bind, ends_modify, ends_get, ends_pure, ends_ite]
    refine ⟨fun enabled => ?_, fun disabled => ?_⟩
    · rw [if_pos enabled] at opened
      exact opened
    · rw [if_neg disabled] at opened
      exact opened

/-- The restart types whose rollback prints the pending reports. -/
def RestartType.Flushes (restartType : RestartType) : Prop :=
  restartType ≠ .restartTimer ∧ restartType ≠ .restartException

instance (restartType : RestartType) : Decidable restartType.Flushes :=
  inferInstanceAs (Decidable (_ ∧ _))

/-- `t` is the state `v` of a finished rollback after its reports were dealt with. -/
structure Landed (restartType : RestartType) (v t : Rt) : Prop where
  frame : OnlyReports { v with isInRestart := false } t
  flushed
    : restartType.Flushes
      → Flushed (v.registers .rip) restartType.code v.reports t.reports
  pending : ¬restartType.Flushes → t.reports = v.reports

/-- What a finished rollback has printed is a part of one flush. -/
theorem Landed.part {restartType : RestartType} {v t : Rt} (h : Landed restartType v t)
    : PartFlushed (v.registers .rip) restartType.code v.reports t.reports.printed := by
  by_cases flushes : restartType.Flushes
  · exact (h.flushed flushes).part
  · rw [h.pending flushes]
    exact .none

/-- The state after the registers were loaded from `kspecem_registers`. -/
def Rt.resumed (kernel : Kernel) (s : Rt) : Rt :=
  let cpu := asmRestoreRegisters s.registers ((s.cpu.put .rdi kernel.registers).put .rsi 1)
  { s with isInRt := false, cpu, irqsEnabled := irqsEnabledIn (cpu .eflags) }

section
variable {env : Env} {onFail : SpecAssert → RtM Unit} {E : Exit → Rt → Prop}

/-- A finished rollback panics on a recorded failure, jumps back to the checkpoint when it
is direct, and returns 0 otherwise.
-/
theorem finishRestart_ends {direct : Bool} {restartType : RestartType} {v : Rt}
    {Q : Int → Rt → Prop} (loud : FailsLoudly onFail) (idle : v.inSpeculativeEmulation = false)
    (stopped
      : ∀ e t,
          FlushExit (v.registers .rip) restartType.code { v with isInRestart := false } e t
          → E e t)
    (returned
      : direct = false → v.specAssert = none → ∀ t, Landed restartType v t → Q 0 t)
    (resumed
      : direct = true
        → v.specAssert = none
        → ∀ t, Landed restartType v t → E .resumed (t.resumed env.kernel))
    : Ends (finishRestart env onFail direct restartType) Q E v := by
  have leave (t : Rt) (landed : Landed restartType v t)
      : Ends (leaveRestart env direct) Q E t := by
    rw [leaveRestart, ends_bind, ends_get]
    have failures : t.specAssert = v.specAssert := by rw [landed.frame]
    cases failed : t.specAssert with
    | some failed => exact stopped _ _ (landed.frame.exit trivial landed.part)
    | none =>
        have none := failures.symm.trans failed
        cases direct with
        | false => exact returned rfl none t landed
        | true => exact resumed rfl none t landed
  rw [finishRestart, ends_bind, ends_modify]
  have start : OnlyReports { v with isInRestart := false } { v with isInRestart := false } := rfl
  rw [ends_ite]
  refine ⟨fun flushes => ?_, fun stays => ?_⟩
  · have idle : ({ v with isInRestart := false } : Rt).inSpeculativeEmulation = false := idle
    refine Ends.bind ((reportPrintAndClear_flushes loud idle restartType.code rfl).imp
      (fun _ _ flushed => flushed) stopped) ?_
    rintro _ t ⟨frame, flushed⟩
    exact leave t ⟨frame, fun _ => flushed, fun stays => absurd flushes stays⟩
  · exact leave _ ⟨start, fun flushes => absurd flushes stays, fun _ => rfl⟩

/-- A `RETURN` restart that only counts a frame off. -/
def NestedReturn (restartType : RestartType) (s : Rt) : Prop :=
  s.specAssert = none ∧ restartType = .restartReturn ∧ s.specCallDepth > 0

instance (restartType : RestartType) (s : Rt) : Decidable (NestedReturn restartType s) :=
  inferInstanceAs (Decidable (_ ∧ _))

/-- The three cases of a restart. -/
theorem restart_ends {direct : Bool} {restartType : RestartType}
    {callArg frameaddr regs : Address} {s : Rt} {Q : Int → Rt → Prop}
    (idle : s.inSpeculativeEmulation = false → Q 0 s)
    (lost
      : s.inSpeculativeEmulation = true
        → ∀ e t, StatsExit { s with isInRestart := true } e t → E e t)
    (nested
      : s.inSpeculativeEmulation = true
        → NestedReturn restartType s
        → ∀ stats,
            Q 0 { s with isInRestart := true, stats, specCallDepth := s.specCallDepth - 1 })
    (rolled
      : s.inSpeculativeEmulation = true
        → ¬NestedReturn restartType s
        → ∀ stats,
            Ends (rollBack env onFail direct restartType frameaddr regs) Q E
              { s with isInRestart := true, stats })
    : Ends (restart env onFail direct restartType callArg frameaddr regs) Q E s := by
  rw [restart, ends_bind, ends_get, ends_ite]
  refine ⟨idle, fun spec => ?_⟩
  have spec := Bool.of_not_eq_false spec
  have start := OnlyStats.refl { s with isInRestart := true }
  have roll (t : Rt) (frame : OnlyStats { s with isInRestart := true } t)
      (rolls : ¬NestedReturn restartType s)
      : Ends (rollBack env onFail direct restartType frameaddr regs) Q E t := by
    rw [frame]
    exact rolled spec rolls _
  rw [ends_bind, ends_modify, ends_bind, ends_get]
  by_cases failed : s.specAssert = none
  · rw [if_pos failed, ends_bind, ends_get]
    by_cases returns : restartType = .restartReturn ∧ s.specCallDepth > 0
    · have nests : NestedReturn restartType s := ⟨failed, returns⟩
      rw [if_pos returns]
      refine Ends.bind ((addSpecStatistics_stats _ _ _ _ _ _ start).imp (fun _ _ kept => kept)
        (lost spec)) (fun _ t frame => ?_)
      rw [ends_bind, ends_modify, ends_pure, frame]
      exact nested spec nests _
    -- a restart at its own frame: counted in the statistics, then rolled back
    · have rolls : ¬NestedReturn restartType s := fun nests => returns nests.2
      rw [if_neg returns]
      refine Ends.bind ((addSpecStatistics_stats _ _ _ _ _ _ start).imp (fun _ _ kept => kept)
        (lost spec)) (fun _ t frame => ?_)
      have counted (arg : Address) := (addRestartToStatistics_stats restartType arg t frame).imp
        (fun _ _ kept => kept) (lost spec)
      rw [ends_ite]
      exact ⟨fun _ => (counted _).bind (fun _ u frame => roll u frame rolls),
        fun _ => (counted _).bind (fun _ u frame => roll u frame rolls)⟩
  -- a recorded failure rolls back at once, and is not counted
  · rw [if_neg failed]
    exact roll _ start (fun nested => failed nested.1)

end

end Kasper
