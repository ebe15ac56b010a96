import Kasper.Correctness.Coherence

/-! Properties that ride along with the speculation variables.
A `Rider` states how a property survives each kind of step; the modules on the runtime's
functions use these rules only, so one traversal of the code serves every property.
-/

namespace Kasper

open ByteMemory Exits

/-- A property of states with the rules by which it survives the runtime's steps. It
`holds` between steps; a state it `rolls` can be rolled back, also out of an interrupted
restart; it has `landed` after a rollback and `resumed` at the checkpoint. `replay` is what
it needs of memory while the log is replayed. After a failure was recorded the episode is
`doomed` to end in a panic. Where the run ends for good, `ended` says what was printed. The
other predicates limit the arguments of hooks and interrupts.
-/
structure Rider (kernel : Kernel) where
  holds : Rt → Prop
  rolls : Rt → Prop
  landed : Rt → Prop
  resumed : Rt → Prop
  replay : Rt → Nat → Memory → Prop
  admits : RestartType → Rt → Prop
  spares : (Address → Bool) → Prop
  admitsBlock : BitVec 32 → Prop
  admitsDepth : Prop
  admitsFrame : Address → Address → Prop
  admitsRegisters : Rt → Prop
  admitsBug : Bug → Prop
  admitsMemory : Rt → Memory → Prop
  readsFrames : Prop
  ended : List Printed → Prop
  section_ : ∀ s isInRt irqsEnabled, holds s → holds { s with isInRt, irqsEnabled }
  counters : ∀ s stats, holds s → holds { s with stats }
  metered
    : ∀ s bbInstCount,
        holds s
        → s.inSpeculativeEmulation = true
        → admitsBlock bbInstCount
        → holds { s with speculativeInstrCount := s.speculativeInstrCount + bbInstCount }
  failed
    : ∀ s failed,
        holds s
        → s.inSpeculativeEmulation = true
        → s.isInRestart = true
        → holds (s.recordFailure failed)
  appended
    : ∀ s w returnAddress,
        Coherent kernel s
        → holds s
        → s.inSpeculativeEmulation = true
        → wordOf w = w
        → s.log.position < logCapacity
        → holds (s.appended w returnAddress)
  scratched : ∀ s w, holds s → s.inSpeculativeEmulation = true → rolls (s.scratched w)
  counted
    : ∀ s delta,
        Coherent kernel s
        → holds s
        → s.Saved kernel kernel.nmiCount
        → holds (s.counted kernel delta)
  redepth
    : ∀ s specCallDepth,
        holds s
        → s.inSpeculativeEmulation = true
        → admitsDepth
        → holds { s with specCallDepth }
  checkpointed
    : ∀ s stats,
        Coherent kernel s
        → holds s
        → s.inSpeculativeEmulation = false
        → holds (s.checkpointed kernel stats)
  framed
    : ∀ s frameaddress rsp cell,
        holds s → admitsFrame frameaddress rsp → holds (s.framed frameaddress rsp cell)
  registered
    : ∀ s registers cpu, holds s → admitsRegisters s → holds { s with registers, cpu }
  cpu : ∀ s cpu, holds s → holds { s with cpu }
  written
    : ∀ s mem, holds s → admitsMemory s mem → holds { s with mem }
  clobbered
    : ∀ s bug reports,
        holds s
        → admitsBug bug
        → s.reports.nextBugIndex < s.reports.bugs.size
        → s.reports.bugs.cell s.reports.nextBugIndex ≠ Bug.zero
        → holds { s with reports }
  reported
    : ∀ s bug,
        holds s
        → s.inSpeculativeEmulation = true
        → admitsBug bug
        → bug.inSpec = true
        → s.reports.nextBugIndex < s.reports.bugs.size
        → holds { s with reports := s.reports.filled bug }
  printed
    : ∀ s bug reports,
        holds s
        → s.inSpeculativeEmulation = false
        → admitsBug bug
        → bug.inSpec = false
        → Flushed 0 (-1) (s.reports.filled bug) reports
        → holds { s with reports }
  admits_busy : ∀ s t restartType, Busy s t → admits restartType s → admits restartType t
  admits_flush
    : ∀ restartType s,
        restartType.Flushes → restartType ≠ .restartReturn → admits restartType s
  nested
    : ∀ s stats restartType,
        holds s
        → s.inSpeculativeEmulation = true
        → admits restartType s
        → NestedReturn restartType s
        → holds { s.restarting stats with specCallDepth := s.specCallDepth - 1 }
  rolls_of_holds : ∀ s, holds s → s.inSpeculativeEmulation = true → rolls s
  doomed
    : ∀ s t,
        rolls s
        → t.inSpeculativeEmulation = true
        → t.specAssert ≠ none
        → t.reports = s.reports
        → t.registers = s.registers
        → rolls t
  rolls_written
    : ∀ s mem irqsEnabled,
        rolls s → admitsMemory s mem → rolls { s with mem, irqsEnabled }
  starts : ∀ s, rolls s → replay s s.log.position s.mem
  rules : ∀ s skip, rolls s → spares skip → ReplayRules kernel skip s.log (replay s)
  stopped
    : ∀ s stats k u,
        rolls s → k ≤ s.log.position → Replaying (replay s) (s.restarting stats) k u → rolls u
  rolledBack
    : ∀ s stats restartType u t,
        Coherent kernel s
        → rolls s
        → s.inSpeculativeEmulation = true
        → admits restartType s
        → Replaying (replay s) (s.restarting stats) 0 u
        → u.specAssert = none
        → Landed restartType (u.discarded kernel) t
        → landed t
  jumped : ∀ t, landed t → resumed (t.resumed kernel)
  returned
    : ∀ t (cpu : PtRegs),
        landed t
        → (readsFrames → irqsEnabledIn (cpu .eflags) = irqsEnabledIn (t.registers .eflags))
        → resumed { t with cpu, irqsEnabled := irqsEnabledIn (cpu .eflags) }
  ended_holds : ∀ s, holds s → ended s.reports.printed
  ended_rolls : ∀ s, rolls s → ended s.reports.printed
  ended_landed : ∀ s, landed s → ended s.reports.printed
  ended_rolled
    : ∀ s restartType printed,
        rolls s
        → s.inSpeculativeEmulation = true
        → PartFlushed (s.registers .rip) restartType s.reports printed
        → ended printed
  ended_printed
    : ∀ s bug printed,
        holds s
        → s.inSpeculativeEmulation = false
        → admitsBug bug
        → bug.inSpec = false
        → PartFlushed 0 (-1) (s.reports.filled bug) printed
        → ended printed

variable {kernel : Kernel} {X : Rider kernel}

/-- What holds between two steps of the runtime. -/
structure Inv (kernel : Kernel) (X : Rider kernel) (s : Rt) : Prop where
  coherent : Coherent kernel s
  consistent : s.Consistent
  holds : X.holds s

/-- An episode that an interrupt handler can roll back. -/
structure Rolling (kernel : Kernel) (X : Rider kernel) (s : Rt) : Prop where
  coherent : Coherent kernel s
  consistent : s.Consistent
  inSpec : s.inSpeculativeEmulation = true
  rolls : X.rolls s

/-- What holds where control leaves a hook: a jump back ends the episode, a fault leaves it
to the exception handler, and the other exits end the run.
-/
def InvExit (kernel : Kernel) (X : Rider kernel) (e : Exit) (t : Rt) : Prop :=
  t.Consistent
  ∧ (e = .resumed
      → Coherent kernel t ∧ t.inSpeculativeEmulation = false ∧ X.resumed t)
  ∧ (∀ isWrite,
      e = .fault isWrite
      → Coherent kernel t
        ∧ (t.inSpeculativeEmulation = true → X.rolls t)
        ∧ (t.inSpeculativeEmulation = false → X.holds t))
  ∧ (e.Final → X.ended t.reports.printed)

/-- `Inv` in a state that is `u` after logging and section steps. -/
def InvBusy (kernel : Kernel) (X : Rider kernel) (u t : Rt) : Prop :=
  Inv kernel X t ∧ Busy u t

theorem InvExit.final {e : Exit} {t : Rt} (final : e.Final) (consistent : t.Consistent)
    (ended : X.ended t.reports.printed)
    : InvExit kernel X e t := by
  refine ⟨consistent, fun resumed => ?_, fun isWrite fault => ?_, fun _ => ended⟩
  · rw [resumed] at final
    exact final.elim
  · rw [fault] at final
    exact final.elim

theorem InvExit.fault {t : Rt} (rolling : Rolling kernel X t) (isWrite : Bool)
    : InvExit kernel X (.fault isWrite) t := by
  refine ⟨rolling.consistent, by simp, fun _ _ => ⟨rolling.coherent, ?_, ?_⟩,
    fun final => final.elim⟩
  · exact fun _ => rolling.rolls
  · exact fun idle => absurd (rolling.inSpec.symm.trans idle) (by decide)

theorem Inv.rolling {s : Rt} (h : Inv kernel X s) (inSpec : s.inSpeculativeEmulation = true)
    : Rolling kernel X s :=
  ⟨h.coherent, h.consistent, inSpec, X.rolls_of_holds s h.holds inSpec⟩

theorem Inv.busy {s : Rt} (h : Inv kernel X s) : InvBusy kernel X s s :=
  ⟨h, .refl s⟩

/-- Recording a failure inside a restart keeps the invariant. -/
theorem Inv.recordFailure {s : Rt} (h : Inv kernel X s)
    (inSpec : s.inSpeculativeEmulation = true) (inRestart : s.isInRestart = true)
    {failed : SpecAssert} (other : ¬failed.OfStateMachine)
    : Inv kernel X (s.recordFailure failed) where
  coherent := h.coherent.congr rfl rfl rfl rfl rfl (fun _ clear => clear)
  consistent := h.consistent.cons other rfl
  holds := X.failed s failed h.holds inSpec inRestart

theorem Rolling.recordFailure {s : Rt} (h : Rolling kernel X s) {failed : SpecAssert}
    (other : ¬failed.OfStateMachine)
    : Rolling kernel X (s.recordFailure failed) where
  coherent := h.coherent.congr rfl rfl rfl rfl rfl (fun _ clear => clear)
  consistent := h.consistent.cons other rfl
  inSpec := h.inSpec
  rolls := X.doomed s _ h.rolls h.inSpec (by simp [Rt.recordFailure]) rfl rfl

namespace InvBusy

variable {u t : Rt}

theorem section_ (h : InvBusy kernel X u t) (isInRt irqsEnabled : Bool)
    : InvBusy kernel X u { t with isInRt, irqsEnabled } where
  left := {
    coherent := h.1.coherent.congr rfl rfl rfl rfl rfl (fun _ clear => clear)
    consistent := h.1.consistent
    holds := X.section_ t isInRt irqsEnabled h.1.holds
  }
  right := h.2.trans ⟨rfl, id, fun _ => id⟩

theorem trans {s : Rt} (first : Busy s u) (h : InvBusy kernel X u t)
    : InvBusy kernel X s t :=
  ⟨h.1, first.trans h.2⟩

end InvBusy

/-- Where control leaves the episode `s` with a failure recorded: never back to its
checkpoint, a fault leaves it to the exception handler, and the other exits end the run.
-/
structure DoomedExit (kernel : Kernel) (s : Rt) (e : Exit) (t : Rt) : Prop where
  consistent : t.Consistent
  away : e ≠ .resumed
  fault
    : ∀ isWrite,
        e = .fault isWrite
        → Coherent kernel t
          ∧ t.inSpeculativeEmulation = true
          ∧ t.specAssert ≠ none
          ∧ t.reports = s.reports
          ∧ t.registers = s.registers
  ended
    : e.Final
      → ∃ restartType,
          PartFlushed (s.registers .rip) restartType s.reports t.reports.printed

theorem DoomedExit.invExit {s : Rt} {e : Exit} {t : Rt} (h : DoomedExit kernel s e t)
    (inSpec : s.inSpeculativeEmulation = true) (rolls : X.rolls s)
    : InvExit kernel X e t := by
  refine ⟨h.consistent, fun resumed => absurd resumed h.away, fun isWrite exit => ?_, ?_⟩
  · obtain ⟨coherent, speculates, failed, reports, registers⟩ := h.fault isWrite exit
    refine ⟨coherent, fun _ => X.doomed s t rolls speculates failed reports registers, ?_⟩
    exact fun idle => absurd (speculates.symm.trans idle) (by decide)
  · intro final
    obtain ⟨restartType, part⟩ := h.ended final
    exact X.ended_rolled s restartType _ rolls inSpec part

/-- What the functions need of the handler of failed assertions: quiet inside
`kspecem_restart`, loud outside speculation, and a rollback that never returns otherwise.
-/
structure Handler (kernel : Kernel) (onFail : SpecAssert → RtM Unit) : Prop where
  quiet : FailsQuietly True onFail
  loud : FailsLoudly onFail
  rollsBack
    : ∀ failed s,
        Coherent kernel s
        → s.Consistent
        → ¬failed.OfStateMachine
        → s.inSpeculativeEmulation = true
        → s.isInRestart = false
        → Ends (onFail failed) (fun _ _ => False) (DoomedExit kernel s) s

variable {onFail : SpecAssert → RtM Unit}

/-- A loud failure ends the run. -/
theorem FailsLoudly.invExit {s : Rt} (loud : FailsLoudly onFail)
    (consistent : s.Consistent) (idle : s.inSpeculativeEmulation = false)
    (ended : X.ended s.reports.printed) {failed : SpecAssert}
    (other : ¬failed.OfStateMachine) {Q : Unit → Rt → Prop}
    : Ends (onFail failed) Q (InvExit kernel X) s := by
  refine (loud failed s idle).imp (fun _ _ no => no.elim) ?_
  rintro e t ⟨exit, rfl⟩
  have final : e.Final := by
    rcases exit with rfl | rfl <;> trivial
  exact InvExit.final final (consistent.cons other rfl) ended

/-- The state `t` after a failure in `s` that was gone past. -/
def Ignored (failed : SpecAssert) (s t : Rt) : Prop :=
  s.inSpeculativeEmulation = true ∧ s.isInRestart = true ∧ t = s.recordFailure failed

/-- A failure returns only in speculation, where a stale restart flag makes it quiet. -/
theorem Handler.fails {t : Rt} (handler : Handler kernel onFail)
    (coherent : Coherent kernel t) (consistent : t.Consistent)
    (rolls : t.inSpeculativeEmulation = true → X.rolls t)
    (ended : X.ended t.reports.printed) {failed : SpecAssert}
    (other : ¬failed.OfStateMachine)
    : Ends (onFail failed) (fun _ v => Ignored failed t v) (InvExit kernel X) t := by
  cases spec : t.inSpeculativeEmulation with
  | false => exact handler.loud.invExit consistent spec ended other
  | true =>
      cases restart : t.isInRestart with
      | true =>
          refine (handler.quiet _ t spec restart).imp
            (fun _ _ same => ⟨spec, restart, same⟩) ?_
          rintro e v ⟨_, rfl, rfl⟩
          exact InvExit.final trivial (consistent.cons other rfl) ended
      | false =>
          exact (handler.rollsBack _ t coherent consistent other spec restart).imp
            (fun _ _ no => no.elim) (fun _ _ exit => exit.invExit spec (rolls spec))

/-- After an assertion it holds, or its failure was gone past. -/
theorem Handler.ltAssert {u t : Rt} (handler : Handler kernel onFail)
    (inv : InvBusy kernel X u t) {holds : Prop} [Decidable holds] {file condition : String}
    {line : Nat} (other : ¬SpecAssert.OfStateMachine { file, line, condition })
    : Ends (ltAssert onFail holds file line condition)
        (fun _ v =>
          InvBusy kernel X u v
          ∧ (holds ∧ v = t ∨ ¬holds ∧ Ignored { file, line, condition } t v))
        (InvExit kernel X) t := by
  refine ends_ltAssert (fun pass => ⟨inv, Or.inl ⟨pass, rfl⟩⟩) (fun fails => ?_)
  refine (handler.fails inv.1.coherent inv.1.consistent (X.rolls_of_holds t inv.1.holds)
    (X.ended_holds t inv.1.holds) other).imp ?_ (fun _ _ exit => exit)
  rintro _ v ⟨spec, restart, rfl⟩
  exact ⟨⟨inv.1.recordFailure spec restart other, inv.2.trans (.recordFailure t _)⟩,
    Or.inr ⟨fails, spec, restart, rfl⟩⟩

/-- An assertion whose outcome no later step depends on. -/
theorem Handler.keeps_ltAssert {u : Rt} (handler : Handler kernel onFail) {holds : Prop}
    [Decidable holds] {file condition : String} {line : Nat}
    (other : ¬SpecAssert.OfStateMachine { file, line, condition })
    : Keeps (InvBusy kernel X u) (InvExit kernel X)
        (Kasper.ltAssert onFail holds file line condition) :=
  fun _ inv => (handler.ltAssert inv other).imp (fun _ _ kept => kept.1) (fun _ _ exit => exit)

/-- An episode with a failure recorded, and reports and registers as given. -/
structure Rt.Doomed (reports : Reports) (registers : PtRegs) (s : Rt) : Prop where
  failed : s.specAssert ≠ none
  inSpec : s.inSpeculativeEmulation = true
  reports : s.reports = reports
  registers : s.registers = registers

theorem Rt.Doomed.congr {reports : Reports} {registers : PtRegs} {s t : Rt}
    (h : s.Doomed reports registers) (failed : t.specAssert = s.specAssert)
    (inSpec : t.inSpeculativeEmulation = s.inSpeculativeEmulation)
    (sameReports : t.reports = s.reports) (sameRegisters : t.registers = s.registers)
    : t.Doomed reports registers where
  failed := fun passed => h.failed (failed.symm.trans passed)
  inSpec := inSpec.trans h.inSpec
  reports := sameReports.trans h.reports
  registers := sameRegisters.trans h.registers

theorem Rt.Doomed.not_idle {reports : Reports} {registers : PtRegs} {s : Rt}
    (h : s.Doomed reports registers) (idle : s.inSpeculativeEmulation = false) : False :=
  absurd (h.inSpec.symm.trans idle) (by decide)

theorem Rt.Doomed.part {reports : Reports} {registers : PtRegs} {s : Rt}
    (h : s.Doomed reports registers)
    : ∃ restartType, PartFlushed (registers .rip) restartType reports s.reports.printed :=
  ⟨0, h.reports ▸ .none⟩

/-- The rider of episodes that can no longer get back to their checkpoint. -/
def Rider.ofDoomed (kernel : Kernel) (reports : Reports) (registers : PtRegs)
    : Rider kernel where
  holds := Rt.Doomed reports registers
  rolls := Rt.Doomed reports registers
  landed := fun _ => False
  resumed := fun _ => False
  replay := fun _ _ _ => True
  admits := fun _ _ => True
  spares := fun _ => True
  admitsBlock := fun _ => True
  admitsDepth := True
  admitsFrame := fun _ _ => True
  admitsRegisters := fun _ => False
  admitsBug := fun _ => False
  admitsMemory := fun _ _ => True
  readsFrames := False
  ended := fun printed =>
    ∃ restartType, PartFlushed (registers .rip) restartType reports printed
  section_ := fun _ _ _ doomed => doomed.congr rfl rfl rfl rfl
  counters := fun _ _ doomed => doomed.congr rfl rfl rfl rfl
  metered := fun _ _ doomed _ _ => doomed.congr rfl rfl rfl rfl
  failed := fun _ _ doomed _ _ =>
    ⟨by simp [Rt.recordFailure], doomed.inSpec, doomed.reports, doomed.registers⟩
  appended := fun _ _ _ _ doomed _ _ _ => doomed.congr rfl rfl rfl rfl
  scratched := fun _ _ doomed _ => doomed.congr rfl rfl rfl rfl
  counted := fun _ _ _ doomed _ => doomed.congr rfl rfl rfl rfl
  redepth := fun _ _ doomed _ _ => doomed.congr rfl rfl rfl rfl
  checkpointed := fun _ _ _ doomed idle => (doomed.not_idle idle).elim
  framed := fun _ _ _ _ doomed _ => doomed.congr rfl rfl rfl rfl
  registered := fun _ _ _ _ no => no.elim
  cpu := fun _ _ doomed => doomed.congr rfl rfl rfl rfl
  written := fun _ _ doomed _ => doomed.congr rfl rfl rfl rfl
  clobbered := fun _ _ _ _ no _ _ => no.elim
  reported := fun _ _ _ _ no _ _ => no.elim
  printed := fun _ _ _ _ _ no _ _ => no.elim
  admits_busy := fun _ _ _ _ _ => True.intro
  admits_flush := fun _ _ _ _ => True.intro
  nested := fun _ _ _ doomed _ _ _ => doomed.congr rfl rfl rfl rfl
  rolls_of_holds := fun _ doomed _ => doomed
  doomed := fun _ _ doomed inSpec failed sameReports sameRegisters =>
    ⟨failed, inSpec, sameReports.trans doomed.reports, sameRegisters.trans doomed.registers⟩
  rolls_written := fun _ _ _ doomed _ => doomed.congr rfl rfl rfl rfl
  starts := fun _ _ => True.intro
  rules := fun s skip _ _ => .vacuous _ skip s
  stopped := by
    intro s stats k u doomed _ replaying
    have registers : u.registers = s.registers := by
      rw [replaying.frame]
      rfl
    refine ⟨fun passed => doomed.failed (replaying.kept passed).1, ?_, ?_, ?_⟩
    · exact replaying.inSpec.trans doomed.inSpec
    · exact replaying.reports.trans doomed.reports
    · exact registers.trans doomed.registers
  rolledBack := fun _ _ _ _ _ _ doomed _ _ replayed passed _ =>
    doomed.failed (replayed.kept passed).1
  jumped := fun _ landed => landed
  returned := fun _ _ landed _ => landed
  ended_holds := fun _ doomed => doomed.part
  ended_rolls := fun _ doomed => doomed.part
  ended_landed := fun _ landed => landed.elim
  ended_rolled := fun _ restartType _ doomed _ part =>
    ⟨restartType, doomed.registers ▸ doomed.reports ▸ part⟩
  ended_printed := fun _ _ _ _ _ no _ _ => no.elim

theorem InvExit.doomed {s : Rt} {e : Exit} {t : Rt}
    (h : InvExit kernel (Rider.ofDoomed kernel s.reports s.registers) e t)
    : DoomedExit kernel s e t := by
  obtain ⟨consistent, resumed, fault, ended⟩ := h
  refine ⟨consistent, fun back => (resumed back).2.2, fun isWrite exit => ?_, ended⟩
  obtain ⟨coherent, rolls, holds⟩ := fault isWrite exit
  cases spec : t.inSpeculativeEmulation with
  | true =>
      have doomed := rolls spec
      exact ⟨coherent, rfl, doomed.failed, doomed.reports, doomed.registers⟩
  | false => exact ((holds spec).not_idle spec).elim

end Kasper
