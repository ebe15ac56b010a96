import Kasper.Correctness.Sections

/-! The runtime's hooks keep every rider. -/

namespace Kasper

open ByteMemory Exits

section
variable {env : Env} {X : Rider env.kernel} {onFail : SpecAssert → RtM Unit} {s : Rt}

theorem Inv.counters (h : Inv env.kernel X s) (stats : Statistics)
    : Inv env.kernel X { s with stats } where
  coherent := h.coherent.congr rfl rfl rfl rfl rfl (fun _ clear => clear)
  consistent := h.consistent.congr rfl
  holds := X.counters s stats h.holds

/-- Keeping statistics keeps the invariant. -/
theorem addSpecStatistics_keeps (funcType : FuncType) (arg1 : Word) (arg2 : Int)
    (arg3 : Word) (returnAddr : Address)
    : Keeps (Inv env.kernel X) (InvExit env.kernel X)
        (addSpecStatistics onFail funcType arg1 arg2 arg3 returnAddr) := by
  intro s inv
  refine (addSpecStatistics_stats funcType arg1 arg2 arg3 returnAddr s (.refl s)).imp ?_ ?_
  · intro _ t frame
    rw [frame]
    exact inv.counters t.stats
  · rintro e t ⟨⟨table, _, rfl⟩, frame⟩
    refine InvExit.final trivial (inv.consistent.congr ?_) ?_
    · rw [frame]
    · rw [frame]
      exact X.ended_holds s inv.holds

/-- A section that restarts in speculation never gets past its restart. -/
theorem restartSection_ends {restartType : RestartType} {Q : Word → Int → Rt → Prop}
    (handler : Handler env.kernel onFail) (spares : X.spares (restartSkips env true 0 0))
    (inv : Inv env.kernel X s) (inSpec : s.inSpeculativeEmulation = true)
    (flushes : restartType.Flushes) (other : restartType ≠ .restartReturn)
    : Ends (enterKspecemRt env onFail)
        (fun irqFlags t =>
          Ends (restart env onFail true restartType 0 0 0) (Q irqFlags) (InvExit env.kernel X)
            t)
        (InvExit env.kernel X) s := by
  refine (enterKspecemRt_keeps handler spares s inv.busy).imp ?_ (fun _ _ exit => exit)
  intro irqFlags t entered
  exact restart_flushing handler entered.1 (entered.2.inSpec.trans inSpec) flushes other spares

theorem hookCheckSpecLength_keeps (handler : Handler env.kernel onFail)
    (spares : X.spares (restartSkips env true 0 0)) {bbInstCount : BitVec 32}
    (admitted : X.admitsBlock bbInstCount) (inv : Inv env.kernel X s)
    : Ends (hookCheckSpecLength env onFail bbInstCount) (fun _ t => Inv env.kernel X t)
        (InvExit env.kernel X) s := by
  simp only [hookCheckSpecLength, ends_bind, ends_get, ends_ite, ends_pure, ends_modify]
  refine ⟨fun inSpec => ⟨fun _ => inv, fun _ => ⟨fun _ => inv, fun _ => ⟨fun _ => inv, ?_⟩⟩⟩,
    fun _ => inv⟩
  have metered
      : Inv env.kernel X
          { s with speculativeInstrCount := s.speculativeInstrCount + bbInstCount } := {
    coherent := inv.coherent.congr rfl rfl rfl rfl rfl (fun _ clear => clear)
    consistent := inv.consistent.congr rfl
    holds := X.metered s bbInstCount inv.holds inSpec admitted
  }
  refine fun _ => ⟨fun _ => ?_, fun _ => metered⟩
  exact restartSection_ends handler spares metered inSpec (by decide) (by decide)

/-- Printing a table reads it. -/
theorem readRows_keeps {α : Type} {name : TableId} {table : Table α} {left i : Nat}
    (inv : InvBusy env.kernel X s s)
    : Ends (readRows name table left i) (fun _ t => InvBusy env.kernel X s t)
        (InvExit env.kernel X) s := by
  induction left generalizing i with
  | zero => exact inv
  | succ left ih =>
      rw [readRows, ends_bind, ends_fetch]
      exact ⟨fun _ => ih,
        fun _ => InvExit.final trivial inv.1.consistent (X.ended_holds s inv.1.holds)⟩

theorem hookPanicInfo_keeps : Keeps (Inv env.kernel X) (InvExit env.kernel X) hookPanicInfo :=
  fun _ inv => (readRows_keeps inv.busy).imp (fun _ _ kept => kept.1) (fun _ _ exit => exit)

theorem hookPrintRestartStatistics_keeps (handler : Handler env.kernel onFail)
    (spares : X.spares (restartSkips env true 0 0))
    : Keeps (Inv env.kernel X) (InvExit env.kernel X)
        (hookPrintRestartStatistics env onFail) := by
  intro s inv
  simp only [hookPrintRestartStatistics, printRestartStatistics, ends_bind, ends_get, ends_ite,
    ends_pure, ends_fetch]
  refine ⟨fun _ => inv, fun _ => ?_⟩
  refine (enterKspecemRt_keeps handler spares s inv.busy).imp ?_ (fun _ _ exit => exit)
  intro irqFlags t entered
  have leave (v : Rt) (kept : InvBusy env.kernel X t v)
      : Ends (leaveKspecemRt env onFail 50 irqFlags) (fun _ v => Inv env.kernel X v)
          (InvExit env.kernel X) v :=
    (leaveKspecemRt_keeps handler spares 50 irqFlags (by decide) v kept).imp
      (fun _ _ kept => kept.1) (fun _ _ exit => exit)
  refine ⟨fun _ => ⟨fun _ => ?_, fun _ => ?_⟩, fun _ => ?_⟩
  · exact (readRows_keeps entered.1.busy).imp (fun _ v kept => leave v kept)
      (fun _ _ exit => exit)
  · exact leave t entered.1.busy
  · exact InvExit.final trivial entered.1.consistent (X.ended_holds t entered.1.holds)

theorem hookCheckCallDepth_keeps (handler : Handler env.kernel onFail)
    (spares : X.spares (restartSkips env true 0 0)) (admitted : X.admitsDepth)
    : Keeps (Inv env.kernel X) (InvExit env.kernel X) (hookCheckCallDepth env onFail) := by
  intro s inv
  simp only [hookCheckCallDepth, ends_bind, ends_get, ends_ite, ends_pure, ends_modify]
  refine ⟨fun _ => inv, fun _ => ⟨fun enabled => ?_, fun _ => inv⟩⟩
  have inSpec : s.inSpeculativeEmulation = true := inv.coherent.coupled.symm.trans enabled
  refine (addSpecStatistics_stats _ _ _ _ _ s (.refl s)).imp ?_ ?_
  · intro _ t frame
    have counted : Inv env.kernel X t := by
      rw [frame]
      exact inv.counters t.stats
    have inSpec : t.inSpeculativeEmulation = true := by
      rw [frame]
      exact inSpec
    have deeper : Inv env.kernel X { t with specCallDepth := t.specCallDepth + 1 } := {
      coherent := counted.coherent.redepth inSpec _
      consistent := counted.consistent.congr rfl
      holds := X.redepth t _ counted.holds inSpec admitted
    }
    refine ⟨fun _ => ?_, fun _ => deeper⟩
    exact restartSection_ends handler spares deeper inSpec (by decide) (by decide)
  · rintro e t ⟨⟨table, _, rfl⟩, frame⟩
    refine InvExit.final trivial (inv.consistent.congr ?_) ?_
    · rw [frame]
    · rw [frame]
      exact X.ended_holds s inv.holds

/-- The invariant after `kspecem_hook_new_checkpoint` was called in `s`; it returns a token
outside speculation only.
-/
def CheckpointReturn (X : Rider env.kernel) (s : Rt) (token : Word) (t : Rt) : Prop :=
  Inv env.kernel X t
  ∧ (token ≠ noCheckpoint → s.inSpeculativeEmulation = false ∧ t.reports = s.reports)

theorem hookNewCheckpoint_keeps (handler : Handler env.kernel onFail)
    (spares : X.spares (restartSkips env true 0 0)) (inInterrupt : Bool)
    (inv : Inv env.kernel X s)
    : Ends (hookNewCheckpoint env onFail inInterrupt) (CheckpointReturn X s)
        (InvExit env.kernel X) s := by
  have refused (t : Rt) (inv : Inv env.kernel X t) : CheckpointReturn X s noCheckpoint t :=
    ⟨inv, fun token => absurd rfl token⟩
  have none := refused s inv
  simp only [hookNewCheckpoint, ends_bind, ends_get, ends_ite, ends_pure]
  refine ⟨fun _ => none, fun _ => ⟨fun _ => none, fun _ => ⟨fun _ => none, fun _ => ?_⟩⟩⟩
  refine ⟨fun _ => none, fun _ => ⟨fun _ => none, fun _ => ⟨fun _ => ?_, fun idle => ?_⟩⟩⟩
  · exact (addSpecStatistics_keeps _ _ _ _ _ s inv).imp (fun _ t kept => refused t kept)
      (fun _ _ exit => exit)
  · have idle := Bool.of_not_eq_true idle
    refine (enterKspecemRt_keeps handler spares s inv.busy).imp ?_ (fun _ _ exit => exit)
    intro irqFlags t entered
    refine newCheckpoint_ends handler.loud (entered.2.inSpec.trans idle) ?_ ?_
    · intro _ stats
      have opened : Inv env.kernel X (t.checkpointed env.kernel stats) := {
        coherent := entered.1.coherent.checkpointed stats
        consistent := entered.1.consistent.congr rfl
        holds :=
          X.checkpointed t stats entered.1.coherent entered.1.holds
            (entered.2.inSpec.trans idle)
      }
      have reports : (t.checkpointed env.kernel stats).reports = s.reports := entered.2.reports
      exact ⟨fun _ => ⟨opened, fun _ => ⟨idle, reports⟩⟩,
        fun _ => ⟨opened, fun _ => ⟨idle, reports⟩⟩⟩
    · intro e u left
      obtain ⟨final, reports, failures⟩ := left
      refine InvExit.final final (entered.1.consistent.mono (fun failed member => ?_)) ?_
      · refine (failures failed member).imp_right (fun line => ?_)
        simp [SpecAssert.OfStateMachine, line]
      · rw [reports]
        exact X.ended_holds t entered.1.holds

theorem hookLeaveRt_keeps (handler : Handler env.kernel onFail)
    (spares : X.spares (restartSkips env true 0 0)) (irqFlags : Word)
    : Keeps (Inv env.kernel X) (InvExit env.kernel X) (hookLeaveRt env onFail irqFlags) := by
  intro s inv
  rw [hookLeaveRt, ends_ite]
  refine ⟨fun _ => ?_, fun _ => inv⟩
  exact (leaveKspecemRt_keeps handler spares 108 irqFlags (by decide) s inv.busy).imp
    (fun _ _ kept => kept.1) (fun _ _ exit => exit)

/-- The frame is noted before the assertions on it, and copied after them. -/
theorem saveStack_keeps (handler : Handler env.kernel onFail) {frameaddress rsp : Address}
    (admitted : X.admitsFrame frameaddress rsp)
    (clear : ¬Within rsp (frameaddress - rsp).toNat env.kernel.swapBranchCondition)
    (inv : Inv env.kernel X s)
    : Ends (saveStack onFail frameaddress rsp)
        (fun _ t => Inv env.kernel X t ∧ t.reports = s.reports) (InvExit env.kernel X) s := by
  have framed (t : Rt) (inv : Inv env.kernel X t) (cell : Nat → Byte)
      : Inv env.kernel X (t.framed frameaddress rsp cell) := by
    refine ⟨inv.coherent.framed ?_, inv.consistent.congr rfl, ?_⟩
    · have bottom : frameaddress - (frameaddress - rsp) = rsp := by bv_omega
      simp only [Rt.framed, StackLog.Holds, bottom]
      exact clear
    · exact X.framed t frameaddress rsp cell inv.holds admitted
  have noted := framed s inv s.stack.stack.cell
  have refilled (v : Rt)
      (kept : InvBusy env.kernel X (s.framed frameaddress rsp s.stack.stack.cell) v)
      (cell : Nat → Byte)
      : Inv env.kernel X
          { v with stack := { v.stack with stack := { v.stack.stack with cell } } } := by
    have refilled := framed v kept.1 cell
    simp only [Rt.framed] at refilled
    rw [kept.2.stack] at refilled ⊢
    exact refilled
  simp only [saveStack, copyToStackLog, ends_bind, ends_modify, ends_get]
  refine (handler.keeps_ltAssert (by decide) _ noted.busy).imp ?_ (fun _ _ exit => exit)
  intro _ t kept
  refine (handler.keeps_ltAssert (by decide) t kept).imp ?_ (fun _ _ exit => exit)
  intro _ t kept
  refine (handler.keeps_ltAssert (by decide) t kept).imp ?_ (fun _ _ exit => exit)
  intro _ t kept
  refine (handler.keeps_ltAssert (by decide) t kept).imp ?_ (fun _ _ exit => exit)
  intro _ t kept
  rw [ends_ite]
  have ended := X.ended_holds t kept.1.holds
  refine ⟨fun _ => ?_, fun _ => InvExit.final trivial kept.1.consistent ended⟩
  rw [ends_modify, ends_ite]
  refine ⟨fun _ => ?_, fun _ => ⟨refilled t kept _, kept.2.reports⟩⟩
  exact InvExit.final trivial (kept.1.consistent.congr rfl) ended

theorem hookSaveStack_keeps (handler : Handler env.kernel onFail) {irqFlags : Word}
    {frameaddress rsp : Address}
    (admitted : irqFlags ≠ noCheckpoint → X.admitsFrame frameaddress rsp)
    (clear
      : irqFlags ≠ noCheckpoint
        → ¬Within rsp (frameaddress - rsp).toNat env.kernel.swapBranchCondition)
    (inv : Inv env.kernel X s)
    : Ends (hookSaveStack onFail irqFlags frameaddress rsp)
        (fun _ t => Inv env.kernel X t ∧ t.reports = s.reports) (InvExit env.kernel X) s := by
  rw [hookSaveStack, ends_ite]
  refine ⟨fun token => ?_, fun _ => ⟨inv, rfl⟩⟩
  exact saveStack_keeps handler (admitted token) (clear token) inv

/-- Without a token the registers are not saved, only those of the caller change. -/
theorem saveRegisters_keeps {cpu : PtRegs} {returnAddress token : Word}
    (inv : Inv env.kernel X s) (admitted : ¬token.toInt ≤ -1 → X.admitsRegisters s)
    : Ends (saveRegisters cpu returnAddress token) (fun _ t => Inv env.kernel X t)
        (InvExit env.kernel X) s := by
  have coherent (registers cpu : PtRegs) : Coherent env.kernel { s with registers, cpu } :=
    inv.coherent.congr rfl rfl rfl rfl rfl (fun _ clear => clear)
  rw [saveRegisters, ends_modify, asmSaveRegisters]
  by_cases none : token.toInt ≤ -1
  · rw [if_pos none]
    exact ⟨coherent _ _, inv.consistent.congr rfl, X.cpu s _ inv.holds⟩
  · rw [if_neg none]
    exact ⟨coherent _ _, inv.consistent.congr rfl,
      X.registered s _ _ inv.holds (admitted none)⟩

theorem hookStore_inv (handler : Handler env.kernel onFail)
    (spares : X.spares (restartSkips env true 0 0)) (addr : Address)
    : Keeps (Inv env.kernel X) (InvExit env.kernel X) (hookStore env onFail addr) :=
  fun _ inv => (hookStore_keeps handler spares inv.busy).imp (fun _ _ kept => kept.1.1)
    (fun _ _ exit => exit)

theorem hookMemcpy_keeps (handler : Handler env.kernel onFail)
    (spares : X.spares (restartSkips env true 0 0)) (addr : Address) (size : Word)
    : Keeps (Inv env.kernel X) (InvExit env.kernel X) (hookMemcpy env onFail addr size) := by
  intro s inv
  simp only [hookMemcpy, ends_bind, ends_get, ends_ite, ends_pure]
  refine ⟨fun _ => inv, fun enabled => ⟨fun _ => inv, fun _ => ?_⟩⟩
  have inSpec := inv.coherent.coupled.symm.trans (Bool.of_not_eq_false enabled)
  refine (enterKspecemRt_keeps handler spares s inv.busy).imp ?_ (fun _ _ exit => exit)
  intro irqFlags t entered
  refine (memcpyLoop_keeps handler spares _ entered (entered.2.inSpec.trans inSpec)).imp ?_
    (fun _ _ exit => exit)
  intro _ t kept
  exact (leaveKspecemRt_keeps handler spares 134 irqFlags (by decide) t kept).imp
    (fun _ _ kept => kept.1) (fun _ _ exit => exit)

theorem hookIsWhitelistTask_keeps (handler : Handler env.kernel onFail)
    (spares : X.spares (restartSkips env true 0 0))
    : Keeps (Inv env.kernel X) (InvExit env.kernel X) (hookIsWhitelistTask env onFail) := by
  intro s inv
  simp only [hookIsWhitelistTask, ends_bind, ends_get, ends_ite, ends_pure]
  refine ⟨fun _ => inv, fun _ => ?_⟩
  refine (enterKspecemRt_keeps handler spares s inv.busy).imp ?_ (fun _ _ exit => exit)
  intro irqFlags t kept
  exact (leaveKspecemRt_keeps handler spares 199 irqFlags (by decide) t kept).imp
    (fun _ _ kept => kept.1) (fun _ _ exit => exit)

theorem hookAccess_keeps (handler : Handler env.kernel onFail) (pfDummyRegion ptr : Address)
    (size : Word) (addrValid : Bool)
    : Keeps (Inv env.kernel X) (InvExit env.kernel X)
        (hookAccess onFail pfDummyRegion ptr size addrValid) := by
  intro s inv
  simp only [hookAccess, ends_bind, ends_get, ends_ite, ends_pure]
  refine ⟨fun _ => inv, fun _ => ⟨fun _ => inv, fun _ => ?_⟩⟩
  refine (enterKspecemNonmiRt_keeps s inv.busy).imp ?_ (fun _ _ exit => exit)
  intro irqFlags t kept
  exact (leaveKspecemNonmiRt_keeps handler 221 irqFlags (by decide) t kept).imp
    (fun _ _ kept => kept.1) (fun _ _ exit => exit)

/-- Recording a report keeps the invariant in speculation; outside it the report is printed
at once.
-/
theorem accessReport_keeps {addr : Address} {size : Word} {isWrite : Bool} {ip : Address}
    {dataLabel ptrLabel : BitVec 32} {accessType : AccessType}
    (handler : Handler env.kernel onFail) (inv : Inv env.kernel X s)
    (admitted
      : ∀ specLength,
          X.admitsBug
            (makeBug env.kernel s.inSpeculativeEmulation specLength addr size isWrite ip
              dataLabel ptrLabel accessType))
    : Ends (accessReport env onFail addr size isWrite ip dataLabel ptrLabel accessType)
        (fun _ t => Inv env.kernel X t) (InvExit env.kernel X) s := by
  have reported (t : Rt) (inv : Inv env.kernel X t) (reports : Reports)
      (holds : X.holds { t with reports })
      : Inv env.kernel X { t with reports } := {
    coherent := inv.coherent.congr rfl rfl rfl rfl rfl (fun _ clear => clear)
    consistent := inv.consistent.congr rfl
    holds := holds
  }
  rw [accessReport, ends_bind, ends_get]
  refine Ends.bind (handler.ltAssert inv.busy (by decide)) ?_
  rintro _ t ⟨kept, _⟩
  have index : s.reports.nextBugIndex = t.reports.nextBugIndex := by rw [kept.2.reports]
  have inv := kept.1
  rw [← kept.2.inSpec] at admitted
  rw [index, ends_bind, ends_modify, ends_bind, ends_get, ends_bind, ends_fetch]
  have ended := X.ended_holds t inv.holds
  refine ⟨fun below => ?_, fun _ => InvExit.final trivial (inv.consistent.congr rfl) ended⟩
  rw [ends_bind]
  refine ends_ltAssert (fun _ => ?_) (fun occupied => ?_)
  · have admitted := admitted t.speculativeInstrCount
    have speculates
        : (makeBug env.kernel t.inSpeculativeEmulation t.speculativeInstrCount addr size isWrite
              ip dataLabel ptrLabel accessType).inSpec
          = t.inSpeculativeEmulation := rfl
    simp only [ends_bind, ends_modify, ends_get, ends_ite, ends_pure]
    generalize makeBug _ _ _ _ _ _ _ _ _ _ = bug at admitted speculates ⊢
    refine ⟨fun notInSpec => ?_, fun spec => ?_⟩
    · have idle : t.inSpeculativeEmulation = false := by simpa using notInSpec
      refine (reportPrintAndClear_flushes (u := { t with reports := t.reports.filled bug })
        handler.loud idle (-1) rfl).imp ?_ ?_
      · rintro _ v ⟨frame, flushed⟩
        rw [frame]
        exact reported t inv v.reports (X.printed t bug v.reports inv.holds idle admitted
          (speculates.trans idle) flushed)
      · intro e v exit
        refine InvExit.final exit.ours.final
          (Rt.Consistent.flushExit (s := { t with reports := t.reports.filled bug })
            (inv.consistent.congr rfl) exit) ?_
        exact X.ended_printed t bug _ inv.holds idle admitted (speculates.trans idle)
          exit.printed
    · have spec : t.inSpeculativeEmulation = true := by simpa using spec
      exact reported t inv _ (X.reported t bug inv.holds spec admitted
        (speculates.trans spec) below)
  · -- the slot is in use: whatever the list holds then, the rider survives it
    have other
        : ¬SpecAssert.OfStateMachine
            ⟨"kspecem_bugs.c", 172, "kspecem_checkzero(this_bug,sizeof(*this_bug))"⟩ := by
      decide
    have clobbered (v : Rt) (inv : Inv env.kernel X v) (same : v.reports = t.reports)
        (reports : Reports)
        : X.holds { v with reports } := by
      rw [← same] at below occupied
      exact X.clobbered v _ reports inv.holds (admitted t.speculativeInstrCount) below occupied
    refine (handler.fails (X := X)
      (t := { t with reports := { t.reports with nextBugIndex := t.reports.nextBugIndex + 1 } })
      ?_ (inv.consistent.congr rfl) ?_ ended other).imp ?_ (fun _ _ exit => exit)
    · exact inv.coherent.congr rfl rfl rfl rfl rfl (fun _ clear => clear)
    · exact X.rolls_of_holds _ (clobbered t inv rfl _)
    · rintro _ v ⟨inSpec, inRestart, rfl⟩
      have inSpec : t.inSpeculativeEmulation = true := inSpec
      have inRestart : t.isInRestart = true := inRestart
      have ignored := inv.recordFailure inSpec inRestart other
      simp only [ends_bind, ends_modify, ends_get, ends_ite, ends_pure]
      refine ⟨fun idle => ?_, fun _ => ?_⟩
      · simp [Rt.recordFailure, inSpec] at idle
      · exact reported _ ignored _ (clobbered _ ignored rfl _)

theorem hookReport_keeps {line : Nat} {report : RtM Unit}
    (handler : Handler env.kernel onFail) (inv : Inv env.kernel X s)
    (other : ¬SpecAssert.OfStateMachine ⟨"kspecem_interface.c", line, "irqs_disabled()"⟩)
    (reports
      : ∀ t,
          Inv env.kernel X t
          → t.inSpeculativeEmulation = s.inSpeculativeEmulation
          → Ends report (fun _ v => Inv env.kernel X v) (InvExit env.kernel X) t)
    : Ends (hookReport onFail line report) (fun _ t => Inv env.kernel X t)
        (InvExit env.kernel X) s := by
  simp only [hookReport, ends_bind, ends_get, ends_ite, ends_pure]
  refine ⟨fun _ => inv, fun _ => ?_⟩
  refine (enterKspecemNonmiRt_keeps s inv.busy).imp ?_ (fun _ _ exit => exit)
  intro irqFlags t entered
  refine (reports t entered.1 entered.2.inSpec).imp ?_ (fun _ _ exit => exit)
  intro _ t kept
  exact (leaveKspecemNonmiRt_keeps handler line irqFlags other t kept.busy).imp
    (fun _ _ kept => kept.1) (fun _ _ exit => exit)

end

end Kasper
