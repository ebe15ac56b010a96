import Kasper.Correctness.ReportAttribution

/-! The queue of pending reports over whole runs.
Its slots from the next index on are zero in every state reached. Nothing but the length of
an episode keeps the index below the size of the queue, so the run counts its report hooks.
-/

namespace Kasper

open ByteMemory Exits

/-- The queue has its size, and the slots from the next index on are zero. -/
structure Reports.Tidy (reports : Reports) : Prop where
  size : reports.bugs.size = bugsListSize
  free
    : ∀ i, reports.nextBugIndex ≤ i → i < bugsListSize → reports.bugs.cell i = Bug.zero

/-- Storing a report in the next slot keeps the queue tidy. -/
theorem Reports.Tidy.filled {reports : Reports} (h : reports.Tidy) (bug : Bug)
    : (reports.filled bug).Tidy where
  size := h.size
  free := by
    intro i above below
    have above : reports.nextBugIndex + 1 ≤ i := above
    refine (Table.put_cell_other _ _ (by omega)).trans (h.free i (by omega) below)

/-- A flush leaves a tidy queue, and no report in it. -/
theorem Reports.Tidy.flushed {ip : Word} {restartType : Int} {before after : Reports}
    (h : before.Tidy) (flushed : Flushed ip restartType before after)
    : after.Tidy ∧ after.nextBugIndex = 0 := by
  rcases flushed with ⟨empty, rfl⟩ | ⟨_, cleared, size, _⟩
  · exact ⟨h, empty⟩
  · exact ⟨⟨size.trans h.size, fun i _ below => cleared.2 i below⟩, cleared.1⟩

/-- A tidy queue with at most `n` reports. -/
def Queued (n : Nat) (s : Rt) : Prop :=
  s.reports.Tidy ∧ s.reports.nextBugIndex ≤ n

theorem Queued.congr {n : Nat} {s t : Rt} (h : Queued n s) (reports : t.reports = s.reports)
    : Queued n t := by
  unfold Queued
  rw [reports]
  exact h

/-- The rider of the queue in a step without a report: `n` reports at most, and `k` at most
where control goes back to the checkpoint. Only a restart that flushes may bring `n` below.
-/
def Rider.queue (kernel : Kernel) (n k : Nat) : Rider kernel where
  holds := Queued n
  rolls := Queued n
  landed := Queued k
  resumed := Queued k
  replay := fun _ _ _ => True
  admits := fun restartType _ => restartType.Flushes ∨ n ≤ k
  spares := fun _ => True
  admitsBlock := fun _ => True
  admitsDepth := True
  admitsFrame := fun _ _ => True
  admitsRegisters := fun _ => True
  admitsBug := fun _ => False
  admitsMemory := fun _ _ => True
  readsFrames := False
  ended := fun _ => True
  section_ := fun _ _ _ h => h.congr rfl
  counters := fun _ _ h => h.congr rfl
  metered := fun _ _ h _ _ => h.congr rfl
  failed := fun _ _ h _ _ => h.congr rfl
  appended := fun _ _ _ _ h _ _ _ => h.congr rfl
  scratched := fun _ _ h _ => h.congr rfl
  counted := fun _ _ _ h _ => h.congr rfl
  redepth := fun _ _ h _ _ => h.congr rfl
  checkpointed := fun _ _ _ h _ => h.congr rfl
  framed := fun _ _ _ _ h _ => h.congr rfl
  registered := fun _ _ _ h _ => h.congr rfl
  cpu := fun _ _ h => h.congr rfl
  written := fun _ _ h _ => h.congr rfl
  clobbered := fun _ _ _ _ no _ _ => no.elim
  reported := fun _ _ _ _ no _ _ => no.elim
  printed := fun _ _ _ _ _ no _ _ => no.elim
  admits_busy := fun _ _ _ _ admitted => admitted
  admits_flush := fun _ _ flushes _ => Or.inl flushes
  nested := fun _ _ _ h _ _ _ => h.congr rfl
  rolls_of_holds := fun _ h _ => h
  doomed := fun _ _ h _ _ reports _ => h.congr reports
  rolls_written := fun _ _ _ h _ => h.congr rfl
  starts := fun _ _ => True.intro
  rules := fun s skip _ _ => .vacuous _ skip s
  stopped := fun _ _ _ _ h _ replaying => h.congr replaying.reports
  rolledBack := by
    intro s stats restartType u t _ h _ admitted replayed _ landed
    have reports : (u.discarded kernel).reports = s.reports := replayed.reports
    by_cases flushes : restartType.Flushes
    · have flushed := landed.flushed flushes
      rw [reports] at flushed
      obtain ⟨tidy, empty⟩ := h.1.flushed flushed
      exact ⟨tidy, empty ▸ Nat.zero_le k⟩
    · have kept := h.congr ((landed.pending flushes).trans reports)
      exact ⟨kept.1, Nat.le_trans kept.2 (admitted.resolve_left flushes)⟩
  jumped := fun _ h => h.congr rfl
  returned := fun _ _ h _ => h.congr rfl
  ended_holds := fun _ _ => True.intro
  ended_rolls := fun _ _ => True.intro
  ended_landed := fun _ _ => True.intro
  ended_rolled := fun _ _ _ _ _ _ => True.intro
  ended_printed := fun _ _ _ _ _ _ _ _ => True.intro

instance (action : Action) : Decidable action.SkipsFlush :=
  match action with
  | .timer _ _ _ _ => inferInstanceAs (Decidable True)
  | .exception _ _ _ exceptionType => inferInstanceAs (Decidable (exceptionType ≠ 1))
  | .restart restartType _ => inferInstanceAs (Decidable ¬restartType.Flushes)
  | .checkSpecLength _ | .panicInfo | .printRestartStatistics | .checkCallDepth
  | .newCheckpoint _ | .saveStack _ _ _ | .saveRegisters _ _ _ | .leaveRt _ | .branch ..
  | .store _ | .memcpy _ _ | .report _ | .isWhitelistTask | .access .. | .write _ _ | .setIrqs _ =>
      inferInstanceAs (Decidable False)

/-- The reports left where a step goes back to the checkpoint. -/
def leftAfter (action : Action) (n : Nat) : Nat :=
  if action.SkipsFlush then n else 0

theorem Rider.queue_lenient (kernel : Kernel) (n left : Nat)
    : (Rider.queue kernel n left).Lenient where
  spares := fun _ => True.intro
  frame := fun _ _ => True.intro
  memory := fun _ _ => True.intro
  frames := id

/-- The rider admits every event that reports nothing. -/
theorem Rider.queue_admitted {kernel : Kernel} {n : Nat} {s : Rt} {event : Event}
    (placed : event.action.Placed kernel) (silent : ∀ call, event.action ≠ .report call)
    : event.Admitted kernel (Rider.queue kernel n (leftAfter event.action n)) s :=
  (Rider.queue_lenient kernel n _).admitted {
    placed
    block := fun _ _ => True.intro
    depth := fun _ => True.intro
    restarts := fun restartType ends => by
      rcases Action.skips_or_flushes ends with skips | flushes
      · exact Or.inr (by rw [leftAfter, if_pos skips])
      · exact Or.inl flushes
    registers := fun _ _ => True.intro
    bug := fun call _ action => absurd action (silent call) }

-----------------------------------------------------------------------------------------
-- One report
-----------------------------------------------------------------------------------------

/-- The call goes past the guards of its hook. -/
def ReportCall.Reaches (call : ReportCall) (s : Rt) : Prop :=
  s.initDone = true
  ∧ s.isInRt = false
  ∧ match call with
    | .kasan addr _ _ _ => ¬addr < 0x100000
    | _ => True

instance (call : ReportCall) (s : Rt) : Decidable (call.Reaches s) := by
  cases call <;> unfold ReportCall.Reaches <;> infer_instance

/-- The function of `kspecem_bugs.c` the call's hook runs. -/
def ReportCall.report (env : Env) (onFail : SpecAssert → RtM Unit) : ReportCall → RtM Unit
  | .kasan addr size isWrite ip => kasanReport env onFail addr size isWrite ip
  | .ridl addr size isWrite ip dataLabel ptrLabel =>
      ridlReport env onFail addr size isWrite ip dataLabel ptrLabel
  | .specv1 addr size isWrite ip dataLabel ptrLabel =>
      specv1Report env onFail addr size isWrite ip dataLabel ptrLabel
  | .smotherspectre ip label => smotherspectreReport env onFail ip label

/-- The line on which the call's hook leaves its section. -/
def ReportCall.line : ReportCall → Nat
  | .kasan _ _ _ _ => 169
  | .ridl _ _ _ _ _ _ => 177
  | .specv1 _ _ _ _ _ _ => 184
  | .smotherspectre _ _ => 191

/-- The state inside the section of a report hook. -/
def Rt.reporting (s : Rt) : Rt :=
  { s with isInRt := true, irqsEnabled := false }

/-- The state with the call's report in the next slot. -/
def Rt.stored (kernel : Kernel) (call : ReportCall) (s : Rt) : Rt :=
  { s with
    reports :=
      s.reports.filled (call.bug kernel s.inSpeculativeEmulation s.speculativeInstrCount) }

/-- What `kspecem_access_report` does after it stored the report. -/
def afterReport (env : Env) (onFail : SpecAssert → RtM Unit) : RtM Unit := do
  if !(← get).inSpeculativeEmulation then
    reportPrintAndClear env onFail false (-1)

/-- The call stores its report: the slot is one of the list and zero, and neither assertion
fails, whatever a failure would do.
-/
def Stores (env : Env) (call : ReportCall) (s : Rt) : Prop :=
  s.reports.nextBugIndex < bugsListSize
  ∧ s.reports.bugs.cell s.reports.nextBugIndex = Bug.zero
  ∧ ∀ onFail, call.report env onFail s = afterReport env onFail (s.stored env.kernel call)

section
variable {env : Env} {call : ReportCall} {n : Nat} {s : Rt}

theorem accessReport_stores {onFail : SpecAssert → RtM Unit} {addr : Address} {size : Word}
    {isWrite : Bool} {ip : Address} {dataLabel ptrLabel : BitVec 32} {accessType : AccessType}
    (tidy : s.reports.Tidy) (room : s.reports.nextBugIndex < bugsListSize)
    : accessReport env onFail addr size isWrite ip dataLabel ptrLabel accessType s
      = afterReport env onFail
          { s with
            reports :=
              s.reports.filled
                (makeBug env.kernel s.inSpeculativeEmulation s.speculativeInstrCount addr size
                  isWrite ip dataLabel ptrLabel accessType) } := by
  have free : s.reports.bugs.cell s.reports.nextBugIndex = Bug.zero :=
    tidy.free _ (Nat.le_refl _) room
  have inside : s.reports.nextBugIndex < s.reports.bugs.size := tidy.size ▸ room
  simp only [accessReport, ltAssert, fetch, run_get_bind, if_pos room, pure_bind, run_modify_bind,
    if_pos inside, if_pos free]
  rfl

/-- A tidy queue with room takes every report. -/
theorem Reports.Tidy.stores (tidy : s.reports.Tidy)
    (room : s.reports.nextBugIndex < bugsListSize)
    : Stores env call s := by
  refine ⟨room, tidy.free _ (Nat.le_refl _) room, fun onFail => ?_⟩
  cases call <;> exact accessReport_stores tidy room

/-- Past its guards a report hook runs its report in a section. -/
theorem ReportCall.run_reaches {Q : Unit → Rt → Prop} {E : Exit → Rt → Prop}
    (reaches : call.Reaches s)
    : Ends (call.run env) Q E s
      ↔ Ends (hookReport env.onFail call.line (call.report env env.onFail))
          (fun _ t => Q () t) E s := by
  cases call with
  | kasan addr size isWrite ip =>
      have high : ¬addr < 0x100000 := reaches.2.2
      rw [ReportCall.run, hookKasanReport, if_neg high, ends_bind]
      exact Iff.rfl
  | ridl addr size isWrite ip dataLabel ptrLabel =>
      rw [ReportCall.run, ends_bind]
      exact Iff.rfl
  | specv1 addr size isWrite ip dataLabel ptrLabel =>
      rw [ReportCall.run, ends_bind]
      exact Iff.rfl
  | smotherspectre ip label =>
      rw [ReportCall.run, ends_bind]
      exact Iff.rfl

/-- Before its guards a report hook does nothing. -/
theorem ReportCall.run_stops {Q : Unit → Rt → Prop} {E : Exit → Rt → Prop}
    (stops : ¬call.Reaches s) (same : Q () s)
    : Ends (call.run env) Q E s := by
  have guarded {line : Nat} {report : RtM Unit}
      (closed : ¬(s.initDone = true ∧ s.isInRt = false))
      : Ends (hookReport env.onFail line report) (fun _ t => Q () t) E s := by
    rw [hookReport, ends_bind, ends_get, ends_bind, ends_get, if_pos]
    · exact same
    · cases done : s.initDone <;> cases inRt : s.isInRt <;> simp_all
  have early (closed : (call.Reaches s) = (s.initDone = true ∧ s.isInRt = false ∧ True))
      : ¬(s.initDone = true ∧ s.isInRt = false) := by
    simpa [closed] using stops
  cases call with
  | kasan addr size isWrite ip =>
      rw [ReportCall.run, hookKasanReport, ends_bind, ends_ite]
      refine ⟨fun _ => same, fun high => guarded fun passed => ?_⟩
      obtain ⟨done, inRt⟩ := passed
      exact stops ⟨done, inRt, high⟩
  | ridl addr size isWrite ip dataLabel ptrLabel =>
      rw [ReportCall.run, ends_bind]
      exact guarded (early rfl)
  | specv1 addr size isWrite ip dataLabel ptrLabel =>
      rw [ReportCall.run, ends_bind]
      exact guarded (early rfl)
  | smotherspectre ip label =>
      rw [ReportCall.run, ends_bind]
      exact guarded (early rfl)

/-- The section of a report hook around its report. -/
theorem hookReport_section {Q : Rt → Prop} {E : Exit → Rt → Prop} {line : Nat}
    {report : RtM Unit} (initDone : s.initDone = true) (isInRt : s.isInRt = false)
    (reported
      : Ends report
          (fun _ t =>
            t.irqsEnabled = false
            ∧ Q { t with isInRt := false, irqsEnabled := s.irqsEnabled })
          E s.reporting)
    : Ends (hookReport env.onFail line report) (fun _ t => Q t) E s := by
  rw [hookReport, ends_bind, ends_get, ends_bind, ends_get,
    if_neg (by simp [initDone, isInRt]), ends_bind, enterKspecemNonmiRt, setRt, ends_bind,
    ends_modify, localIrqSave]
  simp only [ends_bind, ends_get, ends_modify, ends_pure]
  refine reported.imp ?_ (fun _ _ exit => exit)
  rintro _ t ⟨irqs, kept⟩
  rw [leaveKspecemNonmiRt]
  simp only [ends_bind, ends_get, ltAssert, if_pos irqs, ends_pure, localIrqRestore, unsetRt,
    ends_modify, irqsEnabledIn_irqFlags]
  exact kept

/-- With room in a tidy queue a report hook stores its report, and nothing happens before
what `kspecem_access_report` does afterwards.
-/
theorem ReportCall.run_stored {Q : Rt → Prop} {E : Exit → Rt → Prop}
    (reaches : call.Reaches s) (tidy : s.reports.Tidy)
    (room : s.reports.nextBugIndex < bugsListSize)
    (after
      : Ends (afterReport env env.onFail)
          (fun _ t =>
            t.irqsEnabled = false
            ∧ Q { t with isInRt := false, irqsEnabled := s.irqsEnabled })
          E (s.reporting.stored env.kernel call))
    : Ends (call.run env) (fun _ t => Q t) E s := by
  rw [ReportCall.run_reaches reaches]
  refine hookReport_section reaches.1 reaches.2.1 ?_
  unfold Ends at after ⊢
  rw [(Reports.Tidy.stores (s := s.reporting) tidy room).2.2]
  exact after

/-- In speculation the report waits. -/
theorem ReportCall.run_waits (reaches : call.Reaches s)
    (inSpec : s.inSpeculativeEmulation = true) (tidy : s.reports.Tidy)
    (room : s.reports.nextBugIndex < bugsListSize)
    : Ends (call.run env) (fun _ t => t = { s.stored env.kernel call with isInRt := false })
        (fun _ _ => False) s := by
  refine ReportCall.run_stored reaches tidy room ?_
  rw [afterReport, ends_bind, ends_get, if_neg]
  · exact ⟨rfl, rfl⟩
  · have inSpec : (s.reporting.stored env.kernel call).inSpeculativeEmulation = true := inSpec
    simp [inSpec]

/-- Outside speculation the report is printed, or the run ends. -/
theorem ReportCall.run_prints (reaches : call.Reaches s)
    (idle : s.inSpeculativeEmulation = false) (tidy : s.reports.Tidy)
    (room : s.reports.nextBugIndex < bugsListSize)
    : Ends (call.run env) (fun _ t => Queued 0 t) (fun e _ => e.Final) s := by
  refine ReportCall.run_stored reaches tidy room ?_
  have idle : (s.reporting.stored env.kernel call).inSpeculativeEmulation = false := idle
  rw [afterReport, ends_bind, ends_get, if_pos (by simp [idle])]
  have loud : FailsLoudly env.onFail := kspecemPanic_loud env env.kernel.panicDepth
  refine (reportPrintAndClear_flushes loud idle (-1) rfl).imp ?_ ?_
  · rintro _ t ⟨frame, flushed⟩
    obtain ⟨tidy, empty⟩ := (tidy.filled _).flushed flushed
    refine ⟨?_, tidy, Nat.le_of_eq empty⟩
    rw [frame]
    rfl
  · exact fun _ _ exit => exit.ours.final

/-- What a report hook leaves in the queue of `n` reports. -/
def ReportCall.leaves (call : ReportCall) (s : Rt) (n : Nat) : Nat :=
  if call.Reaches s then
    if s.inSpeculativeEmulation then n + 1 else 0
  else
    n

/-- One report hook, where there is room. -/
theorem ReportCall.run_queues (queued : Queued n s) (room : call.Reaches s → n < bugsListSize)
    : Ends (call.run env) (fun _ t => Queued (call.leaves s n) t) (fun e _ => e.Final) s := by
  by_cases reaches : call.Reaches s
  · have room : s.reports.nextBugIndex < bugsListSize :=
      Nat.lt_of_le_of_lt queued.2 (room reaches)
    cases spec : s.inSpeculativeEmulation with
    | true =>
        have leaves : call.leaves s n = n + 1 := by
          rw [ReportCall.leaves, if_pos reaches, if_pos spec]
        rw [leaves]
        refine (ReportCall.run_waits reaches spec queued.1 room).imp ?_ (fun _ _ no => no.elim)
        rintro _ t rfl
        exact ⟨queued.1.filled _, Nat.succ_le_succ queued.2⟩
    | false =>
        have leaves : call.leaves s n = 0 := by
          rw [ReportCall.leaves, if_pos reaches, if_neg (by simp [spec])]
        rw [leaves]
        exact ReportCall.run_prints reaches spec queued.1 room
  · refine ReportCall.run_stops reaches ?_
    rw [ReportCall.leaves, if_neg reaches]
    exact queued

end

-----------------------------------------------------------------------------------------
-- Runs
-----------------------------------------------------------------------------------------

/-- Control goes back to the checkpoint. -/
def Event.Resumes (kernel : Kernel) (event : Event) (s : Rt) : Bool :=
  match event.run kernel s with
  | .error .resumed _ => true
  | _ => false

/-- The reports since the last flush: each report hook in speculation that goes past its
guards adds one; a report outside speculation and a rollback that prints clear them.
-/
def Event.pendingAfter (kernel : Kernel) (event : Event) (m : Machine) (pending : Nat) : Nat :=
  match event.action with
  | .report call => call.leaves m.rt pending
  | action => if event.Resumes kernel m.rt then leftAfter action pending else pending

/-- A run together with the reports since the last flush. -/
inductive QueueRun (kernel : Kernel) (allowed : Event → Machine → Nat → Prop) (start : Machine)
    : Machine → Nat → Prop
  | refl : QueueRun kernel allowed start start 0
  | step {m next : Machine} {pending : Nat} {event : Event}
      (run : QueueRun kernel allowed start m pending) (admitted : allowed event m pending)
      (steps : m.step kernel event = some next)
      : QueueRun kernel allowed start next (event.pendingAfter kernel m pending)

/-- A run goes on with any enabled event that is allowed. -/
theorem QueueRun.after {kernel : Kernel} {allowed : Event → Machine → Nat → Prop}
    {start m : Machine} {pending : Nat} (run : QueueRun kernel allowed start m pending)
    (event : Event) (admitted : allowed event m pending) (enabled : m.Enabled event.action)
    : QueueRun kernel allowed start (.after (event.run kernel m.rt))
        (event.pendingAfter kernel m pending) :=
  .step run admitted (if_pos enabled)

/-- Events of a program, where a report hook that goes past its guards finds fewer reports
since the last flush than the queue has slots.
-/
def KeepsRoom (kernel : Kernel) (event : Event) (m : Machine) (pending : Nat) : Prop :=
  event.action.Placed kernel
  ∧ ∀ call, event.action = .report call → call.Reaches m.rt → pending < bugsListSize

/-- What a run has at every machine that still runs. -/
structure QueueInv (kernel : Kernel) (pending : Nat) (m : Machine) : Prop where
  coherent : Coherent kernel m.rt
  consistent : m.rt.Consistent
  queued : Queued pending m.rt

section
variable {kernel : Kernel} {m next : Machine} {event : Event} {pending : Nat}

theorem QueueInv.machineInv (h : QueueInv kernel pending m) (k : Nat)
    : MachineInv kernel (Rider.queue kernel pending k) m where
  consistent := h.consistent
  running := fun _ => ⟨h.coherent, h.consistent, h.queued⟩
  faulted := fun _ => ⟨h.coherent, h.consistent, fun _ => h.queued, fun _ => h.queued⟩

/-- A report hook keeps the count. -/
theorem QueueInv.report {call : ReportCall} (h : QueueInv kernel pending m)
    (action : event.action = .report call) (room : call.Reaches m.rt → pending < bugsListSize)
    (alive : (Machine.after (event.run kernel m.rt)).phase ≠ .stopped)
    : Queued (call.leaves m.rt pending) (Machine.after (event.run kernel m.rt)).rt := by
  have queues : Ends (event.run kernel) (fun _ t => Queued (call.leaves m.rt pending) t)
      (fun e _ => e.Final) m.rt := by
    rw [Event.run, action]
    exact ReportCall.run_queues h.queued room
  unfold Ends at queues
  cases result : event.run kernel m.rt with
  | ok _ t =>
      rw [result] at queues
      exact queues
  | error e t =>
      rw [result] at queues alive
      cases e with
      | resumed => exact queues.elim
      | fault isWrite => exact queues.elim
      | panicked reason => exact absurd rfl alive
      | outOfBounds table => exact absurd rfl alive
      | stackOverflow => exact absurd rfl alive
      | diverged => exact absurd rfl alive

/-- An event that reports nothing adds nothing; a rollback that prints clears the count. -/
theorem QueueInv.silent (h : QueueInv kernel pending m)
    (placed : event.action.Placed kernel) (silent : ∀ call, event.action ≠ .report call)
    (enabled : m.Enabled event.action)
    (alive : (Machine.after (event.run kernel m.rt)).phase ≠ .stopped)
    : Queued
        (if event.Resumes kernel m.rt then leftAfter event.action pending else pending)
        (Machine.after (event.run kernel m.rt)).rt := by
  have ends := (h.machineInv (leftAfter event.action pending)).run_keeps
    (Rider.queue_admitted placed silent) enabled
  unfold Ends at ends
  cases result : event.run kernel m.rt with
  | ok _ t =>
      rw [result] at ends
      simp only [Event.Resumes, result]
      exact ends.holds
  | error e t =>
      rw [result] at ends alive
      obtain ⟨_, resumed, fault, _⟩ := ends
      simp only [Event.Resumes, result]
      cases e with
      | resumed => exact (resumed rfl).2.2
      | fault isWrite =>
          obtain ⟨_, rolls, holds⟩ := fault isWrite rfl
          cases spec : t.inSpeculativeEmulation with
          | true => exact rolls spec
          | false => exact holds spec
      | panicked reason => exact absurd rfl alive
      | outOfBounds table => exact absurd rfl alive
      | stackOverflow => exact absurd rfl alive
      | diverged => exact absurd rfl alive

/-- Where every step keeps room, the queue stays tidy and as short as the count says. -/
theorem QueueInv.step (h : QueueInv kernel pending m)
    (allowed : KeepsRoom kernel event m pending) (steps : m.step kernel event = some next)
    (alive : next.phase ≠ .stopped)
    : QueueInv kernel (event.pendingAfter kernel m pending) next := by
  obtain ⟨placed, room⟩ := allowed
  have inv : MachineInv kernel (Rider.trivial kernel) m :=
    ⟨h.consistent, fun _ => ⟨h.coherent, h.consistent, True.intro⟩,
      fun _ => ⟨h.coherent, h.consistent, fun _ => True.intro, fun _ => True.intro⟩⟩
  have stepped := inv.step (Rider.trivial_admitted placed) steps
  have kept := stepped.inv (fun _ _ _ => True.intro)
  refine ⟨kept.coherent alive, kept.consistent, ?_⟩
  obtain ⟨enabled, rfl⟩ := Machine.step_eq steps
  unfold Event.pendingAfter
  split
  · rename_i call action
    exact h.report action (room call action) alive
  · rename_i silent
    exact h.silent placed silent enabled alive

end

/-- Over every run in which each report hook finds fewer reports since the last flush than
the queue has slots, the slots from the next index on are zero, and every report goes into
such a slot: both assertions of `kspecem_access_report` hold.
-/
theorem reportQueue_tidy {env : Env} {heap : Heap} {switches : Switches} {mem : Memory}
    {cpu : PtRegs} {irqsEnabled : Bool} {s : Rt} {m : Machine} {pending : Nat}
    (fits : heap.writelogAddrs.toNat + writelogBytes < 2 ^ 64)
    (booted
      : commonLateInit env env.onFail heap (Rt.static switches mem cpu irqsEnabled)
        = .ok () s)
    (run : QueueRun env.kernel (KeepsRoom env.kernel) ⟨s, .running⟩ m pending)
    (alive : m.phase ≠ .stopped)
    : m.rt.reports.Tidy
      ∧ m.rt.reports.nextBugIndex ≤ pending
      ∧ ∀ event call,
          event.action = .report call
          → KeepsRoom env.kernel event m pending
          → call.Reaches m.rt
          → Stores (event.env env.kernel) call m.rt.reporting := by
  have booted : Booted env.kernel switches s := (commonLateInit_booted fits).of_ok booted
  have inv : QueueInv env.kernel pending m := by
    induction run with
    | refl =>
        have inv := booted.machineInv (X := Rider.trivial env.kernel) True.intro
        exact ⟨booted.coherent, inv.consistent, ⟨booted.size, fun i _ => booted.slots i⟩,
          Nat.le_of_eq booted.index⟩
    | step _ allowed steps ih =>
        exact (ih (Machine.alive_of_step steps)).step allowed steps alive
  refine ⟨inv.queued.1, inv.queued.2, fun event call action allowed reaches => ?_⟩
  have room := Nat.lt_of_le_of_lt inv.queued.2 (allowed.2 call action reaches)
  exact Reports.Tidy.stores (s := m.rt.reporting) inv.queued.1 room

theorem reportQueue_tidy_sample
    : sampleReported.rt.reports.Tidy
      ∧ sampleReported.rt.reports.nextBugIndex ≤ 1
      ∧ ∀ event call,
          event.action = .report call
          → KeepsRoom sampleKernel event sampleReported 1
          → call.Reaches sampleReported.rt
          → Stores (event.env sampleKernel) call sampleReported.rt.reporting := by
  have opened : QueueRun sampleKernel (KeepsRoom sampleKernel) sampleMachine sampleOpen 0 := by
    refine QueueRun.refl.after sampleBranch ⟨?_, fun _ no => by contradiction⟩ (by decide)
    exact (by decide : ¬Within 0x70100 0x100 sampleKernel.swapBranchCondition)
  have room : (0 : Nat) < bugsListSize := by decide
  refine @reportQueue_tidy sampleEnv sampleHeap sampleSwitches (fun _ => 0) (fun _ => 0)
    true _ _ 1 (by decide) sampleRt_booted ?_ (by decide)
  exact opened.after sampleReport ⟨True.intro, fun _ _ _ => room⟩ (by decide)

/-- An open episode after `n` reports: nothing else runs between two hooks of one basic
block, or where none of the code that runs has block hooks.
-/
def sampleFlood (n : Nat) : Machine := machineAfter (List.replicate n sampleReport) sampleOpen

theorem sampleFlood_succ (n : Nat)
    : sampleFlood (n + 1) = .after (sampleReport.run sampleKernel (sampleFlood n).rt) := by
  simp only [sampleFlood, machineAfter, List.replicate_succ', List.foldl_append,
    List.foldl_cons, List.foldl_nil]

/-- The flood up to the size of the queue: each report takes the next slot. -/
theorem sampleFlood_fills {n : Nat} (fits : n ≤ bugsListSize)
    : Reached sampleKernel (sampleFlood n)
      ∧ (sampleFlood n).phase = .running
      ∧ (sampleFlood n).rt.initDone = true
      ∧ (sampleFlood n).rt.isInRt = false
      ∧ (sampleFlood n).rt.inSpeculativeEmulation = true
      ∧ (sampleFlood n).rt.reports.Tidy
      ∧ (sampleFlood n).rt.reports.nextBugIndex = n := by
  induction n with
  | zero =>
      refine ⟨sampleOpen_reached, rfl, rfl, rfl, rfl, ⟨rfl, fun i _ below => ?_⟩, rfl⟩
      have slot
          : (sampleOpen.rt.reports.bugs.cell i)
            = if i < bugsListSize then Bug.zero else Bug.zero := rfl
      exact slot.trans (if_pos below)
  | succ n ih =>
      obtain ⟨reached, running, initDone, isInRt, inSpec, tidy, index⟩ :=
        ih (Nat.le_of_succ_le fits)
      have room : (sampleFlood n).rt.reports.nextBugIndex < bugsListSize := by omega
      have ends : Ends (sampleReport.run sampleKernel) _ _ (sampleFlood n).rt :=
        @ReportCall.run_waits sampleEnv (.kasan 0x600000 8 false 0x400123) _
          ⟨initDone, isInRt, by decide⟩ inSpec tidy room
      have next := reached.after sampleReport True.intro
        (by simp [Machine.Enabled, running, sampleReport, sampleEvent])
      rw [sampleFlood_succ]
      unfold Ends at ends
      cases result : sampleReport.run sampleKernel (sampleFlood n).rt with
      | error e t =>
          rw [result] at ends
          exact ends.elim
      | ok _ t =>
          rw [result] at ends next
          subst ends
          exact ⟨next, rfl, initDone, rfl, inSpec, tidy.filled _, congrArg (· + 1) index⟩

/-- In a reachable state the queue is full and the next report hook goes past its guards:
the assertion on the index fails.
-/
theorem reportQueue_overflows
    : Reached sampleKernel (sampleFlood 100)
      ∧ (ReportCall.kasan 0x600000 8 false 0x400123).Reaches (sampleFlood 100).rt
      ∧ ¬(sampleFlood 100).rt.reports.nextBugIndex < bugsListSize
      ∧ (ReportCall.kasan 0x600000 8 false 0x400123).report sampleEnv
          (fun failed => throw (.panicked (.assertion failed)))
          (sampleFlood 100).rt.reporting
        = .error
            (.panicked
              (.assertion
                ⟨"kspecem_bugs.c", 166, "kspecem_next_bug_index < BUGS_LIST_SIZE"⟩))
            (sampleFlood 100).rt.reporting := by
  obtain ⟨reached, _, initDone, isInRt, _, _, index⟩ := sampleFlood_fills (Nat.le_refl 100)
  have full : ¬(sampleFlood 100).rt.reports.nextBugIndex < bugsListSize := by
    rw [index]
    decide
  refine ⟨reached, ⟨initDone, isInRt, by decide⟩, full, ?_⟩
  generalize (sampleFlood 100).rt = s at full
  have full : ¬s.reporting.reports.nextBugIndex < bugsListSize := full
  simp only [ReportCall.report, kasanReport, accessReport, run_get_bind, ltAssert, if_neg full]
  rfl

end Kasper
