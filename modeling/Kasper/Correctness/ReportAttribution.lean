import Kasper.Correctness.StateMachine

/-! Reports and the episodes that produced them.
Where no interrupt ends an episode with reports pending, every restart prints the reports of
its own episode, under the ip of its own checkpoint.
-/

namespace Kasper

open ByteMemory Exits

/-- What the lines printed in one step may be attributed to: in an episode to its checkpoint
and the reports `recorded` in it, outside speculation to the step's `own` report.
-/
structure Attribution where
  inEpisode : Prop
  checkpointIp : Word
  recorded : Bug → Prop
  own : Bug → Prop

namespace Attribution

variable (A : Attribution)

/-- A block printed on behalf of a restart, or for one report outside speculation. -/
def Block (block : List Printed) : Prop :=
  (A.inEpisode
    ∧ ∃ bugs syscallNr restartType specLength,
        (∀ bug ∈ bugs, A.recorded bug)
        ∧ block
          = printedBlock bugs (.restartEnd syscallNr A.checkpointIp restartType specLength))
  ∨ (¬A.inEpisode
    ∧ ∃ bugs only syscallNr specLength,
        A.own only
        ∧ (∀ bug ∈ bugs, bug = only)
        ∧ block = printedBlock bugs (.restartEnd syscallNr 0 (-1) specLength))

/-- The bug may be reported in the step. -/
def Admits (bug : Bug) : Prop :=
  (bug.inSpec = true → A.inEpisode ∧ A.recorded bug)
  ∧ (bug.inSpec = false → ¬A.inEpisode ∧ A.own bug)

/-- Lines that were printed up to the end of a block. -/
def Lines (lines : List Printed) : Prop :=
  ∃ blocks : List (List Printed), (∀ block ∈ blocks, A.Block block) ∧ lines = blocks.flatten

theorem lines_nil : A.Lines [] :=
  ⟨[], by simp, rfl⟩

variable {A}

theorem Lines.append {lines block : List Printed} (h : A.Lines lines) (next : A.Block block)
    : A.Lines (lines ++ block) := by
  obtain ⟨blocks, attributed, rfl⟩ := h
  refine ⟨blocks ++ [block], fun other member => ?_, by simp⟩
  rcases List.mem_append.mp member with earlier | last
  · exact attributed other earlier
  · rw [List.mem_singleton.mp last]
    exact next

end Attribution

-----------------------------------------------------------------------------------------
-- The rider of a step
-----------------------------------------------------------------------------------------

/-- The report list in a step that began with `base` printed. -/
structure Attributed (A : Attribution) (base : List Printed) (s : Rt) : Prop where
  size : s.reports.bugs.size = bugsListSize
  free
    : ∀ i,
        s.reports.nextBugIndex ≤ i → i < bugsListSize → s.reports.bugs.cell i = Bug.zero
  ip : A.inEpisode → s.registers .rip = A.checkpointIp
  index : s.reports.nextBugIndex ≠ 0 → A.inEpisode ∧ s.inSpeculativeEmulation = true
  pending : ∀ bug, s.reports.Pending bug → A.recorded bug
  printed : ∃ lines, A.Lines lines ∧ s.reports.printed = base ++ lines

/-- What may have been printed in a step where it ended the run. -/
def AttributedPart (A : Attribution) (base printed : List Printed) : Prop :=
  ∃ all lines, A.Lines all ∧ lines <+: all ∧ printed = base ++ lines

namespace Attributed

variable {A : Attribution} {base : List Printed} {s t : Rt}

theorem congr (h : Attributed A base s) (reports : t.reports = s.reports)
    (registers : t.registers = s.registers)
    (inSpec : t.inSpeculativeEmulation = s.inSpeculativeEmulation)
    : Attributed A base t where
  size := reports ▸ h.size
  free := reports ▸ h.free
  ip := registers ▸ h.ip
  index := by
    rw [reports, inSpec]
    exact h.index
  pending := reports ▸ h.pending
  printed := reports ▸ h.printed

theorem part (h : Attributed A base s) : AttributedPart A base s.reports.printed := by
  obtain ⟨lines, attributed, printed⟩ := h.printed
  exact ⟨lines, lines, attributed, List.prefix_rfl, printed⟩

/-- Outside speculation no report is pending. -/
theorem idle (h : Attributed A base s) (idle : s.inSpeculativeEmulation = false)
    : s.reports.nextBugIndex = 0 := by
  by_contra pending
  exact absurd ((h.index pending).2.symm.trans idle) (by decide)

/-- Where no report is pending, speculation may begin or end. -/
theorem respeculate (h : Attributed A base s) (empty : s.reports.nextBugIndex = 0)
    (reports : t.reports = s.reports) (registers : t.registers = s.registers)
    : Attributed A base t where
  size := reports ▸ h.size
  free := reports ▸ h.free
  ip := registers ▸ h.ip
  index := fun pending => absurd (reports ▸ empty) pending
  pending := reports ▸ h.pending
  printed := reports ▸ h.printed

/-- Recording a report in the episode. -/
theorem filled (h : Attributed A base s) (inSpec : s.inSpeculativeEmulation = true) {bug : Bug}
    (recorded : A.inEpisode ∧ A.recorded bug)
    : Attributed A base { s with reports := s.reports.filled bug } where
  size := h.size
  free := by
    intro i above below
    rw [Reports.filled] at above ⊢
    rw [Table.put_cell_other _ _ (by simp only at above; omega)]
    exact h.free i (by simp only at above; omega) below
  ip := h.ip
  index := fun _ => ⟨recorded.1, inSpec⟩
  pending := by
    rintro other ⟨i, below, cell⟩
    rw [Reports.filled] at below cell
    rcases Nat.lt_succ_iff_lt_or_eq.mp below with earlier | rfl
    · rw [Table.put_cell_other _ _ (Nat.ne_of_lt earlier)] at cell
      exact h.pending other ⟨i, earlier, cell⟩
    · rw [Table.put_cell_same] at cell
      exact cell ▸ recorded.2
  printed := h.printed

/-- After a flush outside speculation the list is empty, and one more block printed. -/
theorem cleared (h : Attributed A base s) {ip : Word} {restartType : Int} {before : Reports}
    (flushed : Flushed ip restartType before t.reports)
    (pending : before.nextBugIndex ≠ 0) (size : before.bugs.size = s.reports.bugs.size)
    (printed : before.printed = s.reports.printed)
    (block
      : ∀ bugs syscallNr specLength,
          (∀ bug ∈ bugs, before.Pending bug)
          → A.Block (printedBlock bugs (.restartEnd syscallNr ip restartType specLength)))
    (registers : t.registers = s.registers)
    : Attributed A base t := by
  rcases flushed with ⟨empty, _⟩ | ⟨_, cleared, sameSize, bugs, syscallNr, specLength, rest⟩
  · exact absurd empty pending
  obtain ⟨waited, lines⟩ := rest
  obtain ⟨earlier, attributed, earlierPrinted⟩ := h.printed
  refine {
    size := by rw [sameSize, size, h.size]
    free := fun i _ below => cleared.2 i below
    ip := registers ▸ h.ip
    index := fun later => absurd cleared.1 later
    pending := ?_
    printed := ⟨_, attributed.append (block bugs syscallNr specLength waited), ?_⟩
  }
  · rintro bug ⟨i, below, _⟩
    rw [cleared.1] at below
    exact absurd below (Nat.not_lt_zero i)
  · rw [lines, printed, earlierPrinted, List.append_assoc]

end Attributed

/-- A flush that stopped on its way has printed a part of one more block. -/
theorem Attributed.partFlushed {A : Attribution} {base : List Printed} {s : Rt}
    (h : Attributed A base s) {before : Reports} {ip : Word} {restartType : Int}
    {after : List Printed} (part : PartFlushed ip restartType before after)
    (printed : before.printed = s.reports.printed)
    (block
      : before.nextBugIndex ≠ 0
        → ∀ bugs syscallNr specLength,
            (∀ bug ∈ bugs, before.Pending bug)
            → A.Block (printedBlock bugs (.restartEnd syscallNr ip restartType specLength)))
    : AttributedPart A base after := by
  obtain ⟨bugs, syscallNr, specLength, lines, waited, started, rfl⟩ := part
  obtain ⟨earlier, attributed, earlierPrinted⟩ := h.printed
  rw [printed, earlierPrinted, List.append_assoc]
  by_cases none : before.nextBugIndex = 0
  · have empty : bugs = [] := by
      refine List.eq_nil_iff_forall_not_mem.mpr (fun bug member => ?_)
      obtain ⟨i, below, _⟩ := waited bug member
      omega
    rw [printedBlock, if_pos empty, List.prefix_nil] at started
    exact ⟨earlier, _, attributed, by simp [started], rfl⟩
  · refine ⟨_, _, attributed.append (block none bugs syscallNr specLength waited), ?_, rfl⟩
    exact (List.prefix_append_right_inj earlier).mpr started

section
variable (kernel : Kernel) (A : Attribution) (base : List Printed)

/-- Blocks printed on behalf of a restart. -/
theorem Attributed.restartBlock {A : Attribution} {base : List Printed} {s : Rt}
    (h : Attributed A base s) (pending : s.reports.nextBugIndex ≠ 0) {bugs : List Bug}
    (waited : ∀ bug ∈ bugs, s.reports.Pending bug) (syscallNr : Nat) (restartType : Int)
    (specLength : BitVec 32)
    : A.Block
        (printedBlock bugs
          (.restartEnd syscallNr (s.registers .rip) restartType specLength)) := by
  have inEpisode := (h.index pending).1
  refine Or.inl ⟨inEpisode, bugs, syscallNr, restartType, specLength, ?_, ?_⟩
  · exact fun bug member => h.pending bug (waited bug member)
  · rw [h.ip inEpisode]

/-- A block printed for one report outside speculation. -/
theorem Attributed.ownBlock {A : Attribution} {base : List Printed} {s : Rt}
    (h : Attributed A base s) (idle : s.inSpeculativeEmulation = false) {only : Bug}
    (own : ¬A.inEpisode ∧ A.own only) {bugs : List Bug}
    (waited : ∀ bug ∈ bugs, (s.reports.filled only).Pending bug) (syscallNr : Nat)
    (specLength : BitVec 32)
    : A.Block (printedBlock bugs (.restartEnd syscallNr 0 (-1) specLength)) := by
  refine Or.inr ⟨own.1, bugs, only, syscallNr, specLength, own.2, fun bug member => ?_, rfl⟩
  obtain ⟨i, below, cell⟩ := waited bug member
  have empty := h.idle idle
  rw [Reports.filled, empty] at below cell
  obtain rfl : i = 0 := Nat.lt_one_iff.mp below
  rw [Table.put_cell_same] at cell
  exact cell.symm

/-- The rider of one step: what is pending, and what the step has printed. -/
def Rider.attributed : Rider kernel where
  holds := Attributed A base
  rolls := Attributed A base
  landed := Attributed A base
  resumed := Attributed A base
  replay := fun _ _ _ => True
  admits := fun restartType s => restartType.Flushes ∨ s.reports.nextBugIndex = 0
  spares := fun _ => True
  admitsBlock := fun _ => True
  admitsDepth := True
  admitsFrame := fun _ _ => True
  admitsRegisters := fun _ => ¬A.inEpisode
  admitsBug := A.Admits
  admitsMemory := fun _ _ => True
  readsFrames := False
  ended := AttributedPart A base
  section_ := fun _ _ _ h => h.congr rfl rfl rfl
  counters := fun _ _ h => h.congr rfl rfl rfl
  metered := fun _ _ h _ _ => h.congr rfl rfl rfl
  failed := fun _ _ h _ _ => h.congr rfl rfl rfl
  appended := fun _ _ _ _ h _ _ _ => h.congr rfl rfl rfl
  scratched := fun _ _ h _ => h.congr rfl rfl rfl
  counted := fun _ _ _ h _ => h.congr rfl rfl rfl
  redepth := fun _ _ h _ _ => h.congr rfl rfl rfl
  checkpointed := fun _ _ _ h idle => h.respeculate (h.idle idle) rfl rfl
  framed := fun _ _ _ _ h _ => h.congr rfl rfl rfl
  registered := fun _ _ _ h outside =>
    { h with ip := fun inEpisode => absurd inEpisode outside }
  cpu := fun _ _ h => h.congr rfl rfl rfl
  written := fun _ _ h _ => h.congr rfl rfl rfl
  clobbered := fun s _ _ h _ below occupied =>
    absurd (h.free _ (Nat.le_refl _) (h.size ▸ below)) occupied
  reported := fun _ _ h inSpec admitted speculates _ => h.filled inSpec (admitted.1 speculates)
  printed := fun _ _ _ h idle admitted own flushed =>
    h.cleared flushed (Nat.succ_ne_zero _) rfl rfl
      (fun _ syscallNr specLength waited =>
        h.ownBlock idle (admitted.2 own) waited syscallNr specLength)
      rfl
  admits_busy := fun _ _ _ busy admitted =>
    admitted.imp_right (fun empty => busy.reports ▸ empty)
  admits_flush := fun _ _ flushes _ => Or.inl flushes
  nested := fun _ _ _ h _ _ _ => h.congr rfl rfl rfl
  rolls_of_holds := fun _ h _ => h
  doomed := fun _ _ h inSpec _ reports registers => {
    size := reports ▸ h.size
    free := reports ▸ h.free
    ip := registers ▸ h.ip
    index := fun pending => ⟨(h.index (reports ▸ pending)).1, inSpec⟩
    pending := reports ▸ h.pending
    printed := reports ▸ h.printed
  }
  rolls_written := fun _ _ _ h _ => h.congr rfl rfl rfl
  starts := fun _ _ => True.intro
  rules := fun s skip _ _ => .vacuous _ skip s
  stopped := fun _ _ _ _ h _ replaying =>
    h.congr replaying.reports (by rw [replaying.frame]; rfl) replaying.inSpec
  rolledBack := by
    intro s stats restartType u t _ h _ admitted replayed _ landed
    have reports : (u.discarded kernel).reports = s.reports := replayed.reports
    have registers : (u.discarded kernel).registers = s.registers := by
      rw [Rt.discarded, replayed.frame]
      rfl
    have kept : t.registers = s.registers := by
      rw [landed.frame]
      exact registers
    by_cases empty : s.reports.nextBugIndex = 0
    · refine h.respeculate empty ?_ kept
      by_cases flushes : restartType.Flushes
      · have flushed := landed.flushed flushes
        rw [reports] at flushed
        rcases flushed with ⟨_, same⟩ | ⟨pending, _⟩
        · exact same
        · exact absurd empty pending
      · exact (landed.pending flushes).trans reports
    · have flushed := landed.flushed (admitted.resolve_right empty)
      rw [reports, registers] at flushed
      exact h.cleared flushed empty rfl rfl
        (fun _ syscallNr specLength waited =>
          h.restartBlock empty waited syscallNr restartType.code specLength)
        kept
  jumped := fun _ h => h.congr rfl rfl rfl
  returned := fun _ _ h _ => h.congr rfl rfl rfl
  ended_holds := fun _ h => h.part
  ended_rolls := fun _ h => h.part
  ended_landed := fun _ h => h.part
  ended_rolled := fun _ restartType _ h _ part =>
    h.partFlushed part rfl (fun pending _ syscallNr specLength waited =>
      h.restartBlock pending waited syscallNr restartType specLength)
  ended_printed := fun _ _ _ h idle admitted own part =>
    h.partFlushed part rfl (fun _ _ syscallNr specLength waited =>
      h.ownBlock idle (admitted.2 own) waited syscallNr specLength)

end

/-- The current episode: the ip of its checkpoint and the report hooks called in it. -/
structure Episode where
  checkpointIp : Word
  calls : List ReportCall

/-- The report hook an event calls. -/
def Event.calls (event : Event) : List ReportCall :=
  match event.action with
  | .report call => [call]
  | _ => []

/-- The episode after a step from `m` to `next`: in speculation it goes on, outside it a new
one may have begun.
-/
def Episode.next (episode : Episode) (event : Event) (m next : Machine) : Episode :=
  if m.rt.inSpeculativeEmulation then
    { episode with calls := episode.calls ++ event.calls }
  else
    { checkpointIp := next.rt.registers .rip, calls := [] }

/-- One of the report hooks called in the episode records the bug. -/
def Episode.Recorded (kernel : Kernel) (episode : Episode) (bug : Bug) : Prop :=
  ∃ call ∈ episode.calls, ∃ specLength, bug = call.bug kernel true specLength

/-- A run together with the current episode of each of its machines. -/
inductive EpisodeRun (kernel : Kernel) (allowed : Event → Machine → Prop) (start : Machine)
    : Machine → Episode → Prop
  | refl : EpisodeRun kernel allowed start start ⟨start.rt.registers .rip, []⟩
  | step {m next : Machine} {episode : Episode} {event : Event}
      (run : EpisodeRun kernel allowed start m episode) (admitted : allowed event m)
      (steps : m.step kernel event = some next)
      : EpisodeRun kernel allowed start next (episode.next event m next)

/-- A run goes on with any enabled event that is allowed. -/
theorem EpisodeRun.after {kernel : Kernel} {allowed : Event → Machine → Prop}
    {start m : Machine} {episode : Episode} (run : EpisodeRun kernel allowed start m episode)
    (event : Event) (admitted : allowed event m) (enabled : m.Enabled event.action)
    : EpisodeRun kernel allowed start (.after (event.run kernel m.rt))
        (episode.next event m (.after (event.run kernel m.rt))) :=
  .step run admitted (if_pos enabled)

/-- The passes put the hooks of a checkpoint into the program together only; the last of
them runs again after each rollback.
-/
def Action.Instrumented : Action → Prop
  | .newCheckpoint _ | .saveStack _ _ _ | .saveRegisters _ _ _ => False
  | _ => True

/-- The action restarts with a type that does not print the pending reports. -/
def Action.SkipsFlush : Action → Prop
  | .timer _ _ _ _ => True
  | .exception _ _ _ exceptionType => exceptionType ≠ 1
  | .restart restartType _ => ¬restartType.Flushes
  | _ => False

/-- What may end an episode flushes, or skips the flush. -/
theorem Action.skips_or_flushes {action : Action} {restartType : RestartType}
    (ends : action.endsBy = some restartType)
    : action.SkipsFlush ∨ restartType.Flushes := by
  cases action with
  | timer leaving regs frameaddr interrupted => exact Or.inl True.intro
  | exception regs frameaddr interrupted exceptionType =>
      obtain rfl := Option.some.inj ends
      by_cases fault : exceptionType = 1
      · refine Or.inr ?_
        rw [exceptionRestartType, if_pos fault]
        decide
      · exact Or.inl fault
  | restart other callArg =>
      obtain rfl := Option.some.inj ends
      exact (em other.Flushes).symm
  | _ => contradiction

/-- A restart that does not print, or an interrupt whose handler makes one, comes in
speculation with reports pending.
-/
def Event.LeavesReports (event : Event) (s : Rt) : Prop :=
  s.inSpeculativeEmulation = true ∧ s.reports.nextBugIndex ≠ 0 ∧ event.action.SkipsFlush

/-- What a step from `m` may print. -/
def stepAttribution (kernel : Kernel) (episode : Episode) (event : Event) (m : Machine)
    : Attribution where
  inEpisode := m.rt.inSpeculativeEmulation = true
  checkpointIp := episode.checkpointIp
  recorded := Episode.Recorded kernel { episode with calls := episode.calls ++ event.calls }
  own bug :=
    ∃ call specLength, event.action = .report call ∧ bug = call.bug kernel false specLength

theorem Rider.attributed_lenient (kernel : Kernel) (A : Attribution) (base : List Printed)
    : (Rider.attributed kernel A base).Lenient where
  spares := fun _ => True.intro
  frame := fun _ _ => True.intro
  memory := fun _ _ => True.intro
  frames := id

/-- The rider of a step admits its event. -/
theorem Rider.attributed_admitted {kernel : Kernel} {episode : Episode} {event : Event}
    {m : Machine} {base : List Printed} (placed : event.action.Placed kernel)
    (instrumented : event.action.Instrumented) (flushes : ¬event.LeavesReports m.rt)
    (idle : m.rt.inSpeculativeEmulation = false → m.rt.reports.nextBugIndex = 0)
    : event.Admitted kernel
        (Rider.attributed kernel (stepAttribution kernel episode event m) base) m.rt := by
  have empty (skips : event.action.SkipsFlush) : m.rt.reports.nextBugIndex = 0 := by
    cases spec : m.rt.inSpeculativeEmulation with
    | false => exact idle spec
    | true => exact Decidable.not_not.mp (fun pending => flushes ⟨spec, pending, skips⟩)
  refine (Rider.attributed_lenient kernel _ base).admitted ⟨placed, fun _ _ => True.intro,
    fun _ => True.intro, ?restarts, ?registers, ?bug⟩
  case restarts =>
    intro restartType ends
    rcases Action.skips_or_flushes ends with skips | flushes
    · exact Or.inr (empty skips)
    · exact Or.inl flushes
  case registers =>
    intro saves _ inSpec
    cases action : event.action with
    | branch saveFrames leaveFrames inInterrupt frameaddress rsp cpu returnAddress =>
        rw [action] at saves
        exact absurd (saves.symm.trans inSpec) (by decide)
    | saveRegisters cpu returnAddress token =>
        rw [action] at instrumented
        exact instrumented.elim
    | _ =>
        rw [action] at saves
        exact saves.elim
  case bug =>
    intro call specLength action
    have calls : event.calls = [call] := by simp [Event.calls, action]
    have speculates : (call.bug kernel m.rt.inSpeculativeEmulation specLength).inSpec
        = m.rt.inSpeculativeEmulation := by
      cases call <;> rfl
    refine ⟨fun inSpec => ?_, fun outside => ?_⟩
    · have inSpec : m.rt.inSpeculativeEmulation = true := speculates.symm.trans inSpec
      refine ⟨inSpec, call, ?_, specLength, ?_⟩
      · simp [calls]
      · exact congrArg (fun inSpec => call.bug kernel inSpec specLength) inSpec
    · have idle : m.rt.inSpeculativeEmulation = false := speculates.symm.trans outside
      refine ⟨fun inSpec => absurd (idle.symm.trans inSpec) (by decide), call, specLength,
        action, ?_⟩
      exact congrArg (fun inSpec => call.bug kernel inSpec specLength) idle

-----------------------------------------------------------------------------------------
-- Runs
-----------------------------------------------------------------------------------------

/-- Between two steps the pending reports are those of the current episode. -/
structure Belongs (kernel : Kernel) (episode : Episode) (s : Rt) : Prop where
  size : s.reports.bugs.size = bugsListSize
  free
    : ∀ i,
        s.reports.nextBugIndex ≤ i → i < bugsListSize → s.reports.bugs.cell i = Bug.zero
  ip : s.inSpeculativeEmulation = true → s.registers .rip = episode.checkpointIp
  index : s.reports.nextBugIndex ≠ 0 → s.inSpeculativeEmulation = true
  pending : ∀ bug, s.reports.Pending bug → episode.Recorded kernel bug

/-- What a run has at every machine that still runs. -/
structure Attributable (kernel : Kernel) (episode : Episode) (m : Machine) : Prop where
  coherent : Coherent kernel m.rt
  consistent : m.rt.Consistent
  belongs : Belongs kernel episode m.rt

section
variable {kernel : Kernel} {episode : Episode} {event : Event} {m next : Machine}

/-- The step's rider holds where the step begins. -/
theorem Belongs.attributed (h : Belongs kernel episode m.rt)
    : Attributed (stepAttribution kernel episode event m) m.rt.reports.printed m.rt where
  size := h.size
  free := h.free
  ip := h.ip
  index := fun pending => ⟨h.index pending, h.index pending⟩
  pending := by
    intro bug waits
    obtain ⟨call, member, specLength, recorded⟩ := h.pending bug waits
    exact ⟨call, List.mem_append_left _ member, specLength, recorded⟩
  printed := ⟨[], Attribution.lines_nil _, (List.append_nil _).symm⟩

/-- After the step the pending reports belong to the episode of the machine reached. -/
theorem Attributed.belongs {base : List Printed}
    (h : Attributed (stepAttribution kernel episode event m) base next.rt)
    : Belongs kernel (episode.next event m next) next.rt := by
  refine ⟨h.size, h.free, fun _ => ?_, fun pending => (h.index pending).2, fun bug waits => ?_⟩
  · unfold Episode.next
    split
    · rename_i inSpec
      exact h.ip inSpec
    · rfl
  · have recorded := h.pending bug waits
    obtain ⟨i, below, _⟩ := waits
    have inSpec : m.rt.inSpeculativeEmulation = true := (h.index (by omega)).1
    rw [Episode.next, if_pos inSpec]
    exact recorded

/-- The lines one step prints, complete unless the step ends the run. -/
def StepPrints (kernel : Kernel) (episode : Episode) (event : Event) (m next : Machine) : Prop :=
  ∃ all lines,
    (stepAttribution kernel episode event m).Lines all
    ∧ lines <+: all
    ∧ next.rt.reports.printed = m.rt.reports.printed ++ lines
    ∧ (next.phase ≠ .stopped → lines = all)

theorem Attributed.stepPrints
    (h : Attributed (stepAttribution kernel episode event m) m.rt.reports.printed next.rt)
    : StepPrints kernel episode event m next := by
  obtain ⟨lines, attributed, printed⟩ := h.printed
  exact ⟨lines, lines, attributed, List.prefix_rfl, printed, fun _ => rfl⟩

/-- Events of a program, apart from restarts that leave reports behind. -/
def KeepsReports (kernel : Kernel) (event : Event) (m : Machine) : Prop :=
  event.action.Placed kernel ∧ event.action.Instrumented ∧ ¬event.LeavesReports m.rt

/-- One step prints attributed blocks and keeps what is pending with its episode. -/
theorem Attributable.step (h : Attributable kernel episode m)
    (allowed : KeepsReports kernel event m) (steps : m.step kernel event = some next)
    : StepPrints kernel episode event m next
      ∧ (next.phase ≠ .stopped
        → Attributable kernel (episode.next event m next) next) := by
  obtain ⟨placed, instrumented, flushes⟩ := allowed
  have holds : Attributed (stepAttribution kernel episode event m) m.rt.reports.printed m.rt :=
    h.belongs.attributed
  have inv
      : MachineInv kernel
          (Rider.attributed kernel (stepAttribution kernel episode event m)
            m.rt.reports.printed) m := by
    refine ⟨h.consistent, fun _ => ⟨h.coherent, h.consistent, holds⟩, fun _ => ?_⟩
    exact ⟨h.coherent, h.consistent, fun _ => holds, fun _ => holds⟩
  have idle (outside : m.rt.inSpeculativeEmulation = false)
      : m.rt.reports.nextBugIndex = 0 :=
    Decidable.not_not.mp fun pending =>
      absurd ((h.belongs.index pending).symm.trans outside) (by decide)
  have stepped := inv.step (Rider.attributed_admitted placed instrumented flushes idle) steps
  have going (coherent : Coherent kernel next.rt)
      (holds
        : Attributed (stepAttribution kernel episode event m) m.rt.reports.printed next.rt)
      : StepPrints kernel episode event m next
        ∧ (next.phase ≠ .stopped → Attributable kernel (episode.next event m next) next) :=
    ⟨holds.stepPrints, fun _ => ⟨coherent, stepped.consistent, holds.belongs⟩⟩
  cases phase : next.phase with
  | running =>
      rw [← phase]
      rcases stepped.running phase with inv | ⟨coherent, _, resumed⟩
      · exact going inv.coherent inv.holds
      · exact going coherent resumed
  | faulted =>
      rw [← phase]
      have standing := stepped.faulted phase
      cases spec : next.rt.inSpeculativeEmulation with
      | true => exact going standing.coherent (standing.rolls spec)
      | false => exact going standing.coherent (standing.holds spec)
  | stopped =>
      obtain ⟨all, lines, attributed, part, printed⟩ := stepped.stopped phase
      exact ⟨⟨all, lines, attributed, part, printed, fun alive => absurd phase alive⟩,
        fun alive => absurd rfl alive⟩

end

/-- Over every run in which no restart leaves reports behind, no report is pending outside
speculation; whatever a step prints in an episode was recorded in it and stands under the ip
of its checkpoint, and outside one a step prints its own report alone.
-/
theorem reports_belong {env : Env} {heap : Heap} {switches : Switches} {mem : Memory}
    {cpu : PtRegs} {irqsEnabled : Bool} {s : Rt} {m : Machine} {episode : Episode}
    (fits : heap.writelogAddrs.toNat + writelogBytes < 2 ^ 64)
    (booted
      : commonLateInit env env.onFail heap (Rt.static switches mem cpu irqsEnabled)
        = .ok () s)
    (run : EpisodeRun env.kernel (KeepsReports env.kernel) ⟨s, .running⟩ m episode)
    (alive : m.phase ≠ .stopped)
    : (m.rt.inSpeculativeEmulation = false → m.rt.reports.nextBugIndex = 0)
      ∧ ∀ event next,
          KeepsReports env.kernel event m
          → m.step env.kernel event = some next
          → StepPrints env.kernel episode event m next := by
  have booted : Booted env.kernel switches s := (commonLateInit_booted fits).of_ok booted
  have attributable : Attributable env.kernel episode m := by
    induction run with
    | refl =>
        have inv := booted.machineInv (X := Rider.trivial env.kernel) True.intro
        refine ⟨booted.coherent, inv.consistent, booted.size, fun i _ => booted.slots i,
          fun _ => rfl, fun pending => absurd booted.index pending, ?_⟩
        rintro bug ⟨i, below, _⟩
        rw [booted.index] at below
        exact absurd below (Nat.not_lt_zero i)
    | step _ allowed steps ih =>
        exact ((ih (Machine.alive_of_step steps)).step allowed steps).2 alive
  refine ⟨fun idle => ?_, fun event next allowed steps => ?_⟩
  · exact Decidable.not_not.mp fun pending =>
      absurd ((attributable.belongs.index pending).symm.trans idle) (by decide)
  · exact (attributable.step allowed steps).1

/-- A KASAN report from the sample's text. -/
def sampleReport : Event := sampleEvent (.report (.kasan 0x600000 8 false 0x400123))

/-- The sample branch, and a report on its wrong path. -/
def sampleReported : Machine := machineAfter [sampleBranch, sampleReport] sampleMachine

def sampleReportedEpisode : Episode where
  checkpointIp := 0x400200
  calls := [.kasan 0x600000 8 false 0x400123]

theorem reports_belong_sample
    : (sampleReported.rt.inSpeculativeEmulation = false
        → sampleReported.rt.reports.nextBugIndex = 0)
      ∧ ∀ event next,
          KeepsReports sampleKernel event sampleReported
          → sampleReported.step sampleKernel event = some next
          → StepPrints sampleKernel sampleReportedEpisode event sampleReported next := by
  refine @reports_belong sampleEnv sampleHeap sampleSwitches (fun _ => 0) (fun _ => 0) true _ _
    _ (by decide) sampleRt_booted ?_ (by decide)
  refine (EpisodeRun.refl.after sampleBranch ?_ ?_).after sampleReport ?_ ?_
  · refine ⟨(by decide : ¬Within 0x70100 0x100 sampleKernel.swapBranchCondition), True.intro, ?_⟩
    exact fun leaves => leaves.2.2
  · decide
  · exact ⟨True.intro, True.intro, fun leaves => leaves.2.2⟩
  · decide

/-- Then a timer interrupt ends the episode. -/
def sampleTimer : Event := sampleEvent (.timer false 0x6ff00 0x6ffa8 (fun _ => 0))

def sampleLeft : Machine := machineAfter [sampleTimer] sampleReported

/-- Another branch, whose episode reports nothing and ends by a restart that prints. -/
def sampleOtherBranch : Event :=
  sampleEvent
    (.branch sampleFrames sampleFrames false 0x70200 0x70100 (fun _ => 0) 0x400300)

def sampleMisattributed : Machine :=
  machineAfter
    [sampleEvent (.leaveRt 0x202), sampleOtherBranch, sampleEvent (.restart .restartCall 0)]
    sampleLeft

/-- After the timer interrupt the report is pending outside speculation, and the restart of
the next episode prints it under the ip of the wrong checkpoint.
-/
theorem reports_misattributed
    : Run sampleKernel
        (fun event _ => event.action.Placed sampleKernel ∧ event.action.Instrumented)
        sampleMachine sampleMisattributed
      ∧ sampleLeft.phase = .running
      ∧ sampleLeft.rt.inSpeculativeEmulation = false
      ∧ sampleLeft.rt.reports.nextBugIndex = 1
      ∧ sampleMisattributed.rt.reports.printed
        = [.restartBegin,
          .accessBug
            (makeBug sampleKernel true 0 0x600000 8 false 0x400123 0 0 .kasanAccess),
          .restartEnd 0 0x400300 1 0] := by
  refine ⟨?_, rfl, rfl, rfl, rfl⟩
  have started : Run sampleKernel
      (fun event _ => event.action.Placed sampleKernel ∧ event.action.Instrumented)
      sampleMachine sampleLeft := by
    refine ((Run.refl.after sampleBranch ?_ ?_).after sampleReport ?_ ?_).after sampleTimer ?_ ?_
    · exact ⟨(by decide : ¬Within 0x70100 0x100 sampleKernel.swapBranchCondition), True.intro⟩
    · decide
    · exact ⟨True.intro, True.intro⟩
    · decide
    · exact ⟨(by decide : ¬Within 0x6ff00 sizeofPtregs sampleKernel.swapBranchCondition),
        True.intro⟩
    · decide
  refine ((started.after (sampleEvent (.leaveRt 0x202)) ?_ ?_).after sampleOtherBranch ?_ ?_).after
    (sampleEvent (.restart .restartCall 0)) ?_ ?_
  · exact ⟨True.intro, True.intro⟩
  · decide
  · exact ⟨(by decide : ¬Within 0x70100 0x100 sampleKernel.swapBranchCondition), True.intro⟩
  · decide
  · exact ⟨True.intro, True.intro⟩
  · decide

end Kasper
