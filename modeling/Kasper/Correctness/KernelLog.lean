import Kasper.Correctness.ReportQueue

/-! The report lines of the kernel log as a format. The report functions print them from a
loop that may print nothing and may end the run; a reader finds the lines of each flush in
one block. What other functions print between two blocks is no part of this log.
-/

namespace Kasper

open ByteMemory Exits

-----------------------------------------------------------------------------------------
-- Reading the log
-----------------------------------------------------------------------------------------

/-- What a reader of the log learns from one block. -/
structure LogBlock where
  bugs : List Bug
  syscallNr : Nat
  checkpointIp : Word
  restartType : Int
  specLength : BitVec 32
  deriving DecidableEq

/-- The lines of a block. -/
def LogBlock.lines (block : LogBlock) : List Printed :=
  printedBlock block.bugs
    (.restartEnd block.syscallNr block.checkpointIp block.restartType block.specLength)

/-- Read blocks to the end of the log; `opened` has the reports of a block not yet closed. -/
def readBlocks : (opened : Option (List Bug)) → List Printed → Option (List LogBlock)
  | none, [] => some []
  | none, .restartBegin :: rest => readBlocks (some []) rest
  | some bugs, .accessBug bug :: rest => readBlocks (some (bugs ++ [bug])) rest
  | some (bug :: bugs), .restartEnd syscallNr checkpointIp restartType specLength :: rest =>
      (readBlocks none rest).map
        (⟨bug :: bugs, syscallNr, checkpointIp, restartType, specLength⟩ :: ·)
  | _, _ => none

/-- The reports of an open block are read one by one, by induction on them. -/
theorem readBlocks_bugs (opened bugs : List Bug) (rest : List Printed)
    : readBlocks (some opened) (bugs.map .accessBug ++ rest)
      = readBlocks (some (opened ++ bugs)) rest := by
  induction bugs generalizing opened with
  | nil => rw [List.map_nil, List.nil_append, List.append_nil]
  | cons bug bugs ih =>
      rw [List.map_cons, List.cons_append, readBlocks, ih, List.append_assoc]
      rfl

theorem readBlocks_lines {block : LogBlock} (some : block.bugs ≠ []) (rest : List Printed)
    : readBlocks none (block.lines ++ rest) = (readBlocks none rest).map (block :: ·) := by
  obtain ⟨bugs, syscallNr, checkpointIp, restartType, specLength⟩ := block
  obtain ⟨bug, bugs, rfl⟩ := List.exists_cons_of_ne_nil some
  rw [LogBlock.lines, printedBlock, if_neg some, openBlock, if_neg some]
  simp only [List.cons_append, List.append_assoc]
  rw [readBlocks, readBlocks_bugs]
  rfl

/-- The lines read of a block not yet closed. -/
def openedLines : Option (List Bug) → List Printed
  | none => []
  | some bugs => .restartBegin :: bugs.map .accessBug

/-- What can be read was printed in those blocks, by induction on the lines. -/
theorem readBlocks_sound {opened : Option (List Bug)} {lines : List Printed}
    {blocks : List LogBlock} (reads : readBlocks opened lines = some blocks)
    : (∀ block ∈ blocks, block.bugs ≠ [])
      ∧ blocks.flatMap LogBlock.lines = openedLines opened ++ lines := by
  fun_induction readBlocks opened lines generalizing blocks with
  | case1 =>
      obtain rfl := Option.some.inj reads
      exact ⟨by simp, rfl⟩
  | case2 rest ih => simpa [openedLines] using ih reads
  | case3 bugs bug rest ih => simpa [openedLines] using ih reads
  | case4 bug bugs syscallNr checkpointIp restartType specLength rest ih =>
      obtain ⟨later, read, rfl⟩ := Option.map_eq_some_iff.mp reads
      obtain ⟨some, lines⟩ := ih read
      refine ⟨?_, ?_⟩
      · intro block member
        rcases List.mem_cons.mp member with rfl | member
        · exact List.cons_ne_nil bug bugs
        · exact some block member
      · rw [List.flatMap_cons, lines, LogBlock.lines, printedBlock,
          if_neg (List.cons_ne_nil _ _), openBlock, if_neg (List.cons_ne_nil _ _)]
        simp [openedLines]
  | case5 opened lines => simp only [reduceCtorEq] at reads

/-- Reading gives the blocks that were printed, in order, and nothing else can be read. -/
theorem readBlocks_iff {lines : List Printed} {blocks : List LogBlock}
    : readBlocks none lines = some blocks
      ↔ (∀ block ∈ blocks, block.bugs ≠ []) ∧ lines = blocks.flatMap LogBlock.lines := by
  refine ⟨fun reads => ?_, ?_⟩
  · obtain ⟨some, lines⟩ := readBlocks_sound reads
    exact ⟨some, lines.symm⟩
  · rintro ⟨some, rfl⟩
    induction blocks with
    | nil => rfl
    | cons block blocks ih =>
        rw [List.flatMap_cons, readBlocks_lines (some block List.mem_cons_self),
          ih fun other member => some other (List.mem_cons_of_mem block member)]
        rfl

-----------------------------------------------------------------------------------------
-- The rider of the log
-----------------------------------------------------------------------------------------

/-- A flush is on behalf of a restart that prints, or of one report outside speculation. -/
def FlushOrigin (restartType : Int) (ip : Word) : Prop :=
  restartType = -1 ∧ ip = 0
  ∨ ∃ known : RestartType, known.Flushes ∧ restartType = known.code

/-- A block that reports something, from such a flush. -/
structure LogBlock.Flushes (block : LogBlock) : Prop where
  bugs : block.bugs ≠ []
  origin : FlushOrigin block.restartType block.checkpointIp

/-- The log is `base` and whole blocks. -/
def Logged (base printed : List Printed) : Prop :=
  ∃ blocks : List LogBlock,
    (∀ block ∈ blocks, block.Flushes) ∧ printed = base ++ blocks.flatMap LogBlock.lines

/-- The log is `base`, whole blocks and the beginning of one more. -/
def LoggedPart (base printed : List Printed) : Prop :=
  ∃ (log : List Printed) (block : LogBlock) (lines : List Printed),
    Logged base log ∧ lines <+: block.lines ∧ printed = log ++ lines

variable {base printed : List Printed} {before after : Reports} {ip : Word} {restartType : Int}

theorem Logged.part (h : Logged base printed) : LoggedPart base printed :=
  ⟨printed, ⟨[], 0, 0, 0, 0⟩, [], h, List.nil_prefix, (List.append_nil _).symm⟩

/-- A flush adds one more block, or none where nothing was to be printed. -/
theorem Logged.flushed (h : Logged base before.printed)
    (flushed : Flushed ip restartType before after) (origin : FlushOrigin restartType ip)
    : Logged base after.printed := by
  rcases flushed with ⟨_, rfl⟩ | ⟨_, _, _, bugs, syscallNr, specLength, _, lines⟩
  · exact h
  by_cases none : bugs = []
  · rw [lines, printedBlock, if_pos none, List.append_nil]
    exact h
  obtain ⟨blocks, flushes, earlier⟩ := h
  refine ⟨blocks ++ [⟨bugs, syscallNr, ip, restartType, specLength⟩], ?_, ?_⟩
  · intro block member
    rcases List.mem_append.mp member with earlier | last
    · exact flushes block earlier
    · rw [List.mem_singleton.mp last]
      exact ⟨none, origin⟩
  · rw [lines, earlier, List.flatMap_append, List.flatMap_singleton, LogBlock.lines,
      List.append_assoc]

/-- A flush that ended the run has printed the beginning of a block. -/
theorem Logged.partFlushed (h : Logged base before.printed)
    (part : PartFlushed ip restartType before printed)
    : LoggedPart base printed := by
  obtain ⟨bugs, syscallNr, specLength, lines, _, started, rfl⟩ := part
  exact ⟨_, ⟨bugs, syscallNr, ip, restartType, specLength⟩, lines, h, started, rfl⟩

/-- The queue is tidy, and the log whole since `base`. -/
structure Logs (base : List Printed) (s : Rt) : Prop where
  tidy : s.reports.Tidy
  logged : Logged base s.reports.printed

theorem Logs.congr {s t : Rt} (h : Logs base s) (reports : t.reports = s.reports)
    : Logs base t :=
  ⟨reports ▸ h.tidy, reports ▸ h.logged⟩

theorem Logs.flushed {s t : Rt} (h : Logs base s) (tidy : before.Tidy)
    (same : before.printed = s.reports.printed)
    (flushed : Flushed ip restartType before t.reports) (origin : FlushOrigin restartType ip)
    : Logs base t where
  tidy := (tidy.flushed flushed).1
  logged := Logged.flushed (same ▸ h.logged) flushed origin

/-- The rider of the log. -/
def Rider.logs (kernel : Kernel) (base : List Printed) : Rider kernel where
  holds := Logs base
  rolls := Logs base
  landed := Logs base
  resumed := Logs base
  replay := fun _ _ _ => True
  admits := fun _ _ => True
  spares := fun _ => True
  admitsBlock := fun _ => True
  admitsDepth := True
  admitsFrame := fun _ _ => True
  admitsRegisters := fun _ => True
  admitsBug := fun _ => True
  admitsMemory := fun _ _ => True
  readsFrames := False
  ended := LoggedPart base
  section_ := fun _ _ _ h => h.congr rfl
  counters := fun _ _ h => h.congr rfl
  metered := fun _ _ h _ _ => h.congr rfl
  failed := fun _ _ h _ _ => h.congr rfl
  appended := fun _ _ _ _ h _ _ _ => h.congr rfl
  scratched := fun _ _ h _ => h.congr rfl
  counted := fun _ _ _ h _ => h.congr rfl
  redepth := fun _ _ h _ _ => h.congr rfl
  checkpointed := fun _ _ _ h _ => h.congr rfl
  framed := fun _ _ _ _ h _ => h.congr rfl
  registered := fun _ _ _ h _ => h.congr rfl
  cpu := fun _ _ h => h.congr rfl
  written := fun _ _ h _ => h.congr rfl
  clobbered := fun s _ _ h _ below occupied =>
    absurd (h.tidy.free _ (Nat.le_refl _) (h.tidy.size ▸ below)) occupied
  reported := fun _ bug h _ _ _ _ => ⟨h.tidy.filled bug, h.logged⟩
  printed := fun _ bug _ h _ _ _ flushed =>
    h.flushed (h.tidy.filled bug) rfl flushed (Or.inl ⟨rfl, rfl⟩)
  admits_busy := fun _ _ _ _ _ => True.intro
  admits_flush := fun _ _ _ _ => True.intro
  nested := fun _ _ _ h _ _ _ => h.congr rfl
  rolls_of_holds := fun _ h _ => h
  doomed := fun _ _ h _ _ reports _ => h.congr reports
  rolls_written := fun _ _ _ h _ => h.congr rfl
  starts := fun _ _ => True.intro
  rules := fun s skip _ _ => .vacuous _ skip s
  stopped := fun _ _ _ _ h _ replaying => h.congr replaying.reports
  rolledBack := by
    intro s stats restartType u t _ h _ _ replayed _ landed
    have reports : (u.discarded kernel).reports = s.reports := replayed.reports
    by_cases flushes : restartType.Flushes
    · have flushed := landed.flushed flushes
      rw [reports] at flushed
      exact h.flushed h.tidy rfl flushed (Or.inr ⟨restartType, flushes, rfl⟩)
    · exact h.congr ((landed.pending flushes).trans reports)
  jumped := fun _ h => h.congr rfl
  returned := fun _ _ h _ => h.congr rfl
  ended_holds := fun _ h => h.logged.part
  ended_rolls := fun _ h => h.logged.part
  ended_landed := fun _ h => h.logged.part
  ended_rolled := fun _ _ _ h _ part => h.logged.partFlushed part
  ended_printed := fun _ _ _ h _ _ _ part => Logged.partFlushed (by exact h.logged) part

theorem Rider.logs_lenient (kernel : Kernel) (base : List Printed)
    : (Rider.logs kernel base).Lenient where
  spares := fun _ => True.intro
  frame := fun _ _ => True.intro
  memory := fun _ _ => True.intro
  frames := id

theorem Rider.logs_admitted {kernel : Kernel} {s : Rt} {event : Event}
    (placed : event.action.Placed kernel)
    : event.Admitted kernel (Rider.logs kernel base) s :=
  (Rider.logs_lenient kernel base).admitted {
    placed
    block := fun _ _ => True.intro
    depth := fun _ => True.intro
    restarts := fun _ _ => True.intro
    registers := fun _ _ => True.intro
    bug := fun _ _ _ => True.intro }

-----------------------------------------------------------------------------------------
-- Runs
-----------------------------------------------------------------------------------------

section
variable {kernel : Kernel} {m n : Machine}

theorem MachineInv.logs (inv : MachineInv kernel (Rider.logs kernel base) m)
    (alive : m.phase ≠ .stopped)
    : Logs base m.rt := by
  cases phase : m.phase with
  | running => exact (inv.running phase).holds
  | faulted =>
      have standing := inv.faulted phase
      cases spec : m.rt.inSpeculativeEmulation with
      | true => exact standing.rolls spec
      | false => exact standing.holds spec
  | stopped => exact absurd phase alive

/-- From boot on the log is whole blocks wherever the kernel runs. -/
theorem Reached.logs (reached : Reached kernel m) (alive : m.phase ≠ .stopped)
    : Logs [] m.rt := by
  obtain ⟨env, heap, switches, mem, cpu, irqsEnabled, s, rfl, fits, booted, run⟩ := reached
  have booted : Booted env.kernel switches s := (commonLateInit_booted fits).of_ok booted
  have empty : Logs [] s := by
    refine ⟨⟨booted.size, fun i _ => booted.slots i⟩, [], by simp, ?_⟩
    rw [booted.printed]
    rfl
  have inv := run.inv (X := Rider.logs env.kernel []) (booted.machineInv empty)
    (fun _ _ placed _ => Rider.logs_admitted placed) (fun _ _ _ resumed => resumed)
  exact inv.logs alive

/-- A run adds whole blocks, and where it ended for good the beginning of one more. -/
theorem Run.logs (reached : Reached kernel m) (alive : m.phase ≠ .stopped)
    (run : Run kernel (fun event _ => event.action.Placed kernel) m n)
    : LoggedPart m.rt.reports.printed n.rt.reports.printed
      ∧ (n.phase ≠ .stopped
        → MachineInv kernel (Rider.logs kernel m.rt.reports.printed) n) := by
  induction run with
  | refl =>
      have start : Logs m.rt.reports.printed m.rt :=
        ⟨(reached.logs alive).tidy, [], by simp, (List.append_nil _).symm⟩
      refine ⟨start.logged.part, fun _ => ?_⟩
      refine ⟨reached.inv.consistent, fun phase => ?_, fun phase => ?_⟩
      · have inv := reached.inv.running phase
        exact ⟨inv.coherent, inv.consistent, start⟩
      · have standing := reached.inv.faulted phase
        exact ⟨standing.coherent, standing.consistent, fun _ => start, fun _ => start⟩
  | @step k next event _ placed steps ih =>
      have stepped := (ih.2 (Machine.alive_of_step steps)).step (Rider.logs_admitted placed) steps
      have inv := stepped.inv (fun _ _ resumed => resumed)
      refine ⟨?_, fun _ => inv⟩
      by_cases stopped : next.phase = .stopped
      · exact stepped.stopped stopped
      · exact (inv.logs stopped).logged.part

end

/-- In every run from a reachable machine the report lines of the kernel log only grow. They
read as whole blocks, each with a report and from a flush that prints, those of the machine
it began with first; only a kernel that stopped for good may have left the beginning of one
more.
-/
theorem kernelLog_reads {kernel : Kernel} {m n : Machine} (reached : Reached kernel m)
    (alive : m.phase ≠ .stopped)
    (run : Run kernel (fun event _ => event.action.Placed kernel) m n)
    : ∃ (blocks more : List LogBlock) (last : LogBlock) (rest : List Printed),
        readBlocks none m.rt.reports.printed = some blocks
        ∧ n.rt.reports.printed
          = m.rt.reports.printed ++ more.flatMap LogBlock.lines ++ rest
        ∧ readBlocks none (m.rt.reports.printed ++ more.flatMap LogBlock.lines)
          = some (blocks ++ more)
        ∧ (∀ block ∈ blocks ++ more, block.Flushes)
        ∧ rest <+: last.lines
        ∧ (n.phase ≠ .stopped → rest = []) := by
  obtain ⟨blocks, flushes, printed⟩ := (reached.logs alive).logged
  rw [List.nil_append] at printed
  obtain ⟨part, inv⟩ := Run.logs reached alive run
  have before : readBlocks none m.rt.reports.printed = some blocks :=
    readBlocks_iff.mpr ⟨fun block member => (flushes block member).bugs, printed⟩
  have all {more : List LogBlock} (later : ∀ block ∈ more, block.Flushes)
      : ∀ block ∈ blocks ++ more, block.Flushes := by
    intro block member
    exact (List.mem_append.mp member).elim (flushes block) (later block)
  have reads {more : List LogBlock} (later : ∀ block ∈ more, block.Flushes)
      : readBlocks none (m.rt.reports.printed ++ more.flatMap LogBlock.lines)
        = some (blocks ++ more) := by
    refine readBlocks_iff.mpr ⟨fun block member => (all later block member).bugs, ?_⟩
    rw [printed, List.flatMap_append]
  by_cases stopped : n.phase = .stopped
  · obtain ⟨_, last, rest, ⟨more, later, rfl⟩, started, lines⟩ := part
    exact ⟨blocks, more, last, rest, before, lines, reads later, all later, started,
      fun alive => absurd stopped alive⟩
  · obtain ⟨more, later, lines⟩ := ((inv stopped).logs stopped).logged
    refine ⟨blocks, more, ⟨[], 0, 0, 0, 0⟩, [], before, ?_, reads later, all later,
      List.nil_prefix, fun _ => rfl⟩
    rw [lines, List.append_nil]

/-- The restart that ends the episode of the sample's report. -/
def sampleFlush : Event := sampleEvent (.restart .restartCall 0)

theorem kernelLog_reads_sample
    : ∃ (blocks more : List LogBlock) (last : LogBlock) (rest : List Printed),
        readBlocks none sampleReported.rt.reports.printed = some blocks
        ∧ (machineAfter [sampleFlush] sampleReported).rt.reports.printed
          = sampleReported.rt.reports.printed ++ more.flatMap LogBlock.lines ++ rest
        ∧ readBlocks none (sampleReported.rt.reports.printed ++ more.flatMap LogBlock.lines)
          = some (blocks ++ more)
        ∧ (∀ block ∈ blocks ++ more, block.Flushes)
        ∧ rest <+: last.lines
        ∧ ((machineAfter [sampleFlush] sampleReported).phase ≠ .stopped → rest = []) := by
  refine kernelLog_reads (sampleOpen_reached.after sampleReport True.intro (by decide))
    (by decide) ?_
  exact Run.refl.after sampleFlush True.intro (by decide)

/-- Its block, as it is read. -/
example
    : readBlocks none (machineAfter [sampleFlush] sampleReported).rt.reports.printed
      = some
          [⟨[makeBug sampleKernel true 0 0x600000 8 false 0x400123 0 0 .kasanAccess], 0, 0x400200,
            1, 0⟩] := by
  rfl

end Kasper
