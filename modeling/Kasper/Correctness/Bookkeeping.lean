import Kasper.Correctness.Assertions

/-! Statistics and reports are bookkeeping: the functions that keep them change no other
variable. Reports are printed outside speculation, where a failing assertion ends the run.
-/

namespace Kasper

open ByteMemory Exits

/-- `t` is `u` with other statistics. -/
def OnlyStats (u t : Rt) : Prop :=
  t = { u with stats := t.stats }

def TableId.OfStatistics : TableId → Prop
  | .specStatistics | .totalStatistics | .inlineasmRestartStats => True
  | _ => False

/-- An access past the end of a statistics table. -/
def StatsExit (u : Rt) (e : Exit) (t : Rt) : Prop :=
  (∃ table : TableId, table.OfStatistics ∧ e = .outOfBounds table) ∧ OnlyStats u t

namespace OnlyStats

variable {u t : Rt}

theorem refl (u : Rt) : OnlyStats u u := rfl

theorem stats (h : OnlyStats u t) (stats : Statistics) : OnlyStats u { t with stats } := by
  unfold OnlyStats at *
  rw [h]

end OnlyStats

section
variable {u : Rt}

theorem fetch_stats {α : Type} {name : TableId} (ours : name.OfStatistics) (table : Table α)
    (index : Nat)
    : Keeps (OnlyStats u) (StatsExit u) (fetch name table index) := by
  intro t start
  rw [ends_fetch]
  exact ⟨fun _ => start, fun _ => ⟨⟨name, ours, rfl⟩, start⟩⟩

theorem checkBounds_stats {α : Type} {name : TableId} (ours : name.OfStatistics)
    (table : Table α) (index : Nat)
    : Keeps (OnlyStats u) (StatsExit u) (checkBounds name table index) := by
  intro t start
  rw [ends_checkBounds]
  exact ⟨fun _ => start, fun _ => ⟨⟨name, ours, rfl⟩, start⟩⟩

/-- The bound `kspecem_add_spec_statistics` asserts is the one it just tested. -/
theorem addSpecStatistics_stats {onFail : SpecAssert → RtM Unit} (funcType : FuncType)
    (arg1 : Word) (arg2 : Int) (arg3 : Word)
    (returnAddr : Address)
    : Keeps (OnlyStats u) (StatsExit u)
        (addSpecStatistics onFail funcType arg1 arg2 arg3 returnAddr) := by
  refine keeps_get_bind fun t start => ?_
  refine keeps_ite (fun _ => keeps_pure _) (fun room => ?_) t start
  refine keeps_bind (fun t start => ?_) (fun _ => ?_)
  · exact ends_ltAssert (fun _ => start) (fun past => absurd (Nat.lt_of_not_le room) past)
  · exact keeps_bind (checkBounds_stats (by exact trivial) _ _)
      fun _ => keeps_modify fun _ start => start.stats _

theorem putInlineasmStat_stats (index : Nat) (row : InlineasmRestartStat)
    : Keeps (OnlyStats u) (StatsExit u) (putInlineasmStat index row) :=
  keeps_get_bind fun t start =>
    keeps_bind (checkBounds_stats (by exact trivial) _ _)
      (fun _ => keeps_modify fun _ start => start.stats _)
      t start

theorem shiftInlineasmStats_stats (tmp : InlineasmRestartStat) (i : Nat)
    : Keeps (OnlyStats u) (StatsExit u) (shiftInlineasmStats tmp i) := by
  induction i with
  | zero => exact keeps_pure _
  | succ i ih =>
      refine keeps_get_bind fun t start => ?_
      refine keeps_bind (fetch_stats (by exact trivial) _ _) (fun row => ?_) t start
      refine keeps_ite (fun _ => ?_) (fun _ => keeps_pure _)
      exact keeps_bind (putInlineasmStat_stats _ _) fun _ =>
        keeps_bind (putInlineasmStat_stats _ _) fun _ => ih

theorem findInlineasmStat_stats (ip : Address) (left i : Nat)
    : Keeps (OnlyStats u) (StatsExit u) (findInlineasmStat ip left i) := by
  induction left generalizing i with
  | zero => exact keeps_pure _
  | succ left ih =>
      refine keeps_get_bind fun t start => ?_
      refine keeps_bind (fetch_stats (by exact trivial) _ _) (fun row => ?_) t start
      refine keeps_ite (fun _ => ?_) (fun _ => ih _)
      exact keeps_bind (putInlineasmStat_stats _ _) fun _ =>
        keeps_bind (shiftInlineasmStats_stats _ _) fun _ => keeps_pure _

theorem addInlineasmRestart_stats (ip : Address)
    : Keeps (OnlyStats u) (StatsExit u) (addInlineasmRestart ip) := by
  refine keeps_get_bind fun t start => ?_
  refine keeps_bind (findInlineasmStat_stats _ _ _) (fun found => ?_) t start
  refine keeps_ite (fun _ => keeps_pure _) (fun _ => ?_)
  refine keeps_ite (fun _ => keeps_pure _) (fun _ => ?_)
  exact keeps_bind (putInlineasmStat_stats _ _) fun _ => keeps_modify fun _ start => start.stats _

theorem addRestartToStatistics_stats (restartType : RestartType)
    (callArg : Address)
    : Keeps (OnlyStats u) (StatsExit u) (addRestartToStatistics restartType callArg) := by
  refine keeps_get_bind fun t start => ?_
  refine keeps_bind (checkBounds_stats (by exact trivial) _ _) (fun _ => ?_) t start
  refine keeps_bind (keeps_modify fun _ start => start.stats _) (fun _ => ?_)
  refine keeps_ite (fun _ => ?_) (fun _ => keeps_pure _)
  refine keeps_get_bind fun v kept => ?_
  exact keeps_ite (fun _ => addInlineasmRestart_stats _) (fun _ => keeps_pure _) v kept

end

/-- `t` is `u` with other reports. -/
def OnlyReports (u t : Rt) : Prop :=
  t = { u with reports := t.reports }

/-- `t` is `u` with another deduplication map. -/
def OnlyMap (u t : Rt) : Prop :=
  t = { u with reports := { u.reports with previousBugsMap := t.reports.previousBugsMap } }

/-- The ways a flush can end the run. -/
def Exit.OfReports : Exit → Prop
  | .panicked _ => True
  | .outOfBounds .bugs | .outOfBounds .previousBugsMap | .outOfBounds .previousBugsBlock => True
  | .stackOverflow => True
  | _ => False

/-- Deciding on a report of `u` ends the run in a state that differs in the deduplication
map and failures only.
-/
structure MapExit (u : Rt) (e : Exit) (t : Rt) : Prop where
  ours : e.OfReports
  frame : t = { u with reports := t.reports, asserted := t.asserted }
  failures : ∀ failed ∈ t.asserted, failed ∈ u.asserted ∨ failed.file = "kspecem_bugs.c"
  printed : t.reports.printed = u.reports.printed

theorem Exit.OfReports.final {e : Exit} (h : e.OfReports) : e.Final := by
  cases e with
  | resumed => exact h
  | fault isWrite => exact h
  | panicked reason => trivial
  | outOfBounds table => trivial
  | stackOverflow => trivial
  | diverged => trivial

theorem OnlyMap.onlyReports {u t : Rt} (h : OnlyMap u t) : OnlyReports u t := by
  unfold OnlyReports
  rw [h]

theorem OnlyReports.trans {u t v : Rt} (first : OnlyReports u t) (second : OnlyReports t v)
    : OnlyReports u v := by
  unfold OnlyReports
  rw [second, first]

section
variable {env : Env} {onFail : SpecAssert → RtM Unit} {u : Rt}

theorem ltAssert_map (loud : FailsLoudly onFail) (idle : u.inSpeculativeEmulation = false)
    {holds : Prop} [Decidable holds] (line : Nat) (condition : String)
    : Keeps (OnlyMap u) (MapExit u)
        (ltAssert onFail holds "kspecem_bugs.c" line condition) := by
  intro t start
  refine ends_ltAssert (fun _ => start) (fun _ => ?_)
  have idle : t.inSpeculativeEmulation = false := by
    rw [start]
    exact idle
  refine (loud _ t idle).imp (fun _ _ no => no.elim) ?_
  rintro e v ⟨exit, rfl⟩
  refine ⟨?_, ?_, ?_, ?_⟩
  · rcases exit with rfl | rfl <;> trivial
  · rw [start]
  · intro failed member
    rcases List.mem_cons.mp member with rfl | older
    · exact Or.inr rfl
    · rw [start] at older
      exact Or.inl older
  · rw [start]

theorem fetch_map {α : Type} {name : TableId} (ours : (Exit.outOfBounds name).OfReports)
    (table : Table α) (index : Nat)
    : Keeps (OnlyMap u) (MapExit u) (fetch name table index) := by
  intro t start
  rw [ends_fetch]
  refine ⟨fun _ => start, fun _ => ⟨ours, ?_, fun failed member => ?_, ?_⟩⟩
  · rw [start]
  · rw [start] at member
    exact Or.inl member
  · rw [start]

theorem getOffsetByIp_map (loud : FailsLoudly onFail)
    (idle : u.inSpeculativeEmulation = false) (ip : Address)
    : Keeps (OnlyMap u) (MapExit u) (getOffsetByIp env onFail ip) :=
  keeps_bind (ltAssert_map loud idle _ _) fun _ =>
    keeps_bind (ltAssert_map loud idle _ _) fun _ => keeps_pure _

theorem previousBugs_map (offset : Word)
    : Keeps (OnlyMap u) (MapExit u) (previousBugs offset) :=
  keeps_get_bind fun t start =>
    keeps_bind (fetch_map (by exact trivial) _ _) (fun _ => fetch_map (by exact trivial) _ _)
      t start

theorem bugAlreadyReported_map (loud : FailsLoudly onFail)
    (idle : u.inSpeculativeEmulation = false) (bug : Bug)
    : Keeps (OnlyMap u) (MapExit u) (bugAlreadyReported env onFail bug) :=
  keeps_bind (getOffsetByIp_map loud idle _) fun _ =>
    keeps_bind (previousBugs_map _) fun _ => keeps_pure _

theorem bugSetIpAsReported_map (loud : FailsLoudly onFail)
    (idle : u.inSpeculativeEmulation = false) (bug : Bug)
    : Keeps (OnlyMap u) (MapExit u) (bugSetIpAsReported env onFail bug) := by
  refine keeps_bind (getOffsetByIp_map loud idle _) fun _ =>
    keeps_bind (previousBugs_map _) fun _ => keeps_modify fun _ start => ?_
  unfold OnlyMap at *
  rw [start]

/-- Deciding on a report changes the deduplication map only. -/
theorem shouldReportAccessBug_map (loud : FailsLoudly onFail)
    (idle : u.inSpeculativeEmulation = false) (bug : Bug)
    : Keeps (OnlyMap u) (MapExit u) (shouldReportAccessBug env onFail bug) := by
  refine keeps_get_bind fun t start => ?_
  refine keeps_ite (fun _ => keeps_pure _) (fun _ => ?_) t start
  refine keeps_ite (fun _ => keeps_pure _) (fun _ => ?_)
  refine keeps_bind (ltAssert_map loud idle _ _) (fun _ => ?_)
  refine keeps_bind (bugAlreadyReported_map loud idle bug) (fun reported => ?_)
  refine keeps_ite (fun _ => keeps_pure _) (fun _ => ?_)
  exact keeps_bind (bugSetIpAsReported_map loud idle bug) (fun _ => keeps_pure _)

-----------------------------------------------------------------------------------------
-- Flushing
-----------------------------------------------------------------------------------------

/-- The report list as `kspecem_report_clear_globals` leaves it. -/
def Reports.Cleared (reports : Reports) : Prop :=
  reports.nextBugIndex = 0 ∧ ∀ i < bugsListSize, reports.bugs.cell i = Bug.zero

/-- The bug waits in the report list. -/
def Reports.Pending (reports : Reports) (bug : Bug) : Prop :=
  ∃ i < reports.nextBugIndex, reports.bugs.cell i = bug

/-- The report list after one more report was recorded. -/
def Reports.filled (reports : Reports) (bug : Bug) : Reports :=
  { reports with
    nextBugIndex := reports.nextBugIndex + 1
    bugs := reports.bugs.put reports.nextBugIndex bug }

/-- The lines printed before the end line of a flush. -/
def openBlock (bugs : List Bug) : List Printed :=
  if bugs = [] then [] else .restartBegin :: bugs.map .accessBug

/-- The lines of one flush: nothing, or bugs between a begin and an end line. -/
def printedBlock (bugs : List Bug) (final : Printed) : List Printed :=
  if bugs = [] then [] else openBlock bugs ++ [final]

/-- `after` is `before` once its pending reports were printed, if any, and cleared. -/
def Flushed (ip : Word) (restartType : Int) (before after : Reports) : Prop :=
  (before.nextBugIndex = 0 ∧ after = before)
  ∨ (before.nextBugIndex ≠ 0
    ∧ after.Cleared
    ∧ after.bugs.size = before.bugs.size
    ∧ ∃ bugs syscallNr specLength,
        (∀ bug ∈ bugs, before.Pending bug)
        ∧ after.printed
          = before.printed
            ++ printedBlock bugs (.restartEnd syscallNr ip restartType specLength))

/-- `printed` is what `before` had printed and a part of one flush of its pending reports. -/
def PartFlushed (ip : Word) (restartType : Int) (before : Reports) (printed : List Printed)
    : Prop :=
  ∃ bugs syscallNr specLength lines,
    (∀ bug ∈ bugs, before.Pending bug)
    ∧ lines <+: printedBlock bugs (.restartEnd syscallNr ip restartType specLength)
    ∧ printed = before.printed ++ lines

theorem PartFlushed.none {ip : Word} {restartType : Int} {before : Reports}
    : PartFlushed ip restartType before before.printed :=
  ⟨[], 0, 0, [], by simp, List.nil_prefix, (List.append_nil _).symm⟩

theorem Flushed.part {ip : Word} {restartType : Int} {before after : Reports}
    (h : Flushed ip restartType before after)
    : PartFlushed ip restartType before after.printed := by
  rcases h with ⟨_, rfl⟩ | ⟨_, _, _, bugs, syscallNr, specLength, pending, printed⟩
  · exact .none
  · exact ⟨bugs, syscallNr, specLength, _, pending, List.prefix_rfl, printed⟩

/-- A flush of `u` ends the run in a state that differs in reports and failures only. -/
structure FlushExit (ip : Word) (restartType : Int) (u : Rt) (e : Exit) (t : Rt) : Prop where
  ours : e.OfReports
  frame : t = { u with reports := t.reports, asserted := t.asserted }
  failures : ∀ failed ∈ t.asserted, failed ∈ u.asserted ∨ failed.file = "kspecem_bugs.c"
  printed : PartFlushed ip restartType u.reports t.reports.printed

/-- Leaving for good without a failed assertion. -/
theorem OnlyReports.exit {ip : Word} {restartType : Int} {u t : Rt} (h : OnlyReports u t)
    {e : Exit} (ours : e.OfReports)
    (printed : PartFlushed ip restartType u.reports t.reports.printed)
    : FlushExit ip restartType u e t := by
  refine ⟨ours, ?_, ?_, printed⟩
  · rw [h]
  · intro failed member
    rw [h] at member
    exact Or.inl member

/-- `t` is in the middle of flushing `u`: it has printed `bugs`. -/
structure Flushing (u : Rt) (bugs : List Bug) (t : Rt) : Prop where
  frame : OnlyReports u t
  index : t.reports.nextBugIndex = u.reports.nextBugIndex
  list : t.reports.bugs = u.reports.bugs
  printed : t.reports.printed = u.reports.printed ++ openBlock bugs
  pending : ∀ bug ∈ bugs, u.reports.Pending bug

/-- What has been printed so far is a part of the flush. -/
theorem Flushing.part {bugs : List Bug} {t : Rt} (h : Flushing u bugs t) (ip : Word)
    (restartType : Int)
    : PartFlushed ip restartType u.reports t.reports.printed := by
  refine ⟨bugs, 0, 0, openBlock bugs, h.pending, ?_, h.printed⟩
  by_cases none : bugs = []
  · simp [openBlock, none]
  · simp [printedBlock, none]

/-- Deciding on a report may end the flush. -/
theorem Flushing.exit {bugs : List Bug} {t v : Rt} {e : Exit} (h : Flushing u bugs t)
    (exit : MapExit t e v) (ip : Word) (restartType : Int)
    : FlushExit ip restartType u e v := by
  obtain ⟨ours, frame, failures, printed⟩ := exit
  refine ⟨ours, ?_, ?_, ?_⟩
  · rw [frame, h.frame]
  · intro failed member
    have older := failures failed member
    rw [h.frame] at older
    exact older
  · rw [printed]
    exact h.part ip restartType

theorem Flushing.map {bugs : List Bug} {t v : Rt} (h : Flushing u bugs t) (map : OnlyMap t v)
    : Flushing u bugs v where
  frame := h.frame.trans map.onlyReports
  index := by
    rw [map]
    exact h.index
  list := by
    rw [map]
    exact h.list
  printed := by
    rw [map]
    exact h.printed
  pending := h.pending

/-- Printing one more bug, with the begin line before the first one. -/
theorem Flushing.print {bugs : List Bug} {t : Rt} {bug : Bug} (h : Flushing u bugs t)
    (pending : u.reports.Pending bug)
    : Flushing u (bugs ++ [bug])
        { t with
          reports :=
            { t.reports with
              printed :=
                t.reports.printed
                  ++ (if bugs = [] then [.restartBegin] else [])
                  ++ [.accessBug bug] } } where
  frame := by
    have frame := h.frame
    unfold OnlyReports at *
    rw [frame]
  index := h.index
  list := h.list
  printed := by
    rw [h.printed]
    by_cases none : bugs = []
    · simp [openBlock, none]
    · simp [openBlock, none]
  pending := by
    intro other member
    rcases List.mem_append.mp member with earlier | last
    · exact h.pending other earlier
    · rw [List.mem_singleton.mp last]
      exact pending

/-- The loop prints pending bugs only, by induction on the bugs left. -/
theorem printReports_flush (loud : FailsLoudly onFail)
    (idle : u.inSpeculativeEmulation = false) (ip : Word) (restartType : Int)
    {left i : Nat} {bugs : List Bug} {t : Rt}
    (bound : i + left ≤ u.reports.nextBugIndex) (start : Flushing u bugs t)
    : Ends (printReports env onFail left i (!bugs.isEmpty))
        (fun printed v => ∃ all : List Bug, printed = !all.isEmpty ∧ Flushing u all v)
        (FlushExit ip restartType u) t := by
  induction left generalizing i bugs t with
  | zero => exact ⟨bugs, rfl, start⟩
  | succ left ih =>
      have idle : t.inSpeculativeEmulation = false := by
        rw [start.frame]
        exact idle
      rw [printReports, ends_bind, ends_get, ends_bind, ends_fetch]
      refine ⟨fun _ => ?_, fun _ => start.frame.exit trivial (start.part ip restartType)⟩
      have pending : u.reports.Pending (t.reports.bugs.cell i) := by
        rw [start.list]
        exact ⟨i, by omega, rfl⟩
      generalize t.reports.bugs.cell i = bug at pending ⊢
      refine Ends.bind ((shouldReportAccessBug_map loud idle bug t rfl).imp
        (fun _ _ map => map) (fun _ _ exit => start.exit exit ip restartType)) ?_
      intro report v map
      have start := start.map map
      rw [ends_ite]
      refine ⟨fun _ => ?_, fun _ => ih (by omega) start⟩
      -- `w` is the state once the marker of a first bug was printed, if this is one
      have print (w : Rt)
          (opened
            : w
              = { v with
                  reports :=
                    { v.reports with
                      printed :=
                        v.reports.printed ++ (if bugs = [] then [.restartBegin] else []) } })
          : Ends (do reportPrintAccessBug bug; printReports env onFail left (i + 1) true)
              (fun printed v => ∃ all : List Bug, printed = !all.isEmpty ∧ Flushing u all v)
              (FlushExit ip restartType u) w := by
        have frame : OnlyReports u w := by
          have frame := start.frame
          unfold OnlyReports at *
          rw [opened, frame]
        have part : PartFlushed ip restartType u.reports w.reports.printed := by
          rw [opened]
          by_cases none : bugs = []
          · refine ⟨[bug], 0, 0, [.restartBegin], by simpa using pending, ?_, ?_⟩
            · simp [printedBlock, openBlock]
            · simp [start.printed, openBlock, none]
          · simp only [if_neg none, List.append_nil]
            exact start.part ip restartType
        rw [ends_bind, reportPrintAccessBug, ends_ite]
        refine ⟨fun _ => frame.exit trivial part, fun _ => ?_⟩
        have next := ih (i := i + 1) (by omega) (start.print pending)
        have nonempty : (!(bugs ++ [bug]).isEmpty) = true := by simp
        rw [nonempty] at next
        rw [printLine, ends_modify, opened]
        exact next
      simp only [Bool.not_not]
      cases none : bugs.isEmpty with
      | true =>
          have none := List.isEmpty_iff.mp none
          rw [if_pos rfl, ends_bind, printLine, ends_modify]
          exact print _ (by rw [if_pos none])
      | false =>
          have some := List.isEmpty_eq_false_iff.mp none
          rw [if_neg (by decide)]
          exact print _ (by rw [if_neg some, List.append_nil])

/-- Clearing the report list leaves no report waiting. -/
theorem reportClearGlobals_clears (s : Rt)
    : Ends reportClearGlobals
        (fun _ t =>
          OnlyReports s t
          ∧ t.reports.Cleared
          ∧ t.reports.bugs.size = s.reports.bugs.size
          ∧ t.reports.printed = s.reports.printed)
        (fun e t => e.OfReports ∧ t = s) s := by
  rw [reportClearGlobals, ends_bind, ends_get, ends_ite]
  refine ⟨fun _ => ⟨trivial, rfl⟩, fun _ => ?_⟩
  rw [ends_modify]
  refine ⟨rfl, ⟨rfl, fun i below => ?_⟩, rfl, rfl⟩
  exact if_pos below

/-- Outside speculation the pending reports are printed, if any are to be, and cleared. -/
theorem reportPrintAndClear_flushes (loud : FailsLoudly onFail)
    (idle : u.inSpeculativeEmulation = false) {calledFromRestart : Bool} {ip : Word}
    (restartType : Int) (checkpoint : (if calledFromRestart then u.registers .rip else 0) = ip)
    : Ends (reportPrintAndClear env onFail calledFromRestart restartType)
        (fun _ t => OnlyReports u t ∧ Flushed ip restartType u.reports t.reports)
        (FlushExit ip restartType u) u := by
  rw [reportPrintAndClear, ends_bind, ends_get, checkpoint, ends_ite]
  refine ⟨fun none => ⟨rfl, Or.inl ⟨none, rfl⟩⟩, fun some => ?_⟩
  have start : Flushing u [] u := ⟨rfl, rfl, rfl, by simp [openBlock], by simp⟩
  refine Ends.bind (printReports_flush loud idle ip restartType (by omega) start) ?_
  rintro _ t ⟨bugs, rfl, flushing⟩
  -- the list is cleared the same way whether or not a block was opened
  have clear (w : Rt) (frame : OnlyReports u w)
      (printed
        : ∃ syscallNr specLength,
            w.reports.printed
              = u.reports.printed
                ++ printedBlock bugs (.restartEnd syscallNr ip restartType specLength))
      (size : w.reports.bugs.size = u.reports.bugs.size)
      : Ends reportClearGlobals
          (fun _ t => OnlyReports u t ∧ Flushed ip restartType u.reports t.reports)
          (FlushExit ip restartType u) w := by
    obtain ⟨syscallNr, specLength, printed⟩ := printed
    refine (reportClearGlobals_clears w).imp ?_ ?_
    · rintro _ v ⟨same, cleared, sameSize, kept⟩
      refine ⟨frame.trans same, Or.inr ⟨some, cleared, sameSize.trans size, bugs, ?_⟩⟩
      exact ⟨syscallNr, specLength, flushing.pending, kept.trans printed⟩
    · rintro e v ⟨ours, rfl⟩
      refine frame.exit ours ⟨bugs, syscallNr, specLength, _, flushing.pending, ?_, printed⟩
      exact List.prefix_rfl
  have printed := flushing.printed
  have list : t.reports.bugs.size = u.reports.bugs.size := by rw [flushing.list]
  cases none : bugs.isEmpty with
  | true =>
      have none := List.isEmpty_iff.mp none
      rw [if_neg (by decide)]
      refine clear t flushing.frame ⟨0, 0, ?_⟩ list
      rw [printed, openBlock, printedBlock, if_pos none, if_pos none]
  | false =>
      have some := List.isEmpty_eq_false_iff.mp none
      rw [if_pos (by decide), ends_bind, ends_get, ends_bind, printLine, ends_modify]
      refine clear _ ?_ ⟨env.task.syscallNr, t.speculativeInstrCount, ?_⟩ list
      · have frame := flushing.frame
        unfold OnlyReports at *
        rw [frame]
      · rw [printedBlock, if_neg some, printed, List.append_assoc]

end

end Kasper
