import Kasper.Correctness.Logging
import Kasper.Runtime.Machine

/-! A tour carries a property through the runtime's functions: a property of the variables
listed in `Quiet`, with what is known where control leaves. Restarts, checkpoints and counted
statistics are for each tour to deal with; everything else is dealt with here.
-/

namespace Kasper

open ByteMemory Exits

/-- The pointers to the tables, and the sizes of those that are looked up through another. -/
structure Extents where
  writelogAddrs : Address
  writelogData : Address
  writelogMeta : Address
  wlStack : Address
  bugs : Address
  previousBugsMap : Address
  previousBugsBlocks : Nat
  previousBugsBlock : Nat → Address
  specStatistics : Address
  specStatisticsSize : Nat

def Rt.extents (s : Rt) : Extents where
  writelogAddrs := s.log.addrs.base
  writelogData := s.log.data.base
  writelogMeta := s.log.metas.base
  wlStack := s.stack.stack.base
  bugs := s.reports.bugs.base
  previousBugsMap := s.reports.previousBugsMap.base
  previousBugsBlocks := s.reports.previousBugsMap.size
  previousBugsBlock := fun i => (s.reports.previousBugsMap.cell i).base
  specStatistics := s.stats.specStatistics.base
  specStatisticsSize := s.stats.specStatistics.size

/-- The statistics of restarts, which only a restart changes. -/
structure RestartStats where
  totalStatistics : Table FunctionStats
  inlineasmRestartStatsEnabled : Bool
  inlineasmRestartStats : Table InlineasmRestartStat
  inlineasmRestartStatSize : Nat

def Rt.restartStats (s : Rt) : RestartStats where
  totalStatistics := s.stats.totalStatistics
  inlineasmRestartStatsEnabled := s.stats.inlineasmRestartStatsEnabled
  inlineasmRestartStats := s.stats.inlineasmRestartStats
  inlineasmRestartStatSize := s.stats.inlineasmRestartStatSize

/-- The step from `s` to `t` leaves the variables that tours follow. -/
structure Quiet (s t : Rt) : Prop where
  initDone : t.initDone = s.initDone
  inSpec : t.inSpeculativeEmulation = s.inSpeculativeEmulation
  specAssert : t.specAssert = s.specAssert
  asserted : t.asserted = s.asserted
  extents : t.extents = s.extents
  restartStats : t.restartStats = s.restartStats
  isInRt : t.isInRt = s.isInRt

theorem Quiet.trans {s t u : Rt} (first : Quiet s t) (second : Quiet t u) : Quiet s u where
  initDone := second.initDone.trans first.initDone
  inSpec := second.inSpec.trans first.inSpec
  specAssert := second.specAssert.trans first.specAssert
  asserted := second.asserted.trans first.asserted
  extents := second.extents.trans first.extents
  restartStats := second.restartStats.trans first.restartStats
  isInRt := second.isInRt.trans first.isInRt

/-- The same, but for the section flag. -/
structure Steady (s t : Rt) : Prop where
  inSpec : t.inSpeculativeEmulation = s.inSpeculativeEmulation
  specAssert : t.specAssert = s.specAssert
  asserted : t.asserted = s.asserted
  restartStats : t.restartStats = s.restartStats

theorem Quiet.steady {s t : Rt} (quiet : Quiet s t) : Steady s t :=
  ⟨quiet.inSpec, quiet.specAssert, quiet.asserted, quiet.restartStats⟩

/-- The step from `s` to `t` changes what the stack buffer holds and records only. -/
def Stacked (s t : Rt) : Prop :=
  ∃ (cell : Nat → Byte) (baseAddress : Address) (len : Word),
    t = { s with stack := { stack := { s.stack.stack with cell }, baseAddress, len } }

theorem Stacked.quiet {s t : Rt} (stacked : Stacked s t) : Quiet s t := by
  obtain ⟨cell, baseAddress, len, rfl⟩ := stacked
  exact ⟨rfl, rfl, rfl, rfl, rfl, rfl, rfl⟩

/-- Setting bits of the map moves no table. -/
theorem quiet_setReported (s : Rt) (i j : Nat) (value : BitVec 8)
    : Quiet s
        { s with
          reports :=
            { s.reports with
              previousBugsMap :=
                s.reports.previousBugsMap.put i
                  ((s.reports.previousBugsMap.cell i).put j value) } } := by
  refine ⟨rfl, rfl, rfl, rfl, ?_, rfl, rfl⟩
  simp only [Rt.extents, Extents.mk.injEq, true_and, and_true]
  refine ⟨rfl, rfl, funext fun k => ?_⟩
  by_cases same : k = i
  · rw [same, Table.put_cell_same]
    rfl
  · rw [Table.put_cell_other _ _ same]

/-- A property that quiet steps keep, and that the exits of quiet functions may need. -/
structure Tour (holds : Rt → Prop) (leaves : Exit → Rt → Prop) : Prop where
  quiet : ∀ s t, Quiet s t → holds s → holds t
  final
    : ∀ e s,
        e.Final → e ≠ .diverged → e ≠ .outOfBounds .inlineasmRestartStats → holds s → leaves e s
  stores : ∀ s, holds s → leaves (.fault true) s

section
variable {α : Type} {holds : Rt → Prop} {leaves : Exit → Rt → Prop}
  {onFail : SpecAssert → RtM Unit}

/-- The words can be read, or a read fault may be taken. -/
def LoadsFrom (holds : Rt → Prop) (leaves : Exit → Rt → Prop) (kernel : Kernel)
    (words : List Address)
    : Prop :=
  ∀ w ∈ words,
    ¬kernel.PassesOver w → kernel.ReadableWord w ∨ ∀ s, holds s → leaves (.fault false) s

theorem Tour.modify (tour : Tour holds leaves) {f : Rt → Rt} (quiet : ∀ s, Quiet s (f s))
    : Keeps holds leaves (modify f : RtM Unit) :=
  keeps_modify fun s => tour.quiet s (f s) (quiet s)

theorem Tour.ltPanic (tour : Tour holds leaves) (file text : String)
    : Keeps holds leaves (ltPanic file text) :=
  keeps_throw fun s => tour.final _ s True.intro nofun nofun

theorem Tour.outOfBounds (tour : Tour holds leaves) {name : TableId}
    (other : name ≠ .inlineasmRestartStats := by decide)
    : Keeps holds leaves (throw (.outOfBounds name) : RtM α) :=
  keeps_throw fun s =>
    tour.final _ s True.intro nofun (fun same => other (Exit.outOfBounds.inj same))

theorem Tour.fetch (tour : Tour holds leaves) {name : TableId}
    (table : Table α) (index : Nat) (other : name ≠ .inlineasmRestartStats := by decide)
    : Keeps holds leaves (fetch name table index) :=
  keeps_ite (fun _ => keeps_pure _) (fun _ => tour.outOfBounds other)

theorem Tour.checkBounds (tour : Tour holds leaves) {name : TableId}
    (table : Table α) (index : Nat) (other : name ≠ .inlineasmRestartStats := by decide)
    : Keeps holds leaves (checkBounds name table index) :=
  keeps_ite (fun _ => keeps_pure _) (fun _ => tour.outOfBounds other)

theorem Tour.storeWord (tour : Tour holds leaves) (kernel : Kernel) (a : Address) (value : Word)
    : Keeps holds leaves (storeWord kernel a value) :=
  keeps_ite (fun _ => tour.modify fun _ => ⟨rfl, rfl, rfl, rfl, rfl, rfl, rfl⟩)
    (fun _ => keeps_throw tour.stores)

theorem keeps_loadWord {kernel : Kernel} {a : Address}
    (load : kernel.ReadableWord a ∨ ∀ s, holds s → leaves (.fault false) s)
    : Keeps holds leaves (loadWord kernel a) := by
  intro s start
  exact ends_loadWord (fun _ => start) (fun unreadable => load.resolve_left unreadable s start)

theorem keeps_ltAssert (fails : ∀ failed, Keeps holds leaves (onFail failed)) {p : Prop}
    [Decidable p] {file condition : String} {line : Nat}
    : Keeps holds leaves (ltAssert onFail p file line condition) :=
  keeps_ite (fun _ => keeps_pure _) (fun _ => fails _)

/-- A read hands its continuation any state. -/
theorem keeps_read {f : Rt → RtM α} (next : ∀ s, Keeps holds leaves (f s))
    : Keeps holds leaves (get >>= f) :=
  keeps_get_bind fun s => next s s

/-- Both branches keep the property, whatever the condition. -/
theorem keeps_branch {p : Prop} [Decidable p] {c d : RtM α} (yes : Keeps holds leaves c)
    (no : Keeps holds leaves d)
    : Keeps holds leaves (if p then c else d) :=
  keeps_ite (fun _ => yes) (fun _ => no)

/-- Saving a frame keeps what the stack buffer has no part in. -/
theorem keeps_hookSaveStack (fails : ∀ failed, Keeps holds leaves (onFail failed))
    (stable : ∀ s t, Stacked s t → holds s → holds t)
    (final
      : ∀ e s,
          e.Final → e ≠ .diverged → e ≠ .outOfBounds .inlineasmRestartStats → holds s → leaves e s)
    (irqFlags : Word) (frameaddress rsp : Address)
    : Keeps holds leaves (hookSaveStack onFail irqFlags frameaddress rsp) := by
  have check {p : Prop} [Decidable p] {line : Nat} {condition : String}
      : Keeps holds leaves (ltAssert onFail p "kspecem_stack.c" line condition) :=
    keeps_ltAssert fails
  have copy (source : Address) (len : Nat) : Keeps holds leaves (copyToStackLog source len) :=
    keeps_read fun _ =>
      keeps_branch (keeps_modify fun s => stable s _ ⟨_, _, _, rfl⟩)
        (keeps_throw fun s => final _ s True.intro nofun nofun)
  refine keeps_branch ?_ (keeps_pure _)
  refine keeps_bind (keeps_modify fun s => stable s _ ⟨_, _, _, rfl⟩) fun _ => ?_
  refine keeps_read fun s => keeps_bind check fun _ => keeps_bind check fun _ => ?_
  refine keeps_bind check fun _ => keeps_bind check fun _ => keeps_bind (copy _ _) fun _ => ?_
  exact keeps_branch (keeps_throw fun s => final _ s True.intro nofun nofun) (keeps_pure _)

/-- The bound `kspecem_add_spec_statistics` asserts is the one it just tested. -/
theorem Tour.addSpecStatistics (tour : Tour holds leaves) (funcType : FuncType) (arg1 : Word)
    (arg2 : Int) (arg3 : Word) (returnAddr : Address)
    : Keeps holds leaves (addSpecStatistics onFail funcType arg1 arg2 arg3 returnAddr) := by
  refine keeps_get_bind fun s start => ?_
  refine keeps_ite (fun _ => keeps_pure _) (fun room => ?_) s start
  refine keeps_bind (fun t start => ?_) (fun _ => ?_)
  · exact ends_ltAssert (fun _ => start) (fun past => absurd (Nat.lt_of_not_le room) past)
  · exact keeps_bind (tour.checkBounds _ _) fun _ =>
      tour.modify fun _ => ⟨rfl, rfl, rfl, rfl, rfl, rfl, rfl⟩

/-- The row of the totals lies apart from the inline-assembly table, which stays in place. -/
theorem keeps_addInlineasmRestart
    (stable
      : ∀ s rows size,
          rows.base = s.stats.inlineasmRestartStats.base
          → holds s
          → holds
              { s with
                stats :=
                  { s.stats with
                    inlineasmRestartStats := rows
                    inlineasmRestartStatSize := size } })
    (out : ∀ s, holds s → leaves (.outOfBounds .inlineasmRestartStats) s) (ip : Address)
    : Keeps holds leaves (addInlineasmRestart ip) := by
  have row (table : Table InlineasmRestartStat) (i : Nat)
      : Keeps holds leaves (fetch .inlineasmRestartStats table i) :=
    keeps_ite (fun _ => keeps_pure _) (fun _ => keeps_throw out)
  have put (i : Nat) (row : InlineasmRestartStat)
      : Keeps holds leaves (putInlineasmStat i row) := by
    refine keeps_read fun s => keeps_bind ?_ fun _ => ?_
    · exact keeps_ite (fun _ => keeps_pure _) (fun _ => keeps_throw out)
    · exact keeps_modify fun s start => stable s _ _ rfl start
  have shift (tmp : InlineasmRestartStat) (i : Nat)
      : Keeps holds leaves (shiftInlineasmStats tmp i) := by
    induction i with
    | zero => exact keeps_pure _
    | succ i ih =>
        refine keeps_read fun s => keeps_bind (row _ _) fun earlier => ?_
        refine keeps_branch ?_ (keeps_pure _)
        exact keeps_bind (put _ _) fun _ => keeps_bind (put _ _) fun _ => ih
  have find (left i : Nat) : Keeps holds leaves (findInlineasmStat ip left i) := by
    induction left generalizing i with
    | zero => exact keeps_pure _
    | succ left ih =>
        refine keeps_read fun s => keeps_bind (row _ _) fun found => keeps_branch ?_ (ih _)
        exact keeps_bind (put _ _) fun _ => keeps_bind (shift _ _) fun _ => keeps_pure _
  refine keeps_read fun s => keeps_bind (find _ _) fun found => ?_
  refine keeps_branch (keeps_pure _) (keeps_branch (keeps_pure _) ?_)
  exact keeps_bind (put _ _) fun _ => keeps_modify fun s start => stable s _ _ rfl start

theorem keeps_readRows {name : TableId} (out : ∀ s, holds s → leaves (.outOfBounds name) s)
    (table : Table α) (left i : Nat)
    : Keeps holds leaves (readRows name table left i) := by
  induction left generalizing i with
  | zero => exact keeps_pure _
  | succ left ih =>
      refine keeps_bind (keeps_ite (fun _ => keeps_pure _) (fun _ => keeps_throw out)) fun _ => ?_
      exact ih _

/-- Printing reads the totals, and the inline-assembly rows in use. -/
theorem keeps_printRestartStatistics
    (totals : ∀ s, holds s → leaves (.outOfBounds .totalStatistics) s)
    (rows
      : ∀ s,
          holds s
          → s.stats.inlineasmRestartStatSize = 0 ∨ leaves (.outOfBounds .inlineasmRestartStats) s)
    : Keeps holds leaves printRestartStatistics := by
  intro s start
  rw [Kasper.printRestartStatistics, ends_bind, ends_get, ends_bind, ends_fetch]
  refine ⟨fun _ => ?_, fun _ => totals s start⟩
  rw [ends_ite]
  refine ⟨fun _ => ?_, fun _ => start⟩
  rcases rows s start with none | out
  · rw [none]
    exact start
  · have same : Keeps (fun t => t = s) leaves
        (readRows .inlineasmRestartStats s.stats.inlineasmRestartStats
          s.stats.inlineasmRestartStatSize 0) :=
      keeps_readRows (fun _ same => same ▸ out) _ _ _
    exact (same s rfl).imp (fun _ _ same => same ▸ start) (fun _ _ exit => exit)

theorem Tour.readRows (tour : Tour holds leaves) {name : TableId}
    (table : Table α) (left i : Nat) (other : name ≠ .inlineasmRestartStats := by decide)
    : Keeps holds leaves (readRows name table left i) :=
  keeps_readRows
    (fun s => tour.final _ s True.intro nofun fun same => other (Exit.outOfBounds.inj same)) _ _ _

theorem Tour.panicInfo (tour : Tour holds leaves) : Keeps holds leaves panicInfo :=
  keeps_read fun _ => tour.readRows _ _ _

theorem Tour.reportClearGlobals (tour : Tour holds leaves)
    : Keeps holds leaves reportClearGlobals := by
  refine keeps_read fun _ =>
    keeps_branch ?_ (tour.modify fun _ => ⟨rfl, rfl, rfl, rfl, rfl, rfl, rfl⟩)
  exact keeps_bind tour.outOfBounds fun _ =>
    tour.modify fun _ => ⟨rfl, rfl, rfl, rfl, rfl, rfl, rfl⟩

theorem keeps_getOffsetByIp {env : Env} (fails : ∀ failed, Keeps holds leaves (onFail failed))
    (ip : Address)
    : Keeps holds leaves (getOffsetByIp env onFail ip) :=
  keeps_bind (keeps_ltAssert fails) fun _ =>
    keeps_bind (keeps_ltAssert fails) fun _ => keeps_pure _

theorem Tour.previousBugs (tour : Tour holds leaves) (offset : Word)
    : Keeps holds leaves (previousBugs offset) :=
  keeps_read fun _ => keeps_bind (tour.fetch _ _) fun _ => tour.fetch _ _

section
variable {env : Env}

theorem Tour.shouldReportAccessBug (tour : Tour holds leaves)
    (fails : ∀ failed, Keeps holds leaves (onFail failed)) (bug : Bug)
    : Keeps holds leaves (shouldReportAccessBug env onFail bug) := by
  have already : Keeps holds leaves (bugAlreadyReported env onFail bug) :=
    keeps_bind (keeps_getOffsetByIp fails _) fun _ =>
      keeps_bind (tour.previousBugs _) fun _ => keeps_pure _
  have set : Keeps holds leaves (bugSetIpAsReported env onFail bug) :=
    keeps_bind (keeps_getOffsetByIp fails _) fun _ =>
      keeps_bind (tour.previousBugs _) fun _ =>
        tour.modify fun s => quiet_setReported s _ _ _
  refine keeps_read fun s => ?_
  refine keeps_branch (keeps_pure _) (keeps_branch (keeps_pure _) ?_)
  refine keeps_bind (keeps_ltAssert fails) fun _ => keeps_bind already fun known => ?_
  exact keeps_branch (keeps_pure _) (keeps_bind set fun _ => keeps_pure _)

theorem Tour.reportPrintAccessBug (tour : Tour holds leaves) (bug : Bug)
    : Keeps holds leaves (reportPrintAccessBug bug) :=
  keeps_branch (tour.ltPanic _ _) (tour.modify fun _ => ⟨rfl, rfl, rfl, rfl, rfl, rfl, rfl⟩)

theorem Tour.printReports (tour : Tour holds leaves)
    (fails : ∀ failed, Keeps holds leaves (onFail failed)) (left i : Nat)
    (reportsPrinted : Bool)
    : Keeps holds leaves (printReports env onFail left i reportsPrinted) := by
  induction left generalizing i reportsPrinted with
  | zero => exact keeps_pure _
  | succ left ih =>
      refine keeps_read fun s => keeps_bind (tour.fetch _ _) fun bug => ?_
      refine keeps_bind (tour.shouldReportAccessBug fails bug) fun report => ?_
      refine keeps_branch (keeps_branch ?_ ?_) (ih _ _)
      · exact keeps_bind (tour.modify fun _ => ⟨rfl, rfl, rfl, rfl, rfl, rfl, rfl⟩) fun _ =>
          keeps_bind (tour.reportPrintAccessBug bug) fun _ => ih _ _
      · exact keeps_bind (tour.reportPrintAccessBug bug) fun _ => ih _ _

theorem Tour.reportPrintAndClear (tour : Tour holds leaves)
    (fails : ∀ failed, Keeps holds leaves (onFail failed)) (calledFromRestart : Bool)
    (restartType : Int)
    : Keeps holds leaves (reportPrintAndClear env onFail calledFromRestart restartType) := by
  refine keeps_read fun s => keeps_branch (keeps_pure _) ?_
  refine keeps_bind (tour.printReports fails _ _ _) fun printed => ?_
  refine keeps_branch (keeps_read fun _ => ?_) tour.reportClearGlobals
  exact keeps_bind (tour.modify fun _ => ⟨rfl, rfl, rfl, rfl, rfl, rfl, rfl⟩) fun _ =>
    tour.reportClearGlobals

theorem Tour.accessReport (tour : Tour holds leaves)
    (fails : ∀ failed, Keeps holds leaves (onFail failed)) (addr : Address) (size : Word)
    (isWrite : Bool) (ip : Address) (dataLabel ptrLabel : BitVec 32) (accessType : AccessType)
    : Keeps holds leaves
        (accessReport env onFail addr size isWrite ip dataLabel ptrLabel accessType) := by
  refine keeps_read fun s => keeps_bind (keeps_ltAssert fails) fun _ => ?_
  refine keeps_bind (tour.modify fun _ => ⟨rfl, rfl, rfl, rfl, rfl, rfl, rfl⟩) fun _ => ?_
  refine keeps_read fun s => keeps_bind (tour.fetch _ _) fun bug => ?_
  refine keeps_bind (keeps_ltAssert fails) fun _ => ?_
  refine keeps_bind (tour.modify fun _ => ⟨rfl, rfl, rfl, rfl, rfl, rfl, rfl⟩) fun _ => ?_
  exact keeps_read fun _ => keeps_branch (tour.reportPrintAndClear fails _ _) (keeps_pure _)

-----------------------------------------------------------------------------------------
-- Restarts
-----------------------------------------------------------------------------------------

/-- A replay stores words; its `-1` is for a null slot address. -/
theorem Tour.restoreLoop (tour : Tour holds leaves)
    (fails : ∀ failed, Keeps holds leaves (onFail failed)) (frameaddr regs : Address)
    (position i : Nat) {s : Rt} (start : holds s)
    : Ends (restoreLoop env onFail frameaddr regs position i)
        (fun result t => result ≠ none ∧ holds t) leaves s := by
  induction position generalizing i s with
  | zero => exact ⟨nofun, start⟩
  | succ position ih =>
      have check {p : Prop} [Decidable p] {line : Nat} {condition : String}
          : Keeps holds leaves (ltAssert onFail p "kspecem_undolog.c" line condition) :=
        keeps_ltAssert fails
      have start := tour.quiet s { s with log := { s.log with position } }
        ⟨rfl, rfl, rfl, rfl, rfl, rfl, rfl⟩ start
      rw [Kasper.restoreLoop, ends_bind, ends_modify, if_neg env.frames.addrSlot_ne, ends_bind,
        ends_get]
      refine Ends.bind (@tour.fetch Word _ _ .writelogAddrs _ _ (by decide) _ start)
        fun addr t start => ?_
      rw [ends_ite]
      refine ⟨fun _ => ih _ start, fun _ => ?_⟩
      refine Ends.bind (check _ start) fun _ t start => ?_
      rw [ends_ite]
      refine ⟨fun _ => ih _ start, fun _ => ?_⟩
      rw [ends_bind, ends_get]
      refine Ends.bind (check _ start) fun _ t start => ?_
      refine Ends.bind (check _ start) fun _ t start => ?_
      refine Ends.bind (check _ start) fun _ t start => ?_
      rw [ends_bind, ends_get]
      refine Ends.bind (@tour.fetch Word _ _ .writelogData _ _ (by decide) _ start)
        fun region t start => ?_
      refine Ends.bind (tour.storeWord _ _ _ _ start) fun _ t start => ?_
      exact Ends.bind (check _ start) fun _ t start => ih _ start

theorem Tour.restoreWritelog (tour : Tour holds leaves)
    (fails : ∀ failed, Keeps holds leaves (onFail failed)) (frameaddr regs : Address) {s : Rt}
    (start : holds s)
    : Ends (restoreWritelog env onFail frameaddr regs) (fun r t => r ≠ -1 ∧ holds t) leaves s := by
  have check {p : Prop} [Decidable p] {line : Nat} {condition : String}
      : Keeps holds leaves (ltAssert onFail p "kspecem_undolog.c" line condition) :=
    keeps_ltAssert fails
  rw [Kasper.restoreWritelog, ends_bind, ends_get]
  refine Ends.bind (check _ start) fun _ t start => ?_
  refine Ends.bind (tour.restoreLoop fails _ _ _ _ start) ?_
  rintro result t ⟨some, start⟩
  cases result with
  | none => exact absurd rfl some
  | some i =>
      refine Ends.bind (check _ start) fun _ t start => ?_
      rw [ends_bind, ends_get]
      refine Ends.bind (check _ start) fun _ t start => ?_
      exact ⟨by decide, start⟩

theorem Tour.copyFromStackLog (tour : Tour holds leaves) (target : Address) (len : Nat)
    : Keeps holds leaves (copyFromStackLog target len) :=
  keeps_read fun _ =>
    keeps_branch (tour.modify fun _ => ⟨rfl, rfl, rfl, rfl, rfl, rfl, rfl⟩) tour.outOfBounds

theorem Tour.finishRestart (tour : Tour holds leaves)
    (fails : ∀ failed, Keeps holds leaves (onFail failed))
    (resumes : ∀ s, holds s → leaves .resumed (s.resumed env.kernel)) (direct : Bool)
    (restartType : RestartType)
    : Keeps holds leaves (finishRestart env onFail direct restartType) := by
  have leave : Keeps holds leaves (leaveRestart env direct) := by
    refine keeps_read fun s => ?_
    cases s.specAssert with
    | some failed => exact keeps_throw fun t => tour.final _ t True.intro nofun nofun
    | none =>
        refine keeps_branch ?_ (keeps_pure _)
        -- the jump back to the checkpoint never returns
        intro t start
        simp only [unsetRt, restoreRegisters, ends_bind, ends_modify, ends_throw]
        exact resumes t start
  refine keeps_bind (tour.modify fun _ => ⟨rfl, rfl, rfl, rfl, rfl, rfl, rfl⟩) fun _ => ?_
  exact keeps_branch (keeps_bind (tour.reportPrintAndClear fails _ _) fun _ => leave) leave

variable {rolls : Rt → Prop}

/-- A rollback goes from what `rolls` to what `holds` once the episode is over. -/
theorem Tour.rollBack (tour : Tour holds leaves) (rolling : Tour rolls leaves)
    (fails : ∀ failed, Keeps holds leaves (onFail failed))
    (rollingFails : ∀ failed, Keeps rolls leaves (onFail failed))
    (lands
      : ∀ s,
          rolls s
          → holds
            { s with log := { s.log with enabled := false }, inSpeculativeEmulation := false })
    (resumes : ∀ s, holds s → leaves .resumed (s.resumed env.kernel)) (direct : Bool)
    (restartType : RestartType) (frameaddr regs : Address) {s : Rt} (start : rolls s)
    : Ends (rollBack env onFail direct restartType frameaddr regs) (fun _ t => holds t) leaves
        s := by
  have finish := @Tour.finishRestart holds leaves onFail env tour fails resumes direct restartType
  rw [Kasper.rollBack, ends_bind, ends_get]
  refine Ends.bind (keeps_ltAssert rollingFails _ start) fun _ t start => ?_
  refine Ends.bind (rolling.restoreWritelog rollingFails _ _ start) ?_
  rintro r t ⟨restored, start⟩
  rw [if_neg restored, ends_bind, ends_modify]
  refine (?_ : Keeps holds leaves _) _ (lands t start)
  refine keeps_bind (tour.modify fun _ => ⟨rfl, rfl, rfl, rfl, rfl, rfl, rfl⟩) fun _ => ?_
  refine keeps_bind (tour.modify fun _ => ⟨rfl, rfl, rfl, rfl, rfl, rfl, rfl⟩) fun _ => ?_
  refine keeps_read fun s => keeps_bind (tour.copyFromStackLog _ _) fun _ => ?_
  exact keeps_branch (keeps_bind (tour.ltPanic _ _) fun _ => finish) finish

/-- A tour carries what quiet steps keep besides. -/
theorem Tour.and {kept : Rt → Prop} (tour : Tour holds leaves)
    (stable : ∀ s t, Quiet s t → kept s → kept t)
    : Tour (fun s => holds s ∧ kept s) leaves where
  quiet := fun s t quiet start => ⟨tour.quiet s t quiet start.1, stable s t quiet start.2⟩
  final := fun e s final ends inside start => tour.final e s final ends inside start.1
  stores := fun s start => tour.stores s start.1

/-- A restart that counts gets from what `holds` to what `rolls`, and back. -/
theorem Tour.restart (tour : Tour holds leaves) (rolling : Tour rolls leaves)
    (fails : ∀ failed, Keeps holds leaves (onFail failed))
    (rollingFails : ∀ failed, Keeps rolls leaves (onFail failed))
    (lands
      : ∀ s,
          rolls s
          → holds
            { s with log := { s.log with enabled := false }, inSpeculativeEmulation := false })
    (resumes : ∀ s, holds s → leaves .resumed (s.resumed env.kernel)) {direct : Bool}
    {restartType : RestartType} {callArg frameaddr regs : Address} {s : Rt}
    (counts
      : s.inSpeculativeEmulation = true
        → s.specAssert = none
        → ∀ arg t,
            Quiet s t
            → holds t
            → Ends (addRestartToStatistics restartType arg) (fun _ u => rolls u) leaves t)
    (failed
      : s.inSpeculativeEmulation = true
        → s.specAssert ≠ none
        → ∀ t, Quiet s t → holds t → rolls t)
    (start : holds s)
    : Ends (restart env onFail direct restartType callArg frameaddr regs) (fun _ t => holds t)
        leaves s := by
  have roll (t : Rt) (start : rolls t) := @Tour.rollBack holds leaves onFail env rolls tour rolling
    fails rollingFails lands resumes direct restartType frameaddr regs t start
  -- where the restart counts, the state differs from `s` by quiet steps only
  have trailing : Tour (fun t => holds t ∧ Quiet s t) leaves :=
    tour.and fun _ _ step quiet => quiet.trans step
  rw [Kasper.restart, ends_bind, ends_get, ends_ite]
  refine ⟨fun _ => start, fun spec => ?_⟩
  have inSpec := Bool.of_not_eq_false spec
  have quiet : Quiet s { s with isInRestart := true } := ⟨rfl, rfl, rfl, rfl, rfl, rfl, rfl⟩
  have start := tour.quiet s _ quiet start
  rw [ends_bind, ends_modify, ends_bind, ends_get, ends_ite]
  refine ⟨fun none => ?_, fun some => roll _ (failed inSpec some _ quiet start)⟩
  rw [ends_bind, ends_get, ends_ite]
  refine ⟨fun _ => ?_, fun _ => ?_⟩
  · refine Ends.bind (tour.addSpecStatistics _ _ _ _ _ _ start) fun _ t start => ?_
    rw [ends_bind, ends_modify]
    exact tour.quiet t _ ⟨rfl, rfl, rfl, rfl, rfl, rfl, rfl⟩ start
  · refine Ends.bind (trailing.addSpecStatistics _ _ _ _ _ _ ⟨start, quiet⟩) ?_
    rintro _ t ⟨start, quiet⟩
    have count (arg : Address) := counts inSpec none arg t quiet start
    rw [ends_ite]
    exact ⟨fun _ => (count _).bind fun _ u start => roll u start,
      fun _ => (count _).bind fun _ u start => roll u start⟩

end

end

-----------------------------------------------------------------------------------------
-- Logging and sections
-----------------------------------------------------------------------------------------

/-- The types `kspecem_restart_type_e` lists. -/
def RestartType.Known : RestartType → Prop
  | .unlisted _ => False
  | _ => True

/-- A tour through what runs inside a section: logging, the restarts it makes, and failed
assertions.
-/
structure BodyTour (env : Env) (onFail : SpecAssert → RtM Unit) (holds : Rt → Prop)
    (leaves : Exit → Rt → Prop) : Prop
    extends Tour holds leaves where
  fails : ∀ failed, Keeps holds leaves (onFail failed)
  restarts
    : ∀ restartType : RestartType,
        restartType.Known
        → restartType ≠ .restartCallInlineAsm
        → Keeps holds leaves (restart env onFail true restartType 0 0 0)

/-- A tour through the section macros as well, for a property of other variables than theirs. -/
structure SectionTour (env : Env) (onFail : SpecAssert → RtM Unit) (holds : Rt → Prop)
    (leaves : Exit → Rt → Prop) : Prop
    extends BodyTour env onFail holds leaves where
  sections : ∀ s isInRt, holds s → holds { s with isInRt }

/-- The restarts of the interrupt handlers keep the property. -/
def KeepsInterrupts (env : Env) (onFail : SpecAssert → RtM Unit) (holds : Rt → Prop)
    (leaves : Exit → Rt → Prop) : Prop :=
  ∀ (restartType : RestartType) (frameaddr regs : Address),
    restartType.Known
    → restartType ≠ .restartCallInlineAsm
    → Keeps holds leaves (restart env onFail false restartType 0 frameaddr regs)

/-- A tour through the hooks and the interrupt handlers. -/
structure HookTour (env : Env) (onFail : SpecAssert → RtM Unit) (holds : Rt → Prop)
    (leaves : Exit → Rt → Prop) : Prop
    extends SectionTour env onFail holds leaves where
  interrupts : KeepsInterrupts env onFail holds leaves
  resumes : ∀ s, holds s → leaves .resumed s

section
variable {env : Env} {onFail : SpecAssert → RtM Unit} {holds entry : Rt → Prop}
  {leaves : Exit → Rt → Prop}

theorem Tour.appendEntry (tour : Tour holds leaves) {w : Address}
    (load : env.kernel.ReadableWord w ∨ ∀ s, holds s → leaves (.fault false) s)
    : Keeps holds leaves (appendEntry env w) := by
  refine keeps_read fun s => keeps_read fun s => keeps_branch ?_ (keeps_pure _)
  refine keeps_read fun s => keeps_bind (tour.checkBounds _ _) fun _ => ?_
  refine keeps_bind (tour.modify fun _ => ⟨rfl, rfl, rfl, rfl, rfl, rfl, rfl⟩) fun _ => ?_
  refine keeps_read fun s => keeps_bind (tour.checkBounds _ _) fun _ => ?_
  refine keeps_bind (keeps_loadWord load) fun value => ?_
  refine keeps_bind (tour.modify fun _ => ⟨rfl, rfl, rfl, rfl, rfl, rfl, rfl⟩) fun _ => ?_
  refine keeps_read fun s => keeps_bind (tour.checkBounds _ _) fun _ => ?_
  refine keeps_bind (tour.modify fun _ => ⟨rfl, rfl, rfl, rfl, rfl, rfl, rfl⟩) fun _ => ?_
  exact tour.modify fun _ => ⟨rfl, rfl, rfl, rfl, rfl, rfl, rfl⟩

/-- Logging a word is quiet but for the restart of a full log, which `entry` may exclude. -/
theorem Tour.writeWlAligned (tour : Tour holds leaves)
    (fails : ∀ failed, Keeps holds leaves (onFail failed))
    (entryFails : ∀ failed, Keeps entry leaves (onFail failed))
    (enters : ∀ s, entry s → holds s)
    (full
      : ∀ s,
          entry s
          → writelogMaxlen * 2 ≤ s.log.position
          → Ends (Kasper.restart env onFail true .restartWritelogFull 0 0 0)
              (fun _ t => holds t) leaves s)
    {w : Address} (loads : LoadsFrom holds leaves env.kernel [w]) {s : Rt} (start : entry s)
    : Ends (writeWlAligned env onFail w) (fun _ t => holds t) leaves s := by
  have check {p : Prop} [Decidable p] {line : Nat} {condition : String}
      : Keeps holds leaves (ltAssert onFail p "kspecem_undolog.c" line condition) :=
    keeps_ltAssert fails
  have entryCheck {p : Prop} [Decidable p] {line : Nat} {condition : String}
      : Keeps entry leaves (ltAssert onFail p "kspecem_undolog.c" line condition) :=
    keeps_ltAssert entryFails
  have append : Keeps holds leaves
      (if w = env.kernel.wlPosition then pure ()
      else if w = env.kernel.writelogEnabled then pure ()
      else Kasper.appendEntry env w) := by
    by_cases passes : env.kernel.PassesOver w
    · rcases passes with position | enabled
      · rw [if_pos position]
        exact keeps_pure _
      · exact keeps_branch (keeps_pure _) (by rw [if_pos enabled]; exact keeps_pure _)
    · have load := loads w (List.mem_singleton_self w) passes
      exact keeps_branch (keeps_pure _) (keeps_branch (keeps_pure _) (tour.appendEntry load))
  rw [Kasper.writeWlAligned, ends_bind, ends_get, ends_bind, ends_get]
  refine Ends.bind (entryCheck _ start) fun _ t start => ?_
  rw [ends_bind, ends_get]
  refine Ends.bind (entryCheck _ start) fun _ t start => ?_
  rw [ends_bind, ends_get]
  refine Ends.bind (entryCheck _ start) fun _ t start => ?_
  rw [ends_bind, ends_get, ends_ite]
  -- a full log restarts, and what follows runs if that restart returns
  refine ⟨fun isFull => Ends.bind (full t start isFull) fun _ t start => ?_, fun _ => ?_⟩
  · refine (?_ : Keeps holds leaves _) t start
    refine keeps_read fun s => keeps_bind check fun _ => keeps_read fun s => ?_
    refine keeps_bind check fun _ => keeps_read fun s => keeps_bind check fun _ => ?_
    exact keeps_bind check fun _ => append
  · refine (?_ : Keeps holds leaves _) t (enters t start)
    refine keeps_read fun s => keeps_bind check fun _ => keeps_read fun s => ?_
    refine keeps_bind check fun _ => keeps_read fun s => keeps_bind check fun _ => ?_
    exact keeps_bind check fun _ => append

/-- A checkpoint goes from what `holds` to what is `opened` by it, and returns no refusal. -/
theorem Tour.newCheckpoint {opened : Rt → Prop} (tour : Tour holds leaves)
    (fails : ∀ failed, Keeps holds leaves (onFail failed))
    (opens
      : ∀ s,
          holds s
          → opened { s with log := { s.log with position := 0 }, inSpeculativeEmulation := true })
    (stable : ∀ s t, Quiet s t → t.log.position = s.log.position → opened s → opened t)
    {s : Rt} (start : holds s)
    : Ends (newCheckpoint env onFail) (fun ret t => ret ≠ noCheckpoint ∧ opened t) leaves s := by
  have done (t u : Rt) (start : holds t)
      (quiet
        : Quiet { t with log := { t.log with position := 0 }, inSpeculativeEmulation := true } u)
      (position : u.log.position = 0)
      : (0 : Word) ≠ noCheckpoint ∧ opened u :=
    ⟨by decide, stable _ u quiet position (opens t start)⟩
  rw [Kasper.newCheckpoint, ends_bind, ends_get]
  refine Ends.bind (keeps_ltAssert fails _ start) fun _ t start => ?_
  rw [ends_bind, ends_get]
  refine Ends.bind (keeps_ltAssert fails _ start) fun _ t start => ?_
  have start := tour.quiet t
    { t with speculativeInstrCount := 0, stats := { t.stats with currSpecStatisticsIndex := 0 } }
    ⟨rfl, rfl, rfl, rfl, rfl, rfl, rfl⟩ start
  rw [ends_bind, ends_modify]
  refine Ends.bind (tour.addSpecStatistics _ _ _ _ _ _ start) fun _ t start => ?_
  rw [ends_bind, ends_modify, ends_bind, ends_modify, ends_bind, ends_get, ends_ite]
  refine ⟨fun _ => ?_, fun _ => ?_⟩
  · rw [setSwapBranchCondition, ends_bind, ends_modify, ends_bind, ends_modify, ends_bind,
      ends_modify]
    exact done t _ start ⟨rfl, rfl, rfl, rfl, rfl, rfl, rfl⟩ rfl
  · rw [ends_bind, ends_modify, ends_bind, ends_modify]
    exact done t _ start ⟨rfl, rfl, rfl, rfl, rfl, rfl, rfl⟩ rfl

section
variable (tour : BodyTour env onFail holds leaves)
include tour

/-- Logging the words of an address. -/
theorem BodyTour.store {a : Address} (loads : LoadsFrom holds leaves env.kernel (savedWords a))
    : Keeps holds leaves (store env onFail a) := by
  have word {w : Address} (member : w ∈ savedWords a)
      : Keeps holds leaves (Kasper.writeWlAligned env onFail w) := by
    have load : LoadsFrom holds leaves env.kernel [w] := by
      intro x single
      rw [List.mem_singleton.mp single]
      exact loads w member
    exact fun s start => tour.toTour.writeWlAligned tour.fails tour.fails (fun _ start => start)
      (fun t start _ => tour.restarts .restartWritelogFull True.intro (by decide) t start)
      load start
  have first : Keeps holds leaves (Kasper.writeWlAligned env onFail (alignDown 3 a)) :=
    word (mem_savedWords.mpr (Or.inl rfl))
  by_cases unaligned : a ≠ wordOf a
  · rw [Kasper.store, writeWl, if_pos (by exact unaligned)]
    exact keeps_bind (word (mem_savedWords.mpr (Or.inr ⟨unaligned, rfl⟩))) fun _ => first
  · rw [Kasper.store, writeWl, if_neg (by exact unaligned)]
    exact first

/-- The loop of `kspecem_memcpy`, by induction on its fuel. -/
theorem BodyTour.memcpy (loads : ∀ words, LoadsFrom holds leaves env.kernel words)
    (diverges : ∀ s, holds s → leaves .diverged s) (addr : Address) (size : Word)
    : Keeps holds leaves (memcpy env onFail addr size) := by
  have loop (stop : Address) (fuel : Nat) (reg : Address)
      : Keeps holds leaves (memcpyLoop env onFail stop fuel reg) := by
    induction fuel generalizing reg with
    | zero => exact keeps_throw diverges
    | succ fuel ih =>
        exact keeps_branch (keeps_bind (tour.store (loads _)) fun _ => ih _) (keeps_pure _)
  exact loop _ _ _

end

section
variable (tour : SectionTour env onFail holds leaves)
include tour

theorem SectionTour.setRt : Keeps holds leaves setRt :=
  keeps_modify fun s start => tour.sections s true start

theorem SectionTour.unsetRt : Keeps holds leaves unsetRt :=
  keeps_modify fun s start => tour.sections s false start

theorem SectionTour.enterKspecemNonmiRt : Keeps holds leaves enterKspecemNonmiRt :=
  keeps_bind tour.setRt fun _ =>
    keeps_read fun _ =>
      keeps_bind (tour.modify fun _ => ⟨rfl, rfl, rfl, rfl, rfl, rfl, rfl⟩) fun _ => keeps_pure _

theorem SectionTour.leaveKspecemNonmiRt (line : Nat) (irqFlags : Word)
    : Keeps holds leaves (leaveKspecemNonmiRt onFail line irqFlags) :=
  keeps_read fun _ =>
    keeps_bind (keeps_ltAssert tour.fails) fun _ =>
      keeps_bind (tour.modify fun _ => ⟨rfl, rfl, rfl, rfl, rfl, rfl, rfl⟩) fun _ => tour.unsetRt

theorem SectionTour.hookStore {a : Address}
    (loads : LoadsFrom holds leaves env.kernel (savedWords a))
    : Keeps holds leaves (hookStore env onFail a) := by
  refine keeps_read fun s => keeps_branch (keeps_pure _) ?_
  refine keeps_read fun s => keeps_branch (keeps_pure _) ?_
  refine keeps_bind tour.enterKspecemNonmiRt fun irqFlags => ?_
  exact keeps_bind (tour.store loads) fun _ => tour.leaveKspecemNonmiRt 125 irqFlags

theorem SectionTour.countNmi
    (loads : LoadsFrom holds leaves env.kernel (savedWords env.kernel.nmiCount)) (delta : Word)
    : Keeps holds leaves (countNmi env onFail delta) :=
  keeps_bind (tour.hookStore loads) fun _ =>
    tour.modify fun _ => ⟨rfl, rfl, rfl, rfl, rfl, rfl, rfl⟩

theorem SectionTour.enterKspecemRt
    (loads : LoadsFrom holds leaves env.kernel (savedWords env.kernel.nmiCount))
    : Keeps holds leaves (enterKspecemRt env onFail) :=
  keeps_bind tour.setRt fun _ =>
    keeps_bind (keeps_read fun _ =>
      keeps_bind (tour.modify fun _ => ⟨rfl, rfl, rfl, rfl, rfl, rfl, rfl⟩) fun _ => keeps_pure _)
      fun _ => keeps_bind (tour.countNmi loads 1) fun _ => keeps_pure _

/-- The flags a section is entered with are never `-1`. -/
theorem SectionTour.enterKspecemRt_token
    (loads : LoadsFrom holds leaves env.kernel (savedWords env.kernel.nmiCount)) {s : Rt}
    (start : holds s)
    : Ends (Kasper.enterKspecemRt env onFail)
        (fun irqFlags t => irqFlags ≠ noCheckpoint ∧ holds t) leaves s := by
  simp only [Kasper.enterKspecemRt, Kasper.setRt, localIrqSave, ends_bind, ends_modify, ends_get,
    ends_pure]
  have entered := tour.quiet { s with isInRt := true }
    { s with isInRt := true, irqsEnabled := false } ⟨rfl, rfl, rfl, rfl, rfl, rfl, rfl⟩
    (tour.sections s true start)
  exact (tour.countNmi loads 1 _ entered).imp
    (fun _ _ kept => ⟨irqFlags_ne_noCheckpoint _, kept⟩) (fun _ _ exit => exit)

theorem SectionTour.leaveKspecemRt
    (loads : LoadsFrom holds leaves env.kernel (savedWords env.kernel.nmiCount)) (line : Nat)
    (irqFlags : Word)
    : Keeps holds leaves (leaveKspecemRt env onFail line irqFlags) :=
  keeps_read fun _ =>
    keeps_bind (keeps_ltAssert tour.fails) fun _ =>
      keeps_bind (tour.countNmi loads (-1)) fun _ =>
        keeps_bind (tour.modify fun _ => ⟨rfl, rfl, rfl, rfl, rfl, rfl, rfl⟩) fun _ =>
          tour.unsetRt

/-- A restart inside a section, of any type that the tour can restart by. -/
theorem SectionTour.hookRestart
    (loads : LoadsFrom holds leaves env.kernel (savedWords env.kernel.nmiCount)) {direct : Bool}
    {restartType : RestartType} {callArg : Address}
    (restarts : Keeps holds leaves (Kasper.restart env onFail direct restartType callArg 0 0))
    : Keeps holds leaves (hookRestart env onFail direct restartType callArg) := by
  refine keeps_read fun s => keeps_branch (keeps_pure _) ?_
  refine keeps_bind (tour.enterKspecemRt loads) fun irqFlags => keeps_bind restarts fun ret => ?_
  exact keeps_bind (tour.leaveKspecemRt loads _ _) fun _ => keeps_pure _

-----------------------------------------------------------------------------------------
-- Hooks
-----------------------------------------------------------------------------------------

/-- A restart in a section of its own, then a panic: the limits of an episode. -/
theorem SectionTour.limit
    (loads : LoadsFrom holds leaves env.kernel (savedWords env.kernel.nmiCount))
    (restartType : RestartType) (known : restartType.Known)
    (other : restartType ≠ .restartCallInlineAsm) (file text : String) (line : Nat)
    : Keeps holds leaves (do
        let irqFlags ← Kasper.enterKspecemRt env onFail
        let _ ← Kasper.restart env onFail true restartType 0 0 0
        Kasper.ltPanic file text
        Kasper.leaveKspecemRt env onFail line irqFlags) := by
  refine keeps_bind (tour.enterKspecemRt loads) fun irqFlags => ?_
  refine keeps_bind (tour.restarts _ known other) fun _ => ?_
  exact keeps_bind (tour.ltPanic _ _) fun _ => tour.leaveKspecemRt loads _ _

theorem SectionTour.hookCheckSpecLength
    (loads : LoadsFrom holds leaves env.kernel (savedWords env.kernel.nmiCount))
    (bbInstCount : BitVec 32)
    : Keeps holds leaves (hookCheckSpecLength env onFail bbInstCount) := by
  refine keeps_read fun s => keeps_branch (keeps_read fun s => ?_) (keeps_pure _)
  refine keeps_read fun s => keeps_branch (keeps_pure _) ?_
  refine keeps_read fun s => keeps_read fun s => keeps_branch (keeps_pure _) ?_
  refine keeps_read fun s => keeps_read fun s => keeps_branch (keeps_pure _) ?_
  refine keeps_bind (tour.modify fun _ => ⟨rfl, rfl, rfl, rfl, rfl, rfl, rfl⟩) fun _ => ?_
  refine keeps_read fun s => keeps_read fun s => keeps_branch ?_ (keeps_pure _)
  exact tour.limit loads .restartLimitSpec True.intro (by decide) _ _ _

theorem SectionTour.hookPrintRestartStatistics
    (loads : LoadsFrom holds leaves env.kernel (savedWords env.kernel.nmiCount))
    (prints : Keeps holds leaves printRestartStatistics)
    : Keeps holds leaves (hookPrintRestartStatistics env onFail) := by
  refine keeps_read fun s => keeps_read fun s => keeps_branch (keeps_pure _) ?_
  refine keeps_bind (tour.enterKspecemRt loads) fun irqFlags => ?_
  exact keeps_bind prints fun _ => tour.leaveKspecemRt loads _ _

theorem SectionTour.hookCheckCallDepth
    (loads : LoadsFrom holds leaves env.kernel (savedWords env.kernel.nmiCount))
    : Keeps holds leaves (hookCheckCallDepth env onFail) := by
  refine keeps_read fun s => keeps_read fun s => keeps_branch (keeps_pure _) ?_
  refine keeps_read fun s => keeps_branch ?_ (keeps_pure _)
  refine keeps_bind (tour.addSpecStatistics _ _ _ _ _) fun _ => ?_
  refine keeps_bind (tour.modify fun _ => ⟨rfl, rfl, rfl, rfl, rfl, rfl, rfl⟩) fun _ => ?_
  refine keeps_read fun s => keeps_read fun s => keeps_branch ?_ (keeps_pure _)
  exact tour.limit loads .restartCallDepth True.intro (by decide) _ _ _

/-- The checkpoint hook returns no token and what held holds, or a checkpoint was taken. -/
theorem SectionTour.hookNewCheckpoint {opened : Rt → Prop}
    (loads : LoadsFrom holds leaves env.kernel (savedWords env.kernel.nmiCount))
    (inInterrupt : Bool) {s : Rt} (start : holds s)
    (opens
      : s.inSpeculativeEmulation = false
        → ∀ t,
            holds t
            → opened { t with log := { t.log with position := 0 }, inSpeculativeEmulation := true })
    (stable : ∀ s t, Quiet s t → t.log.position = s.log.position → opened s → opened t)
    : Ends (hookNewCheckpoint env onFail inInterrupt)
        (fun token t => token = noCheckpoint ∧ holds t ∨ token ≠ noCheckpoint ∧ opened t)
        leaves s := by
  rw [Kasper.hookNewCheckpoint]
  simp only [ends_bind, ends_get, ends_ite, ends_pure]
  have refused : True ∧ holds s ∨ noCheckpoint ≠ noCheckpoint ∧ opened s :=
    Or.inl ⟨True.intro, start⟩
  refine ⟨fun _ => refused, fun _ => ⟨fun _ => refused, fun _ => ⟨fun _ => refused,
    fun _ => ⟨fun _ => refused, fun _ => ⟨fun _ => refused, fun _ => ⟨fun _ => ?_,
      fun idle => ?_⟩⟩⟩⟩⟩⟩
  · exact (tour.addSpecStatistics _ _ _ _ _ s start).imp (fun _ _ kept => Or.inl ⟨True.intro, kept⟩)
      (fun _ _ exit => exit)
  · refine (tour.enterKspecemRt_token loads start).imp ?_ (fun _ _ exit => exit)
    rintro irqFlags t ⟨token, start⟩
    refine (tour.newCheckpoint tour.fails (opens (Bool.of_not_eq_true idle)) stable start).imp ?_
      (fun _ _ exit => exit)
    rintro ret u ⟨taken, opened⟩
    exact ⟨fun none => absurd none taken, fun _ => Or.inr ⟨token, opened⟩⟩

theorem SectionTour.hookLeaveRt
    (loads : LoadsFrom holds leaves env.kernel (savedWords env.kernel.nmiCount))
    (irqFlags : Word)
    : Keeps holds leaves (hookLeaveRt env onFail irqFlags) :=
  keeps_branch (tour.leaveKspecemRt loads _ _) (keeps_pure _)

theorem SectionTour.hookMemcpy (loads : ∀ words, LoadsFrom holds leaves env.kernel words)
    (diverges : ∀ s, holds s → leaves .diverged s) (addr : Address) (size : Word)
    : Keeps holds leaves (hookMemcpy env onFail addr size) := by
  refine keeps_read fun s => keeps_branch (keeps_pure _) ?_
  refine keeps_read fun s => keeps_branch (keeps_pure _) ?_
  refine keeps_bind (tour.enterKspecemRt (loads _)) fun irqFlags => ?_
  exact keeps_bind (tour.memcpy loads diverges _ _) fun _ => tour.leaveKspecemRt (loads _) _ _

theorem SectionTour.hookReport {report : RtM Unit} (reports : Keeps holds leaves report)
    (line : Nat)
    : Keeps holds leaves (hookReport onFail line report) := by
  refine keeps_read fun s => keeps_read fun s => keeps_branch (keeps_pure _) ?_
  refine keeps_bind tour.enterKspecemNonmiRt fun irqFlags => keeps_bind reports fun _ => ?_
  exact keeps_bind (tour.leaveKspecemNonmiRt _ _) fun _ => keeps_pure _

theorem SectionTour.hookIsWhitelistTask
    (loads : LoadsFrom holds leaves env.kernel (savedWords env.kernel.nmiCount))
    : Keeps holds leaves (hookIsWhitelistTask env onFail) := by
  refine keeps_read fun s => keeps_read fun s => keeps_branch (keeps_pure _) ?_
  refine keeps_bind (tour.enterKspecemRt loads) fun irqFlags => keeps_read fun s => ?_
  exact keeps_bind (tour.leaveKspecemRt loads _ _) fun _ => keeps_pure _

theorem SectionTour.hookAccess (pfDummyRegion ptr : Address) (size : Word) (addrValid : Bool)
    : Keeps holds leaves (hookAccess onFail pfDummyRegion ptr size addrValid) := by
  refine keeps_read fun s => keeps_branch (keeps_pure _) ?_
  refine keeps_read fun s => keeps_branch (keeps_pure _) ?_
  refine keeps_bind tour.enterKspecemNonmiRt fun irqFlags => ?_
  exact keeps_bind (tour.leaveKspecemNonmiRt _ _) fun _ => keeps_pure _

/-- What a failed assertion does once it is on record. -/
theorem SectionTour.kspecemPanicWith
    (loads : LoadsFrom holds leaves env.kernel (savedWords env.kernel.nmiCount))
    (records : ∀ s failed, holds s → holds { s with specAssert := some failed })
    (restarts : Keeps holds leaves (Kasper.restart env onFail true (.unlisted 0xffff) 0 0 0))
    {failed : SpecAssert} {s : Rt}
    (start : holds { s with asserted := failed :: s.asserted })
    : Ends (kspecemPanicWith env onFail failed) (fun _ t => holds t) leaves s := by
  rw [Kasper.kspecemPanicWith, ends_bind, ends_modify]
  refine (?_ : Keeps holds leaves _) _ start
  refine keeps_read fun s => keeps_branch ?_
    (keeps_throw fun s => tour.final _ s True.intro (by simp) (by simp))
  refine keeps_bind (keeps_modify fun s start => records s failed start) fun _ => ?_
  refine keeps_read fun s => keeps_branch ?_ (keeps_pure _)
  exact keeps_bind (tour.hookRestart loads restarts) fun _ => keeps_pure _

end

section
variable (tour : BodyTour env onFail holds leaves)
include tour

theorem BodyTour.hookSaveStack (irqFlags : Word) (frameaddress rsp : Address)
    : Keeps holds leaves (hookSaveStack onFail irqFlags frameaddress rsp) :=
  keeps_hookSaveStack tour.fails (fun s t stacked => tour.quiet s t stacked.quiet) tour.final
    irqFlags frameaddress rsp

variable (interrupts : KeepsInterrupts env onFail holds leaves)
include interrupts

/-- What both handlers do once they have chosen a restart type. -/
theorem BodyTour.interruptRestart (regs frameaddr : Address) (restartType : RestartType)
    (known : restartType.Known) (other : restartType ≠ .restartCallInlineAsm) (line : Nat)
    : Keeps holds leaves (interruptRestart env onFail regs frameaddr restartType line) := by
  refine keeps_bind (tour.modify fun _ => ⟨rfl, rfl, rfl, rfl, rfl, rfl, rfl⟩) fun _ => ?_
  refine keeps_bind (interrupts _ _ _ known other) fun _ => ?_
  exact keeps_read fun s => keeps_read fun s => keeps_ltAssert tour.fails

theorem BodyTour.hookInterruptTimer (regs frameaddr : Address)
    : Keeps holds leaves (hookInterruptTimer env onFail regs frameaddr) := by
  refine keeps_read fun s => keeps_branch (keeps_pure _) ?_
  refine keeps_bind (keeps_ltAssert tour.fails) fun _ => keeps_read fun s => ?_
  refine keeps_read fun s => keeps_bind (keeps_ltAssert tour.fails) fun _ => ?_
  refine keeps_read fun s => keeps_branch ?_ (keeps_pure _)
  exact tour.interruptRestart interrupts _ _ .restartTimer True.intro (by decide) _

theorem BodyTour.hookInterruptException (regs frameaddr : Address) (exceptionType : Int)
    : Keeps holds leaves (hookInterruptException env onFail regs frameaddr exceptionType) := by
  have handled : Keeps holds leaves
      (interruptException env onFail regs frameaddr exceptionType) := by
    rw [interruptException]
    by_cases fault : exceptionType = 1
    · rw [if_pos fault]
      exact tour.interruptRestart interrupts _ _ .restartPageFault True.intro (by decide) _
    · rw [if_neg fault]
      exact tour.interruptRestart interrupts _ _ .restartException True.intro (by decide) _
  refine keeps_read fun s => keeps_branch (keeps_pure _) ?_
  refine keeps_bind (keeps_ltAssert tour.fails) fun _ => keeps_read fun s => ?_
  refine keeps_read fun s => keeps_bind (keeps_ltAssert tour.fails) fun _ => ?_
  refine keeps_read fun s => keeps_branch (keeps_bind handled fun _ => keeps_pure _) (keeps_pure _)

end

end

-----------------------------------------------------------------------------------------
-- Actions
-----------------------------------------------------------------------------------------

/-- The actions that may take a checkpoint. -/
def Action.MayOpen : Action → Prop
  | .newCheckpoint _ | .branch .. => True
  | _ => False

/-- The actions that run an interrupt handler. -/
def Action.Interrupts : Action → Prop
  | .timer .. | .exception .. => True
  | _ => False

section
variable {env : Env} {holds : Rt → Prop} {leaves : Exit → Rt → Prop}
  (tour : BodyTour env env.onFail holds leaves)
  (interrupts : KeepsInterrupts env env.onFail holds leaves)
  (resumes : ∀ s, holds s → leaves .resumed s)
include tour interrupts resumes

theorem BodyTour.timerInterrupt (regs frameaddr : Address) (interrupted : PtRegs)
    : Keeps holds leaves (timerInterrupt env regs frameaddr interrupted) := by
  refine keeps_bind (tour.modify fun _ => ⟨rfl, rfl, rfl, rfl, rfl, rfl, rfl⟩) fun _ => ?_
  refine keeps_read fun s => keeps_bind (tour.hookInterruptTimer interrupts _ _) fun _ => ?_
  refine keeps_bind (tour.modify fun _ => ⟨rfl, rfl, rfl, rfl, rfl, rfl, rfl⟩) fun _ => ?_
  exact keeps_branch (keeps_throw resumes) (keeps_pure _)

theorem BodyTour.exceptionInterrupt (regs frameaddr : Address) (interrupted : PtRegs)
    (exceptionType : Int)
    : Keeps holds leaves
        (exceptionInterrupt env regs frameaddr interrupted exceptionType) := by
  refine keeps_bind (tour.modify fun _ => ⟨rfl, rfl, rfl, rfl, rfl, rfl, rfl⟩) fun _ => ?_
  refine keeps_bind (tour.hookInterruptException interrupts _ _ _) fun handled => ?_
  refine keeps_bind (tour.modify fun _ => ⟨rfl, rfl, rfl, rfl, rfl, rfl, rfl⟩) fun _ => ?_
  exact keeps_branch (keeps_throw resumes) (keeps_pure _)

end

section
variable {env : Env} {holds : Rt → Prop} {leaves : Exit → Rt → Prop}

theorem HookTour.timerBetween (tour : HookTour env env.onFail holds leaves) (leaving : Bool)
    (regs frameaddr : Address) (interrupted : PtRegs)
    : Keeps holds leaves (timerBetween env leaving regs frameaddr interrupted) := by
  have interrupt :=
    tour.toBodyTour.timerInterrupt tour.interrupts tour.resumes regs frameaddr interrupted
  refine keeps_branch (keeps_bind tour.setRt fun _ => ?_) interrupt
  exact keeps_bind interrupt fun _ => tour.unsetRt

theorem SectionTour.report (tour : SectionTour env env.onFail holds leaves) (call : ReportCall)
    : Keeps holds leaves (call.run env) := by
  have access {addr : Address} {size : Word} {isWrite : Bool} {ip : Address}
      {dataLabel ptrLabel : BitVec 32} {accessType : AccessType} :=
    @Tour.accessReport holds leaves env.onFail env tour.toTour tour.fails addr size isWrite ip
      dataLabel ptrLabel accessType
  cases call with
  | kasan addr size isWrite ip =>
      exact keeps_bind (keeps_branch (keeps_pure _) (tour.hookReport access _)) fun _ =>
        keeps_pure _
  | ridl addr size isWrite ip dataLabel ptrLabel =>
      exact keeps_bind (tour.hookReport access _) fun _ => keeps_pure _
  | specv1 addr size isWrite ip dataLabel ptrLabel =>
      exact keeps_bind (tour.hookReport access _) fun _ => keeps_pure _
  | smotherspectre ip label =>
      exact keeps_bind (tour.hookReport access _) fun _ => keeps_pure _

/-- A hook that takes no checkpoint keeps the property, and so does the program. -/
theorem SectionTour.run (tour : SectionTour env env.onFail holds leaves)
    (faults : ∀ s, holds s → leaves (.fault false) s)
    (diverges : ∀ s, holds s → leaves .diverged s)
    (prints : Keeps holds leaves printRestartStatistics) {action : Action}
    (closed : ¬action.MayOpen) (hook : ¬action.Interrupts)
    (restarts
      : ∀ restartType callArg,
          action = .restart restartType callArg
          → Keeps holds leaves (Kasper.restart env env.onFail true restartType callArg 0 0))
    : Keeps holds leaves (action.run env) := by
  have loads (words : List Address) : LoadsFrom holds leaves env.kernel words :=
    fun _ _ _ => Or.inr faults
  cases action with
  | checkSpecLength bbInstCount => exact tour.hookCheckSpecLength (loads _) _
  | panicInfo => exact tour.panicInfo
  | printRestartStatistics => exact tour.hookPrintRestartStatistics (loads _) prints
  | checkCallDepth => exact tour.hookCheckCallDepth (loads _)
  | newCheckpoint inInterrupt => exact absurd True.intro closed
  | saveStack irqFlags frameaddress rsp => exact tour.hookSaveStack _ _ _
  | saveRegisters cpu returnAddress token =>
      exact tour.modify fun _ => ⟨rfl, rfl, rfl, rfl, rfl, rfl, rfl⟩
  | leaveRt irqFlags => exact tour.hookLeaveRt (loads _) _
  | branch saveFrames leaveFrames inInterrupt frameaddress rsp cpu returnAddress =>
      exact absurd True.intro closed
  | restart restartType callArg =>
      exact keeps_bind (tour.hookRestart (loads _) (restarts _ _ rfl)) fun _ => keeps_pure _
  | store addr => exact tour.hookStore (loads _)
  | memcpy addr size => exact tour.hookMemcpy loads diverges _ _
  | report call => exact tour.report call
  | isWhitelistTask => exact keeps_bind (tour.hookIsWhitelistTask (loads _)) fun _ => keeps_pure _
  | access pfDummyRegion ptr size addrValid =>
      exact keeps_bind (tour.hookAccess _ _ _ _) fun _ => keeps_pure _
  | timer leaving regs frameaddr interrupted => exact absurd True.intro hook
  | exception regs frameaddr interrupted exceptionType => exact absurd True.intro hook
  | write target bytes =>
      exact keeps_branch (tour.modify fun _ => ⟨rfl, rfl, rfl, rfl, rfl, rfl, rfl⟩)
        (keeps_throw tour.stores)
  | setIrqs enabled => exact tour.modify fun _ => ⟨rfl, rfl, rfl, rfl, rfl, rfl, rfl⟩

/-- Every action that takes no checkpoint keeps the property. -/
theorem HookTour.run (tour : HookTour env env.onFail holds leaves)
    (faults : ∀ s, holds s → leaves (.fault false) s)
    (diverges : ∀ s, holds s → leaves .diverged s)
    (prints : Keeps holds leaves printRestartStatistics) {action : Action}
    (closed : ¬action.MayOpen)
    (restarts
      : ∀ restartType callArg,
          action = .restart restartType callArg
          → Keeps holds leaves (Kasper.restart env env.onFail true restartType callArg 0 0))
    : Keeps holds leaves (action.run env) := by
  cases action with
  | timer leaving regs frameaddr interrupted => exact tour.timerBetween _ _ _ _
  | exception regs frameaddr interrupted exceptionType =>
      exact tour.exceptionInterrupt tour.interrupts tour.resumes _ _ _ _
  | _ =>
      exact tour.toSectionTour.run faults diverges prints closed (fun interrupts => interrupts)
        restarts

end

end Kasper
