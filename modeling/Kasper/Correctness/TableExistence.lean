import Kasper.Correctness.Idle
import Kasper.Correctness.Tours
import Kasper.Runtime.Sample

/-! Which tables exist when they are used. Every table is allocated by the late
initialisation, one of them only if its switch was on by then.
-/

namespace Kasper

open ByteMemory Exits

/-- The table was allocated: its pointer is not null, nor are those to the map's blocks. -/
def Rt.Exists (s : Rt) : TableId → Prop
  | .writelogAddrs => s.log.addrs.base ≠ 0
  | .writelogData => s.log.data.base ≠ 0
  | .writelogMeta => s.log.metas.base ≠ 0
  | .wlStack => s.stack.stack.base ≠ 0
  | .bugs => s.reports.bugs.base ≠ 0
  | .previousBugsMap => s.reports.previousBugsMap.base ≠ 0
  | .previousBugsBlock =>
      ∀ i < s.reports.previousBugsMap.size, (s.reports.previousBugsMap.cell i).base ≠ 0
  | .specStatistics => s.stats.specStatistics.base ≠ 0
  | .totalStatistics => s.stats.totalStatistics.base ≠ 0
  | .inlineasmRestartStats => s.stats.inlineasmRestartStats.base ≠ 0

/-- How many cells the table has, and how many blocks the map. -/
def Rt.cells (s : Rt) : TableId → Nat
  | .writelogAddrs => s.log.addrs.size
  | .writelogData => s.log.data.size
  | .writelogMeta => s.log.metas.size
  | .wlStack => s.stack.stack.size
  | .bugs => s.reports.bugs.size
  | .previousBugsMap | .previousBugsBlock => s.reports.previousBugsMap.size
  | .specStatistics => s.stats.specStatistics.size
  | .totalStatistics => s.stats.totalStatistics.size
  | .inlineasmRestartStats => s.stats.inlineasmRestartStats.size

/-- Only the pointers matter. -/
theorem Rt.Exists.congr {s t : Rt} {table : TableId} (h : s.Exists table)
    (extents : t.extents = s.extents)
    (totals : t.stats.totalStatistics.base = s.stats.totalStatistics.base)
    (rows : t.stats.inlineasmRestartStats.base = s.stats.inlineasmRestartStats.base)
    : t.Exists table := by
  cases table with
  | writelogAddrs => exact (congrArg Extents.writelogAddrs extents).trans_ne h
  | writelogData => exact (congrArg Extents.writelogData extents).trans_ne h
  | writelogMeta => exact (congrArg Extents.writelogMeta extents).trans_ne h
  | wlStack => exact (congrArg Extents.wlStack extents).trans_ne h
  | bugs => exact (congrArg Extents.bugs extents).trans_ne h
  | previousBugsMap => exact (congrArg Extents.previousBugsMap extents).trans_ne h
  | previousBugsBlock =>
      intro i below
      have size : t.reports.previousBugsMap.size = s.reports.previousBugsMap.size :=
        congrArg Extents.previousBugsBlocks extents
      rw [size] at below
      exact (congrFun (congrArg Extents.previousBugsBlock extents) i).trans_ne (h i below)
  | specStatistics => exact (congrArg Extents.specStatistics extents).trans_ne h
  | totalStatistics => exact totals.trans_ne h
  | inlineasmRestartStats => exact rows.trans_ne h

/-- The inline-assembly table as the kernel image has it. -/
structure Rowless (s : Rt) : Prop where
  base : s.stats.inlineasmRestartStats.base = 0
  size : s.stats.inlineasmRestartStats.size = 0
  inUse : s.stats.inlineasmRestartStatSize = 0

/-- Before the late initialisation. -/
structure Early (s : Rt) : Prop where
  initDone : s.initDone = false
  idle : s.inSpeculativeEmulation = false
  disabled : s.log.enabled = false
  entries : s.stats.currSpecStatisticsIndex = 0
  stack : s.stack.stack.base = 0
  rows : Rowless s
  cells : ∀ table, s.cells table = 0

/-- After it: every table exists but, perhaps, the one with a switch. -/
structure Ready (s : Rt) : Prop where
  initDone : s.initDone = true
  tables : ∀ table, table ≠ .inlineasmRestartStats → s.Exists table
  entries : specStatisticsSize ≤ s.stats.specStatistics.size
  totals : 0 < s.stats.totalStatistics.size
  rows : s.Exists .inlineasmRestartStats ∨ Rowless s

/-- Where a hook leaves, an access that went wrong was to a table that exists. -/
def Sound (e : Exit) (t : Rt) : Prop :=
  Ready t ∧ ∀ table, e = .outOfBounds table → t.Exists table

theorem Ready.congr {s t : Rt} (h : Ready s) (initDone : t.initDone = s.initDone)
    (extents : t.extents = s.extents) (restartStats : t.restartStats = s.restartStats)
    : Ready t := by
  have totals : t.stats.totalStatistics = s.stats.totalStatistics :=
    congrArg RestartStats.totalStatistics restartStats
  have rows : t.stats.inlineasmRestartStats = s.stats.inlineasmRestartStats :=
    congrArg RestartStats.inlineasmRestartStats restartStats
  have inUse : t.stats.inlineasmRestartStatSize = s.stats.inlineasmRestartStatSize :=
    congrArg RestartStats.inlineasmRestartStatSize restartStats
  have same {table : TableId} (found : s.Exists table) : t.Exists table :=
    found.congr extents (congrArg Table.base totals) (congrArg Table.base rows)
  refine ⟨initDone.trans h.initDone, fun table other => same (h.tables table other), ?_, ?_, ?_⟩
  · exact h.entries.trans_eq (congrArg Extents.specStatisticsSize extents).symm
  · rw [totals]
    exact h.totals
  · refine h.rows.imp same fun rowless => ⟨?_, ?_, inUse.trans rowless.inUse⟩
    · rw [rows]
      exact rowless.base
    · rw [rows]
      exact rowless.size

theorem Ready.quiet {s t : Rt} (h : Ready s) (quiet : Quiet s t) : Ready t :=
  h.congr quiet.initDone quiet.extents quiet.restartStats

theorem Ready.sound {s : Rt} (h : Ready s) {e : Exit}
    (other : e ≠ .outOfBounds .inlineasmRestartStats)
    : Sound e s := by
  refine ⟨h, ?_⟩
  rintro table rfl
  exact h.tables table fun same => other (congrArg Exit.outOfBounds same)

theorem readyTour : Tour Ready Sound where
  quiet := fun _ _ quiet start => start.quiet quiet
  final := fun _ _ _ _ other start => start.sound other
  stores := fun _ start => start.sound (by decide)

/-- Counting changes no pointer. -/
theorem Ready.counted {s : Rt} (h : Ready s) (total : FunctionStats)
    : Ready
        { s with
          stats := { s.stats with totalStatistics := s.stats.totalStatistics.put 0 total } } where
  initDone := h.initDone
  tables := fun table other => (h.tables table other).congr rfl rfl rfl
  entries := h.entries
  totals := h.totals
  rows := h.rows.imp (fun found => found.congr rfl rfl rfl)
    (fun rowless => ⟨rowless.base, rowless.size, rowless.inUse⟩)

/-- The jump back to a checkpoint is no access to a table. -/
theorem Ready.resumes {s : Rt} (start : Ready s) (kernel : Kernel)
    : Sound .resumed (s.resumed kernel) := by
  have moved : Ready (s.resumed kernel) := start.congr rfl rfl rfl
  exact moved.sound (by decide)

/-- A restart finds the table it counts inline assembly in, if it comes to count. -/
def Rt.FindsRows (s : Rt) : Prop :=
  s.inSpeculativeEmulation = true
  → s.specAssert = none
  → s.stats.inlineasmRestartStatsEnabled = true
  → s.Exists .inlineasmRestartStats

theorem addRestartToStatistics_ready {restartType : RestartType} (callArg : Address) {s : Rt}
    (start : Ready s)
    (finds
      : restartType = .restartCallInlineAsm
        → s.stats.inlineasmRestartStatsEnabled = true
        → s.Exists .inlineasmRestartStats)
    : Ends (addRestartToStatistics restartType callArg) (fun _ t => Ready t) Sound s := by
  rw [addRestartToStatistics, ends_bind, ends_get, ends_bind, ends_checkBounds]
  refine ⟨fun _ => ?_, fun _ => start.sound (by decide)⟩
  rw [ends_bind, ends_modify, ends_ite]
  refine ⟨fun inlineasm => ?_, fun _ => start.counted _⟩
  rw [ends_bind, ends_get, ends_ite]
  refine ⟨fun enabled => ?_, fun _ => start.counted _⟩
  have rows : Keeps (fun t => Ready t ∧ t.Exists .inlineasmRestartStats) Sound
      (addInlineasmRestart callArg) := by
    refine keeps_addInlineasmRestart (fun s rows size base start => ?_) (fun s start => ?_) _
    · obtain ⟨ready, found⟩ := start
      have found : rows.base ≠ 0 := base.trans_ne found
      exact ⟨⟨ready.initDone, fun table other => (ready.tables table other).congr rfl rfl base,
        ready.entries, ready.totals, Or.inl found⟩, found⟩
    · refine ⟨start.1, ?_⟩
      rintro table same
      rw [← Exit.outOfBounds.inj same]
      exact start.2
  exact (rows _ ⟨start.counted _, finds inlineasm enabled⟩).imp (fun _ _ kept => kept.1)
    (fun _ _ exit => exit)

section
variable {env : Env} {onFail : SpecAssert → RtM Unit}

theorem restart_ready (fails : ∀ failed, Keeps Ready Sound (onFail failed)) {direct : Bool}
    {restartType : RestartType} {callArg frameaddr regs : Address} {s : Rt} (start : Ready s)
    (finds : restartType = .restartCallInlineAsm → s.FindsRows)
    : Ends (restart env onFail direct restartType callArg frameaddr regs) (fun _ t => Ready t)
        Sound s := by
  refine readyTour.restart readyTour fails fails (fun _ start => start.congr rfl rfl rfl)
    (fun _ start => start.resumes _) ?_ (fun _ _ _ _ start => start) start
  intro inSpec passed arg t quiet start
  refine addRestartToStatistics_ready arg start fun inlineasm enabled => ?_
  have enabled : s.stats.inlineasmRestartStatsEnabled = true :=
    (congrArg RestartStats.inlineasmRestartStatsEnabled quiet.restartStats).symm.trans enabled
  refine (finds inlineasm inSpec passed enabled).congr quiet.extents ?_ ?_
  · exact congrArg (fun stats => stats.totalStatistics.base) quiet.restartStats
  · exact congrArg (fun stats => stats.inlineasmRestartStats.base) quiet.restartStats

theorem readyHookTour (fails : ∀ failed, Keeps Ready Sound (onFail failed))
    : HookTour env onFail Ready Sound where
  toTour := readyTour
  fails := fails
  resumes := fun _ start => start.sound (by decide)
  restarts := fun _ _ other _ start =>
    restart_ready fails start fun inlineasm => absurd inlineasm other
  sections := fun _ _ start => start.congr rfl rfl rfl
  interrupts := fun _ _ _ _ other _ start =>
    restart_ready fails start fun inlineasm => absurd inlineasm other

/-- A read fault is no access to a table. -/
theorem ready_loads (words : List Address) : LoadsFrom Ready Sound env.kernel words :=
  fun _ _ _ => Or.inr fun _ start => start.sound (by decide)

/-- A failing assertion uses no table that does not exist, by induction on the room for more
failures.
-/
theorem kspecemPanic_ready (env : Env) (depth : Nat) (failed : SpecAssert)
    : Keeps Ready Sound (kspecemPanic env depth failed) := by
  induction depth generalizing failed with
  | zero =>
      refine keeps_bind (keeps_modify fun _ start => start.congr rfl rfl rfl) fun _ => ?_
      exact keeps_throw fun _ start => start.sound (by decide)
  | succ depth ih =>
      have tour : HookTour env (kspecemPanic env depth) Ready Sound := readyHookTour ih
      intro s start
      rw [kspecemPanic]
      refine tour.kspecemPanicWith (ready_loads _) (fun _ _ start => start.congr rfl rfl rfl) ?_
        (start.congr rfl rfl rfl)
      exact fun _ start => restart_ready ih start (by simp)

theorem Env.readyTour (env : Env) : HookTour env env.onFail Ready Sound :=
  readyHookTour fun failed => kspecemPanic_ready env env.kernel.panicDepth failed

theorem printRestartStatistics_ready : Keeps Ready Sound printRestartStatistics := by
  refine keeps_printRestartStatistics (fun s start => start.sound (by decide)) fun s start => ?_
  rcases start.rows with found | rowless
  · refine Or.inr ⟨start, ?_⟩
    rintro table same
    rw [← Exit.outOfBounds.inj same]
    exact found
  · exact Or.inl rowless.inUse

theorem hookNewCheckpoint_ready (env : Env) (inInterrupt : Bool)
    : Keeps Ready Sound (hookNewCheckpoint env env.onFail inInterrupt) := by
  intro s start
  refine (env.readyTour.hookNewCheckpoint (ready_loads _) inInterrupt start
    (fun _ t start => start.congr rfl rfl rfl) fun _ _ quiet _ start => start.quiet quiet).imp ?_
    (fun _ _ exit => exit)
  rintro token t (⟨_, kept⟩ | ⟨_, opened⟩)
  · exact kept
  · exact opened

end

/-- Restarts for inline assembly find their table, in the state their section was entered in. -/
def Action.FindsRows (env : Env) (s : Rt) : Action → Prop
  | .restart .restartCallInlineAsm _ =>
      s.initDone = true
      → ∀ irqFlags t, enterKspecemRt env env.onFail s = .ok irqFlags t → t.FindsRows
  | _ => True

section
variable {env : Env} {s : Rt}

theorem hookRestart_inlineasm (callArg : Address) (start : Ready s)
    (finds : (Action.restart .restartCallInlineAsm callArg).FindsRows env s)
    : Ends (hookRestart env env.onFail true .restartCallInlineAsm callArg) (fun _ t => Ready t)
        Sound s := by
  have tour := env.readyTour
  rw [hookRestart, ends_bind, ends_get, ends_ite]
  refine ⟨fun _ => start, fun initDone => ?_⟩
  have initDone := Bool.of_not_eq_false initDone
  have entered : Ends (enterKspecemRt env env.onFail) (fun _ t => Ready t ∧ t.FindsRows) Sound s :=
    ((tour.enterKspecemRt (ready_loads _) s start).and
      (Ends.intro (fun irqFlags t same => finds initDone irqFlags t same)
        fun _ _ _ => True.intro)).imp (fun _ _ both => both) (fun _ _ both => both.1)
  refine entered.bind ?_
  rintro irqFlags t ⟨start, finds⟩
  refine Ends.bind (restart_ready tour.fails start fun _ => finds) fun ret u start => ?_
  exact keeps_bind (tour.leaveKspecemRt (ready_loads _) _ _) (fun _ => keeps_pure _) u start

/-- Once the tables are there, an event uses none that is not. -/
theorem Action.run_ready {action : Action} (start : Ready s) (finds : action.FindsRows env s)
    : Ends (action.run env) (fun _ t => Ready t) Sound s := by
  have tour := env.readyTour
  by_cases closed : action.MayOpen
  · cases action with
    | newCheckpoint inInterrupt =>
        exact keeps_bind (hookNewCheckpoint_ready env inInterrupt) (fun _ => keeps_pure _) s start
    | branch saveFrames leaveFrames inInterrupt frameaddress rsp cpu returnAddress =>
        have saving := Env.readyTour { env with frames := saveFrames }
        have leaving := Env.readyTour { env with frames := leaveFrames }
        refine keeps_bind (keeps_bind (hookNewCheckpoint_ready env inInterrupt) fun token => ?_)
          (fun _ => keeps_pure _) s start
        refine keeps_bind (saving.hookSaveStack _ _ _) fun _ => ?_
        refine keeps_bind (tour.modify fun _ => ⟨rfl, rfl, rfl, rfl, rfl, rfl, rfl⟩) fun _ => ?_
        exact keeps_bind (leaving.hookLeaveRt (ready_loads _) _) fun _ => keeps_pure _
    | _ => exact closed.elim
  · by_cases inlineasm : ∃ callArg, action = .restart .restartCallInlineAsm callArg
    · obtain ⟨callArg, rfl⟩ := inlineasm
      exact (hookRestart_inlineasm callArg start finds).bind fun _ _ kept => kept
    · refine tour.run (fun s start => start.sound (by decide))
        (fun s start => start.sound (by decide)) printRestartStatistics_ready closed ?_ s start
      rintro restartType callArg rfl
      refine fun t start => restart_ready tour.fails start fun same => ?_
      exact absurd ⟨callArg, by rw [same]⟩ inlineasm

-----------------------------------------------------------------------------------------
-- Before the late initialisation
-----------------------------------------------------------------------------------------

/-- An access before the late initialisation would be one to no table at all. -/
def EarlyExit (e : Exit) (t : Rt) : Prop :=
  Early t ∧ ∀ table, e ≠ .outOfBounds table

theorem Early.congr {t : Rt} (h : Early s) (initDone : t.initDone = s.initDone)
    (idle : t.inSpeculativeEmulation = s.inSpeculativeEmulation) (log : t.log = s.log)
    (stats : t.stats = s.stats) (stack : t.stack.stack = s.stack.stack)
    (reports : t.reports = s.reports)
    : Early t where
  initDone := initDone.trans h.initDone
  idle := idle.trans h.idle
  disabled := by
    rw [log]
    exact h.disabled
  entries := by
    rw [stats]
    exact h.entries
  stack := by
    rw [stack]
    exact h.stack
  rows := by
    refine ⟨?_, ?_, ?_⟩ <;> rw [stats]
    · exact h.rows.base
    · exact h.rows.size
    · exact h.rows.inUse
  cells := by
    intro table
    refine Eq.trans ?_ (h.cells table)
    cases table <;> simp only [Rt.cells, log, stats, stack, reports]

/-- A failing assertion ends the kernel outside speculation. -/
theorem ltAssert_early {p : Prop} [Decidable p] {file condition : String} {line : Nat}
    (start : Early s)
    : Ends (ltAssert env.onFail p file line condition) (fun _ t => p ∧ t = s) EarlyExit s := by
  have loud : FailsLoudly env.onFail := kspecemPanic_loud env env.kernel.panicDepth
  refine ends_ltAssert (fun pass => ⟨pass, rfl⟩) fun fail => ?_
  refine (loud _ s start.idle).imp (fun _ _ no => no.elim) ?_
  rintro e t ⟨exit, rfl⟩
  refine ⟨start.congr rfl rfl rfl rfl rfl rfl, ?_⟩
  rintro table rfl
  rcases exit with overflow | panics <;> contradiction

/-- Without a stack buffer no frame is copied. -/
theorem hookSaveStack_early (start : Early s) (irqFlags : Word) (frameaddress rsp : Address)
    : Ends (hookSaveStack env.onFail irqFlags frameaddress rsp) (fun _ t => Early t) EarlyExit
        s := by
  rw [hookSaveStack, ends_ite]
  refine ⟨fun _ => ?_, fun _ => start⟩
  have saving : Early
      { s with
        stack := { s.stack with baseAddress := frameaddress, len := frameaddress - rsp } } :=
    start.congr rfl rfl rfl rfl rfl rfl
  rw [saveStack, ends_bind, ends_modify, ends_bind, ends_get]
  refine (ltAssert_early saving).bind ?_
  rintro _ t ⟨_, rfl⟩
  refine (ltAssert_early saving).bind ?_
  rintro _ t ⟨_, rfl⟩
  refine (ltAssert_early saving).bind ?_
  rintro _ t ⟨_, rfl⟩
  refine (ltAssert_early saving).bind ?_
  rintro _ t ⟨allocated, rfl⟩
  exact absurd start.stack allocated

theorem hookStore_early {E : Exit → Rt → Prop} (a : Address) (start : Early s)
    : Ends (hookStore env env.onFail a) (fun _ t => t = s) E s := by
  simp [hookStore, start.initDone, ends_ite]

theorem leaveKspecemRt_early (start : Early s) (line : Nat) (irqFlags : Word) (file : String)
    : Ends (leaveKspecemRt env env.onFail line irqFlags file) (fun _ t => Early t) EarlyExit
        s := by
  rw [leaveKspecemRt, ends_bind, ends_get]
  refine (ltAssert_early start).bind ?_
  rintro _ t ⟨_, rfl⟩
  simp only [restartNmi, countNmi, localIrqRestore, unsetRt, ends_bind, ends_modify]
  refine (hookStore_early _ start).imp ?_ (fun _ _ exit => exit)
  rintro _ t rfl
  exact start.congr rfl rfl rfl rfl rfl rfl

theorem hookNewCheckpoint_early {E : Exit → Rt → Prop} (start : Early s) (inInterrupt : Bool)
    : Ends (hookNewCheckpoint env env.onFail inInterrupt)
        (fun token t => token = noCheckpoint ∧ t = s) E s := by
  simp [hookNewCheckpoint, start.initDone]

theorem report_early {E : Exit → Rt → Prop} (start : Early s) (call : ReportCall)
    : Ends (call.run env) (fun _ t => t = s) E s := by
  cases call with
  | kasan addr size isWrite ip =>
      simp [ReportCall.run, hookKasanReport, hookReport, start.initDone, ends_ite]
  | ridl addr size isWrite ip dataLabel ptrLabel =>
      simp [ReportCall.run, hookRidlReport, hookReport, start.initDone]
  | specv1 addr size isWrite ip dataLabel ptrLabel =>
      simp [ReportCall.run, hookSpecv1Report, hookReport, start.initDone]
  | smotherspectre ip label =>
      simp [ReportCall.run, hookSmotherspectreReport, hookReport, start.initDone]

theorem timerBetween_early {E : Exit → Rt → Prop} (start : Early s) (leaving : Bool)
    (regs frameaddr : Address) (interrupted : PtRegs)
    : Ends (timerBetween env leaving regs frameaddr interrupted) (fun _ t => Early t) E s := by
  have kept (t : Rt) (start : Early t)
      : Ends (timerInterrupt env regs frameaddr interrupted) (fun _ t => Early t) E t := by
    have idle : ¬t.inSpeculativeEmulation = true := by simp [start.idle]
    rw [timerInterrupt, ends_bind, enterInterrupt, ends_modify, ends_bind, ends_get, ends_bind,
      hookInterruptTimer, ends_bind, ends_get, if_pos start.initDone, ends_pure, ends_bind,
      leaveInterrupt, ends_modify, if_neg idle]
    exact start.congr rfl rfl rfl rfl rfl rfl
  rw [timerBetween, ends_ite]
  refine ⟨fun _ => ?_, fun _ => kept s start⟩
  rw [ends_bind, setRt, ends_modify, ends_bind]
  refine (kept { s with isInRt := true } (start.congr rfl rfl rfl rfl rfl rfl)).imp ?_
    (fun _ _ exit => exit)
  exact fun _ t start => start.congr rfl rfl rfl rfl rfl rfl

theorem exceptionInterrupt_early {E : Exit → Rt → Prop} (start : Early s)
    (regs frameaddr : Address) (interrupted : PtRegs) (exceptionType : Int)
    : Ends (exceptionInterrupt env regs frameaddr interrupted exceptionType)
        (fun _ t => Early t) E s := by
  rw [exceptionInterrupt, ends_bind, enterInterrupt, ends_modify, ends_bind,
    hookInterruptException, ends_bind, ends_get, if_pos start.initDone, ends_pure, ends_bind,
    leaveInterrupt, ends_modify, if_neg (by decide)]
  exact start.congr rfl rfl rfl rfl rfl rfl

/-- Before the late initialisation no event uses a table. -/
theorem Action.run_early {action : Action} (start : Early s)
    : Ends (action.run env) (fun _ t => Early t) EarlyExit s := by
  cases action with
  | checkSpecLength bbInstCount =>
      simp [Action.run, hookCheckSpecLength, start.idle, start]
  | panicInfo =>
      rw [Action.run, hookPanicInfo, Kasper.panicInfo, ends_bind, ends_get]
      simp only [start.entries, readRows, ends_pure, start]
  | printRestartStatistics =>
      simp [Action.run, hookPrintRestartStatistics, start.initDone, start]
  | checkCallDepth => simp [Action.run, hookCheckCallDepth, start.initDone, start]
  | newCheckpoint inInterrupt =>
      refine (hookNewCheckpoint_early start inInterrupt).bind ?_
      rintro token t ⟨_, rfl⟩
      exact start
  | saveStack irqFlags frameaddress rsp => exact hookSaveStack_early start _ _ _
  | saveRegisters cpu returnAddress token => exact start.congr rfl rfl rfl rfl rfl rfl
  | leaveRt irqFlags =>
      rw [Action.run, hookLeaveRt, ends_ite]
      exact ⟨fun _ => leaveKspecemRt_early start _ _ _, fun _ => start⟩
  | branch saveFrames leaveFrames inInterrupt frameaddress rsp cpu returnAddress =>
      rw [Action.run, branchHooks, ends_bind, ends_bind]
      refine (hookNewCheckpoint_early start inInterrupt).imp ?_ (fun _ _ exit => exit)
      rintro token t ⟨rfl, rfl⟩
      exact start.congr rfl rfl rfl rfl rfl rfl
  | restart restartType callArg => simp [Action.run, hookRestart, start.initDone, start]
  | store addr =>
      exact (hookStore_early addr start).imp (fun _ _ same => same ▸ start) (fun _ _ exit => exit)
  | memcpy addr size => simp [Action.run, hookMemcpy, start.initDone, ends_ite, start]
  | report call =>
      exact (report_early start call).imp (fun _ _ same => same ▸ start) (fun _ _ exit => exit)
  | isWhitelistTask => simp [Action.run, hookIsWhitelistTask, start.initDone, start]
  | access pfDummyRegion ptr size addrValid => simp [Action.run, hookAccess, start.idle, start]
  | timer leaving regs frameaddr interrupted => exact timerBetween_early start _ _ _ _
  | exception regs frameaddr interrupted exceptionType =>
      exact exceptionInterrupt_early start _ _ _ _
  | write target bytes =>
      rw [Action.run, programWrite, ends_ite, ends_modify, ends_throw]
      exact ⟨fun _ => start.congr rfl rfl rfl rfl rfl rfl, fun _ => ⟨start, by simp⟩⟩
  | setIrqs enabled => exact start.congr rfl rfl rfl rfl rfl rfl

-----------------------------------------------------------------------------------------
-- The late initialisation
-----------------------------------------------------------------------------------------

/-- Every allocation succeeds: none of the pointers is null. -/
structure Heap.Allocated (heap : Heap) : Prop where
  specStatistics : heap.specStatistics ≠ 0
  totalStatistics : heap.totalStatistics ≠ 0
  inlineasmRestartStats : heap.inlineasmRestartStats ≠ 0
  previousBugsMap : heap.previousBugsMap ≠ 0
  previousBugsBlock : ∀ i, heap.previousBugsBlock i ≠ 0
  bugs : heap.bugs ≠ 0
  wlStack : heap.wlStack ≠ 0
  writelogAddrs : heap.writelogAddrs ≠ 0
  writelogData : heap.writelogData ≠ 0
  writelogMeta : heap.writelogMeta ≠ 0

/-- The loop that allocates the map's blocks comes to its end before its `int` turns. -/
def Kernel.BlocksFit (kernel : Kernel) : Prop :=
  (allocBlocks kernel).toNat ≤ 2 ^ 31

theorem statsInlineasmInit_rows {heap : Heap} {E : Exit → Rt → Prop}
    (allocated : heap.inlineasmRestartStats ≠ 0) (rowless : Rowless s)
    : Ends (statsInlineasmInit heap)
        (fun _ t =>
          OnlyStats s t
          ∧ t.stats.specStatistics = s.stats.specStatistics
          ∧ (t.Exists .inlineasmRestartStats ∨ Rowless t))
        E s := by
  rw [statsInlineasmInit, ends_bind, ends_get, ends_ite]
  exact ⟨fun _ => ⟨rfl, rfl, Or.inl allocated⟩, fun _ => ⟨rfl, rfl, Or.inr rowless⟩⟩

/-- The report tables are allocated whole. -/
theorem reportInit_tables {mapBase bugsBase : Address} {blockBase : Nat → Address}
    {E : Exit → Rt → Prop} (map : mapBase ≠ 0) (blocks : ∀ i, blockBase i ≠ 0)
    (bugs : bugsBase ≠ 0) (fits : env.kernel.BlocksFit)
    : Ends (reportInit env.kernel env.onFail mapBase bugsBase blockBase)
        (fun _ t =>
          OnlyReports s t
          ∧ t.reports.bugs.base ≠ 0
          ∧ t.reports.previousBugsMap.base ≠ 0
          ∧ ∀ i < t.reports.previousBugsMap.size, (t.reports.previousBugsMap.cell i).base ≠ 0)
        E s := by
  rw [reportInit, ends_bind, ends_modify, ends_bind]
  refine ends_ltAssert_pos bugs ?_
  rw [reportClearGlobals, ends_bind, ends_get, ends_ite]
  refine ⟨fun short => absurd short (Nat.lt_irrefl _), fun _ => ?_⟩
  rw [ends_modify]
  refine ⟨rfl, bugs, map, fun i below => ?_⟩
  have first : i < 2 ^ 31 := Nat.lt_of_lt_of_le below fits
  simp only [if_pos first]
  exact blocks i

theorem stackInit_tables {heap : Heap} {E : Exit → Rt → Prop} (allocated : heap.wlStack ≠ 0)
    : Ends (stackInit env.onFail heap)
        (fun _ t => t = { s with stack := t.stack } ∧ t.Exists .wlStack) E s := by
  rw [stackInit, ends_bind, ends_modify, ends_bind]
  exact ends_ltAssert_pos allocated ⟨rfl, allocated⟩

theorem writelogInit_tables {heap : Heap} {E : Exit → Rt → Prop}
    (addrs : heap.writelogAddrs ≠ 0) (data : heap.writelogData ≠ 0)
    (metas : heap.writelogMeta ≠ 0)
    : Ends (writelogInit env.onFail heap)
        (fun _ t =>
          t = { s with log := t.log }
          ∧ t.log.enabled = false
          ∧ t.Exists .writelogAddrs
          ∧ t.Exists .writelogData
          ∧ t.Exists .writelogMeta)
        E s := by
  rw [writelogInit, ends_bind, ends_modify, ends_bind]
  refine ends_ltAssert_pos addrs ?_
  rw [ends_bind]
  refine ends_ltAssert_pos data ?_
  rw [ends_bind]
  exact ends_ltAssert_pos metas ⟨rfl, rfl, addrs, data, metas⟩

/-- The late initialisation allocates every table, but the one whose switch is off. -/
theorem commonLateInit_ready {heap : Heap} (allocated : heap.Allocated)
    (fits : env.kernel.BlocksFit) (start : Early s)
    : Ends (commonLateInit env env.onFail heap) (fun _ t => Ready t) (fun _ _ => False) s := by
  rw [commonLateInit, ends_bind, ends_get, if_pos start.initDone, ends_bind,
    enterKspecemRt_disabled start.disabled, ends_bind, statisticsInit, ends_modify]
  have rowless := start.rows
  refine Ends.bind (statsInlineasmInit_rows allocated.inlineasmRestartStats
    ⟨rowless.base, rowless.size, rowless.inUse⟩) ?_
  rintro _ r ⟨counted, spec, rows⟩
  rw [ends_bind, statsRestartsInit, ends_modify]
  refine Ends.bind (reportInit_tables allocated.previousBugsMap allocated.previousBugsBlock
    allocated.bugs fits) ?_
  rintro _ u ⟨reported, bugs, map, blocks⟩
  rw [initData, ends_bind, ends_bind, ends_modify, ends_bind, setSwapBranchCondition,
    ends_modify, ends_modify]
  refine Ends.bind (stackInit_tables allocated.wlStack) ?_
  rintro _ v ⟨stacked, stack⟩
  refine Ends.bind (writelogInit_tables allocated.writelogAddrs allocated.writelogData
    allocated.writelogMeta) ?_
  rintro _ w ⟨logged, disabled, addrs, data, metas⟩
  -- what the later steps left of the earlier tables
  have irqs : w.irqsEnabled = false := by
    rw [logged, stacked, reported, counted]
    rfl
  have keptReports : w.reports = u.reports := by
    rw [logged, stacked]
  have keptStats
      : w.stats
        = { r.stats with
            totalStatistics :=
              { base := heap.totalStatistics, size := 1, cell := fun _ => .zero } } := by
    rw [logged, stacked, reported]
  rw [← keptReports] at bugs map blocks
  have stack : w.stack.stack.base ≠ 0 := by
    rw [logged]
    exact stack
  have spec : w.stats.specStatistics
      = { base := heap.specStatistics, size := specStatisticsSize, cell := fun _ => .zero } := by
    rw [keptStats, spec]
  rw [ends_bind, leaveKspecemRt_disabled disabled irqs, ends_modify]
  have found (table : TableId) (other : table ≠ .inlineasmRestartStats) : w.Exists table := by
    cases table with
    | writelogAddrs => exact addrs
    | writelogData => exact data
    | writelogMeta => exact metas
    | wlStack => exact stack
    | bugs => exact bugs
    | previousBugsMap => exact map
    | previousBugsBlock => exact blocks
    | specStatistics =>
        rw [Rt.Exists, spec]
        exact allocated.specStatistics
    | totalStatistics =>
        rw [Rt.Exists, keptStats]
        exact allocated.totalStatistics
    | inlineasmRestartStats => exact absurd rfl other
  refine ⟨rfl, fun table other => (found table other).congr rfl rfl rfl, ?_, ?_, ?_⟩
  · exact Nat.le_of_eq (congrArg Table.size spec).symm
  · exact Nat.lt_of_lt_of_eq Nat.one_pos
      (congrArg (fun stats => stats.totalStatistics.size) keptStats).symm
  -- the rows exist, or the switch was off and none is in use
  · have base := congrArg (fun stats => stats.inlineasmRestartStats.base) keptStats
    refine rows.imp (fun found => base.trans_ne found) fun rowless => ⟨?_, ?_, ?_⟩
    · exact base.trans rowless.base
    · exact (congrArg (fun stats => stats.inlineasmRestartStats.size) keptStats).trans rowless.size
    · exact (congrArg Statistics.inlineasmRestartStatSize keptStats).trans rowless.inUse

/-- A state in which counting a restart for inline assembly has no table to count in. -/
structure Lost (s : Rt) : Prop where
  entries : specStatisticsSize ≤ s.stats.specStatistics.size
  totals : 0 < s.stats.totalStatistics.size
  enabled : s.stats.inlineasmRestartStatsEnabled = true
  rows : Rowless s

/-- An access to the inline-assembly table, which does not exist. -/
def LostAccess (e : Exit) (t : Rt) : Prop :=
  e = .outOfBounds .inlineasmRestartStats ∧ ¬t.Exists .inlineasmRestartStats

theorem addSpecStatistics_lost {onFail : SpecAssert → RtM Unit} (lost : Lost s)
    (funcType : FuncType) (arg1 : Word) (arg2 : Int) (arg3 : Word) (returnAddr : Address)
    : Ends (addSpecStatistics onFail funcType arg1 arg2 arg3 returnAddr) (fun _ t => Lost t)
        LostAccess s := by
  rw [addSpecStatistics, ends_bind, ends_get, ends_ite]
  refine ⟨fun _ => lost, fun room => ?_⟩
  have room := Nat.lt_of_not_le room
  rw [ends_bind]
  refine ends_ltAssert_pos room ?_
  rw [ends_bind, ends_checkBounds, ends_modify]
  refine ⟨fun _ => ?_, fun past => absurd (Nat.lt_of_lt_of_le room lost.entries) past⟩
  exact ⟨lost.entries, lost.totals, lost.enabled, lost.rows.base, lost.rows.size, lost.rows.inUse⟩

/-- Its first row is written through a null pointer. -/
theorem addRestartToStatistics_lost (lost : Lost s) (callArg : Address)
    : Ends (addRestartToStatistics .restartCallInlineAsm callArg) (fun _ _ => False) LostAccess
        s := by
  rw [addRestartToStatistics, ends_bind, ends_get, ends_bind, ends_checkBounds]
  refine ⟨fun _ => ?_, fun past => absurd lost.totals past⟩
  rw [ends_bind, ends_modify, if_pos rfl, ends_bind, ends_get]
  simp only [lost.enabled, ↓reduceIte]
  rw [addInlineasmRestart, ends_bind, ends_get]
  simp only [lost.rows.inUse, findInlineasmStat, ends_bind, ends_pure]
  rw [if_neg (by decide), if_neg (by decide), ends_bind, putInlineasmStat, ends_bind, ends_get,
    ends_bind, ends_checkBounds]
  refine ⟨fun inside => ?_, fun _ => ⟨rfl, fun found => found lost.rows.base⟩⟩
  rw [lost.rows.size] at inside
  exact absurd inside (Nat.lt_irrefl 0)

/-- A restart that does not find the table comes to use it. -/
theorem restart_lost {onFail : SpecAssert → RtM Unit} (start : Ready s)
    (unfound : ¬s.FindsRows) (direct : Bool) (callArg frameaddr regs : Address)
    : Ends (restart env onFail direct .restartCallInlineAsm callArg frameaddr regs)
        (fun _ _ => False) LostAccess s := by
  simp only [Rt.FindsRows, Classical.not_imp] at unfound
  obtain ⟨inSpec, passed, enabled, null⟩ := unfound
  have rowless := start.rows.resolve_left null
  have lost : Lost { s with isInRestart := true } :=
    ⟨start.entries, start.totals, enabled, rowless.base, rowless.size, rowless.inUse⟩
  rw [restart, ends_bind, ends_get, if_neg (by simp [inSpec]), ends_bind, ends_modify, ends_bind,
    ends_get, if_pos passed, ends_bind, ends_get, if_neg (by simp)]
  refine (addSpecStatistics_lost lost _ _ _ _ _).bind fun _ t lost => ?_
  rw [if_pos rfl]
  exact (addRestartToStatistics_lost lost _).bind fun _ _ no => no.elim

/-- Before the late initialisation no restart comes to look. -/
theorem Action.findsRows_early {action : Action} (start : Early s) : action.FindsRows env s := by
  cases action with
  | restart restartType callArg =>
      cases restartType with
      | restartCallInlineAsm =>
          exact fun initDone => absurd (start.initDone.symm.trans initDone) Bool.false_ne_true
      | _ => exact True.intro
  | _ => exact True.intro

/-- An event that is to find the table and does not uses it all the same. -/
theorem Action.run_lost {action : Action} (start : Ready s) (unfound : ¬action.FindsRows env s)
    : ∃ t, action.run env s = .error (.outOfBounds .inlineasmRestartStats) t
        ∧ ¬t.Exists .inlineasmRestartStats := by
  have ends : Ends (action.run env) (fun _ _ => False) LostAccess s := by
    cases action with
    | restart restartType callArg =>
        cases restartType with
        | restartCallInlineAsm =>
            simp only [Action.FindsRows, Classical.not_imp, not_forall] at unfound
            obtain ⟨initDone, irqFlags, t, entered, unfound⟩ := unfound
            have kept : Ready t :=
              (env.readyTour.enterKspecemRt (ready_loads _) s start).of_ok entered
            rw [Action.run, ends_bind, hookRestart, ends_bind, ends_get,
              if_neg (by simp [initDone]), ends_bind]
            refine Ends.intro ?_ ?_
            · intro w u same
              rw [entered] at same
              cases same
              exact (restart_lost kept unfound _ _ _ _).bind fun _ _ no => no.elim
            · intro e u same
              rw [entered] at same
              contradiction
        | _ => exact absurd True.intro unfound
    | _ => exact absurd True.intro unfound
  cases result : action.run env s with
  | ok _ t => exact (ends.of_ok result).elim
  | error e t =>
      obtain ⟨rfl, null⟩ := ends.of_error result
      exact ⟨t, rfl, null⟩

end

-----------------------------------------------------------------------------------------
-- Runs from the kernel image
-----------------------------------------------------------------------------------------

/-- What debugfs writes, and the flags of the other runtimes, may change at any time. -/
def Rt.switched (s : Rt) (switches : Switches) : Rt :=
  { s with
    whitelistType := switches.whitelistType
    maxCallDepth := switches.maxCallDepth
    swapBranchEnabled := switches.swapBranchEnabled
    kdfIsInitDone := switches.kdfIsInitDone
    kdfIsInRt := switches.kdfIsInRt
    kdfinitIsInitDone := switches.kdfinitIsInitDone
    kdfinitIsInRt := switches.kdfinitIsInRt
    reports := { s.reports with printLevel := switches.printLevel }
    stats :=
      { s.stats with inlineasmRestartStatsEnabled := switches.inlineasmRestartStatsEnabled } }

/-- An event, a write of the switches, or a call of `kspecem_common_late_init` with its stack
addresses, its task and what the allocator hands out.
-/
inductive Occurrence
  | happens (event : Event)
  | setSwitches (switches : Switches)
  | lateInit (frames : Frames) (task : Task) (heap : Heap)

def Occurrence.run (kernel : Kernel) : Occurrence → RtM Unit
  | .happens event => event.run kernel
  | .setSwitches switches => modify fun s => s.switched switches
  | .lateInit frames task heap =>
      let env : Env := { kernel, frames, task }
      commonLateInit env env.onFail heap

/-- The kernel writes switches and initialises the runtime while it runs; its allocations
succeed.
-/
def Occurrence.Enabled (m : Machine) : Occurrence → Prop
  | .happens event => m.Enabled event.action
  | .setSwitches _ => m.phase = .running
  | .lateInit _ _ heap => m.phase = .running ∧ heap.Allocated

def Occurrence.FindsRows (kernel : Kernel) (s : Rt) : Occurrence → Prop
  | .happens event => event.action.FindsRows (event.env kernel) s
  | _ => True

/-- A run in which every restart for inline assembly finds its table. -/
inductive FindingRun (kernel : Kernel) (start : Machine) : Machine → Prop
  | refl : FindingRun kernel start start
  | step {m : Machine} {occurrence : Occurrence} (run : FindingRun kernel start m)
    (enabled : occurrence.Enabled m) (finds : occurrence.FindsRows kernel m.rt)
    : FindingRun kernel start (.after (occurrence.run kernel m.rt))

theorem FindingRun.after {kernel : Kernel} {start m : Machine} (run : FindingRun kernel start m)
    (occurrence : Occurrence) (enabled : occurrence.Enabled m)
    (finds : occurrence.FindsRows kernel m.rt)
    : FindingRun kernel start (.after (occurrence.run kernel m.rt)) :=
  .step run enabled finds

section
variable {kernel : Kernel} {s : Rt}

/-- The runtime is initialised or it is not. -/
def EarlyOrReady (s : Rt) : Prop :=
  Early s ∨ Ready s

theorem Ready.switched (h : Ready s) (switches : Switches) : Ready (s.switched switches) where
  initDone := h.initDone
  tables := fun table other => (h.tables table other).congr rfl rfl rfl
  entries := h.entries
  totals := h.totals
  rows := h.rows.imp (fun found => found.congr rfl rfl rfl)
    (fun rowless => ⟨rowless.base, rowless.size, rowless.inUse⟩)

theorem Early.switched (h : Early s) (switches : Switches) : Early (s.switched switches) where
  initDone := h.initDone
  idle := h.idle
  disabled := h.disabled
  entries := h.entries
  stack := h.stack
  rows := ⟨h.rows.base, h.rows.size, h.rows.inUse⟩
  cells := by
    intro table
    have same : (s.switched switches).cells table = s.cells table := by cases table <;> rfl
    exact same.trans (h.cells table)

/-- What happens next uses no table that does not exist, if it finds its rows. -/
theorem Occurrence.run_sound (fits : kernel.BlocksFit) {occurrence : Occurrence} {m : Machine}
    (start : EarlyOrReady m.rt) (enabled : occurrence.Enabled m)
    (finds : occurrence.FindsRows kernel m.rt)
    : Ends (occurrence.run kernel) (fun _ t => EarlyOrReady t)
        (fun e t => EarlyOrReady t ∧ ∀ table, e = .outOfBounds table → t.Exists table) m.rt := by
  cases occurrence with
  | happens event =>
      rcases start with early | ready
      · refine (Action.run_early early).imp (fun _ _ early => Or.inl early) ?_
        rintro e t ⟨early, inside⟩
        exact ⟨Or.inl early, fun table out => absurd out (inside table)⟩
      · exact (Action.run_ready ready finds).imp (fun _ _ ready => Or.inr ready)
          (fun _ _ exit => ⟨Or.inr exit.1, exit.2⟩)
  | setSwitches switches =>
      exact start.imp (fun early => early.switched switches) (fun ready => ready.switched switches)
  | lateInit frames task heap =>
      rcases start with early | ready
      · have initialises :=
          @commonLateInit_ready { kernel, frames, task } _ heap enabled.2 fits early
        exact initialises.imp (fun _ _ ready => Or.inr ready) (fun _ _ no => no.elim)
      · rw [Occurrence.run, commonLateInit, ends_bind, ends_get, if_neg (by simp [ready.initDone])]
        exact Or.inr ready

/-- Along such a run the tables are all there or all unused, by induction on the run. -/
theorem FindingRun.earlyOrReady (fits : kernel.BlocksFit) {start m : Machine}
    (begins : EarlyOrReady start.rt) (run : FindingRun kernel start m)
    : EarlyOrReady m.rt := by
  induction run with
  | refl => exact begins
  | @step m occurrence run enabled finds ih =>
      have ends := Occurrence.run_sound fits ih enabled finds
      cases result : occurrence.run kernel m.rt with
      | ok _ t => exact ends.of_ok result
      | error e t =>
          have kept := (ends.of_error result).1
          cases e <;> exact kept

theorem static_early (switches : Switches) (mem : Memory) (cpu : PtRegs) (irqsEnabled : Bool)
    : Early (Rt.static switches mem cpu irqsEnabled) :=
  ⟨rfl, rfl, rfl, rfl, rfl, ⟨rfl, rfl, rfl⟩, fun table => by cases table <;> rfl⟩

/-- A table that does not exist has no cells. -/
theorem EarlyOrReady.cells (h : EarlyOrReady s) (table : TableId) (null : ¬s.Exists table)
    : s.cells table = 0 := by
  rcases h with early | ready
  · exact early.cells table
  · by_cases rows : table = .inlineasmRestartStats
    · subst rows
      exact (ready.rows.resolve_left null).size
    · exact absurd (ready.tables table rows) null

/-- In every run from the kernel image whose restarts for inline assembly all find their
table, an access to a table that does not exist leaves its bounds, and what happens next
makes no such access if and only if it finds its rows.
-/
theorem tables_exist_iff (fits : kernel.BlocksFit) {switches : Switches} {mem : Memory}
    {cpu : PtRegs} {irqsEnabled : Bool} {m : Machine} {occurrence : Occurrence}
    (run : FindingRun kernel ⟨Rt.static switches mem cpu irqsEnabled, .running⟩ m)
    (enabled : occurrence.Enabled m)
    : (∀ table, ¬m.rt.Exists table → m.rt.cells table = 0)
      ∧ ((∀ table t,
          occurrence.run kernel m.rt = .error (.outOfBounds table) t → t.Exists table)
        ↔ occurrence.FindsRows kernel m.rt) := by
  have state : EarlyOrReady m.rt :=
    run.earlyOrReady fits (Or.inl (static_early switches mem cpu irqsEnabled))
  refine ⟨state.cells, ?_, ?_⟩
  · intro sound
    by_contra unfound
    cases occurrence with
    | happens event =>
        rcases state with early | ready
        · exact unfound (Action.findsRows_early early)
        · obtain ⟨t, lost, null⟩ := Action.run_lost ready unfound
          exact null (sound _ t lost)
    | setSwitches switches => exact unfound True.intro
    | lateInit frames task heap => exact unfound True.intro
  · intro finds table t out
    exact ((Occurrence.run_sound fits state enabled finds).of_error out).2 table rfl

end

/-- The machine after a list of occurrences. -/
def bootedBy (occurrences : List Occurrence) : Machine :=
  occurrences.foldl (fun m occurrence => .after (occurrence.run sampleKernel m.rt))
    ⟨sampleStatic, .running⟩

/-- The switches with the statistics of inline assembly turned on. -/
def sampleSwitchesOn : Switches :=
  { sampleSwitches with inlineasmRestartStatsEnabled := true }

def sampleLateInit : Occurrence :=
  .lateInit sampleFrames sampleEnv.task sampleHeap

/-- The switch is turned on before the late initialisation and an episode. -/
def sampleOnEarly : Machine :=
  bootedBy [.setSwitches sampleSwitchesOn, sampleLateInit, .happens sampleBranch]

/-- The switch is turned on in an episode, after the late initialisation. -/
def sampleOnLate : Machine :=
  bootedBy [sampleLateInit, .happens sampleBranch, .setSwitches sampleSwitchesOn]

theorem sampleHeap_allocated : sampleHeap.Allocated where
  specStatistics := by decide
  totalStatistics := by decide
  inlineasmRestartStats := by decide
  previousBugsMap := by decide
  previousBugsBlock := fun _ => (by decide : (0x1400000 : Address) ≠ 0)
  bugs := by decide
  wlStack := by decide
  writelogAddrs := by decide
  writelogData := by decide
  writelogMeta := by decide

theorem sampleKernel_blocksFit : sampleKernel.BlocksFit := by
  unfold Kernel.BlocksFit
  decide

theorem sampleOnEarly_reached
    : FindingRun sampleKernel ⟨sampleStatic, .running⟩ sampleOnEarly := by
  refine ((FindingRun.refl.after (.setSwitches sampleSwitchesOn) ?_ True.intro).after
    sampleLateInit ?_ True.intro).after (.happens sampleBranch) ?_ True.intro
  · rfl
  · exact ⟨rfl, sampleHeap_allocated⟩
  · exact (by decide : Machine.Enabled (bootedBy [.setSwitches sampleSwitchesOn, sampleLateInit])
      sampleBranch.action)

theorem sampleOnLate_reached
    : FindingRun sampleKernel ⟨sampleStatic, .running⟩ sampleOnLate := by
  refine ((FindingRun.refl.after sampleLateInit ?_ True.intro).after
    (.happens sampleBranch) ?_ True.intro).after (.setSwitches sampleSwitchesOn) ?_ True.intro
  · exact ⟨rfl, sampleHeap_allocated⟩
  · exact (by decide : Machine.Enabled (bootedBy [sampleLateInit]) sampleBranch.action)
  · rfl

theorem tables_exist_iff_sample
    : (∀ table, ¬sampleOnEarly.rt.Exists table → sampleOnEarly.rt.cells table = 0)
      ∧ ((∀ table t,
          (Occurrence.happens (sampleEvent (.restart .restartCallInlineAsm 0))).run sampleKernel
              sampleOnEarly.rt
            = .error (.outOfBounds table) t
          → t.Exists table)
        ↔ (Occurrence.happens (sampleEvent (.restart .restartCallInlineAsm 0))).FindsRows
            sampleKernel sampleOnEarly.rt) :=
  tables_exist_iff sampleKernel_blocksFit sampleOnEarly_reached
    (by exact (by decide : sampleOnEarly.Enabled (.restart .restartCallInlineAsm 0)))

/-- With the switch on late, a restart for inline assembly writes through a null pointer. -/
theorem switchedOn_late_uses_null
    : FindingRun sampleKernel ⟨sampleStatic, .running⟩ sampleOnLate
      ∧ sampleOnLate.Enabled (.restart .restartCallInlineAsm 0)
      ∧ ∃ t,
          (sampleEvent (.restart .restartCallInlineAsm 0)).run sampleKernel sampleOnLate.rt
              = .error (.outOfBounds .inlineasmRestartStats) t
            ∧ ¬t.Exists .inlineasmRestartStats :=
  ⟨sampleOnLate_reached, by decide, _, rfl, fun found => found rfl⟩

end Kasper
