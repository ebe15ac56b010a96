import Kasper.Runtime.State

/-! The statistics kept by `kspecem_statistics.c`, `kspecem_stats_restarts.c` and
`kspecem_stats_inlineasm.c`. They read and write the statistics variables only.
-/

namespace Kasper

open ByteMemory

/-- `kspecem_add_spec_statistics`: append one entry unless the table is full. -/
def addSpecStatistics (onFail : SpecAssert → RtM Unit) (funcType : FuncType) (arg1 : Word)
    (arg2 : Int) (arg3 : Word) (returnAddr : Address)
    : RtM Unit := do
  let s ← get
  if s.stats.currSpecStatisticsIndex ≥ specStatisticsSize then
    return
  ltAssert onFail (s.stats.currSpecStatisticsIndex < specStatisticsSize)
    "kspecem_statistics.c" 22
    "kspecem_curr_spec_statistics_index < KSPECEM_SPEC_STATISTICS_SIZE"
  checkBounds .specStatistics s.stats.specStatistics s.stats.currSpecStatisticsIndex
  let entry : SpecStatsEntry := { functionType := funcType, arg1, arg2, arg3, returnAddr }
  modify fun s =>
    { s with
      stats :=
        { s.stats with
          specStatistics := s.stats.specStatistics.put s.stats.currSpecStatisticsIndex entry
          currSpecStatisticsIndex := s.stats.currSpecStatisticsIndex + 1 } }

/-- Store one row of the inline-assembly table. -/
def putInlineasmStat (index : Nat) (row : InlineasmRestartStat) : RtM Unit := do
  checkBounds .inlineasmRestartStats (← get).stats.inlineasmRestartStats index
  modify fun s =>
    { s with
      stats :=
        { s.stats with
          inlineasmRestartStats := s.stats.inlineasmRestartStats.put index row } }

/-- The inner loop of `kspecem_add_inlineasm_restart`, entered with `i` one above its
index: shift rows with smaller counts back by one and drop `tmp` in their place.
-/
def shiftInlineasmStats (tmp : InlineasmRestartStat) : Nat → RtM Unit
  | 0 => pure ()
  | i + 1 => do
      let row ← fetch .inlineasmRestartStats (← get).stats.inlineasmRestartStats i
      if row.restartCount < tmp.restartCount then
        putInlineasmStat (i + 1) row
        putInlineasmStat i tmp
        shiftInlineasmStats tmp i
      else
        pure ()

/-- The search loop of `kspecem_add_inlineasm_restart` over the rows from `i` on, `left`
of them; whether the pointer was found.
-/
def findInlineasmStat (ip : Address) : (left i : Nat) → RtM Bool
  | 0, _ => pure false
  | left + 1, i => do
      let row ← fetch .inlineasmRestartStats (← get).stats.inlineasmRestartStats i
      if row.restartIp = ip then
        let tmp : InlineasmRestartStat :=
          { restartIp := ip, restartCount := row.restartCount + 1 }
        putInlineasmStat i tmp
        shiftInlineasmStats tmp i
        return true
      else
        findInlineasmStat ip left (i + 1)

/-- `kspecem_add_inlineasm_restart`. -/
def addInlineasmRestart (ip : Address) : RtM Unit := do
  let size := (← get).stats.inlineasmRestartStatSize
  if ← findInlineasmStat ip size 0 then
    return
  if size ≥ numInlineasmRestartIps then
    return
  putInlineasmStat size { restartIp := ip, restartCount := 1 }
  modify fun s =>
    { s with
      stats :=
        { s.stats with inlineasmRestartStatSize := s.stats.inlineasmRestartStatSize + 1 } }

/-- The per-type counter `kspecem_add_restart_to_statistics` advances. -/
def FunctionStats.count (stats : FunctionStats) : RestartType → FunctionStats
  | .restartReturn => { stats with onReturnRestarts := stats.onReturnRestarts + 1 }
  | .restartCall => { stats with onCallRestarts := stats.onCallRestarts + 1 }
  | .restartCallUndefined =>
      { stats with onCallUndefinedRestarts := stats.onCallUndefinedRestarts + 1 }
  | .restartCallInlineAsm =>
      { stats with onCallInlineasmRestarts := stats.onCallInlineasmRestarts + 1 }
  | .restartBlacklist => { stats with onBlacklistRestarts := stats.onBlacklistRestarts + 1 }
  | .restartTimer => { stats with onTimerRestarts := stats.onTimerRestarts + 1 }
  | .restartException => { stats with onExceptionRestarts := stats.onExceptionRestarts + 1 }
  | .restartLimitSpec => { stats with onLimitSpecRestarts := stats.onLimitSpecRestarts + 1 }
  | .restartCallDepth => { stats with onCallDepthRestarts := stats.onCallDepthRestarts + 1 }
  | .restartCallDisabled => { stats with onCallDisabled := stats.onCallDisabled + 1 }
  | .restartWritelogFull =>
      { stats with onWritelogFullRestarts := stats.onWritelogFullRestarts + 1 }
  | .restartPageFault => { stats with onPageFault := stats.onPageFault + 1 }
  | .unlisted _ => stats

/-- `kspecem_add_restart_to_statistics`. -/
def addRestartToStatistics (restartType : RestartType) (callArg : Address) : RtM Unit := do
  checkBounds .totalStatistics (← get).stats.totalStatistics 0
  modify fun s =>
    let total := s.stats.totalStatistics.cell 0
    let counted := { total with totalRestarts := total.totalRestarts + 1 }.count restartType
    { s with
      stats := { s.stats with totalStatistics := s.stats.totalStatistics.put 0 counted } }
  if restartType = .restartCallInlineAsm then
    if (← get).stats.inlineasmRestartStatsEnabled then
      addInlineasmRestart callArg

/-- The reads of a loop that prints the rows from `i` on, `left` of them. -/
def readRows {α : Type} (name : TableId) (table : Table α) : (left i : Nat) → RtM Unit
  | 0, _ => pure ()
  | left + 1, i => do
      let _ ← fetch name table i
      readRows name table left (i + 1)

/-- `kspecem_print_restart_statistics`, without the text it prints. -/
def printRestartStatistics : RtM Unit := do
  let stats := (← get).stats
  let _ ← fetch .totalStatistics stats.totalStatistics 0
  if stats.inlineasmRestartStatsEnabled then
    readRows .inlineasmRestartStats stats.inlineasmRestartStats stats.inlineasmRestartStatSize 0

/-- `kspecem_panic_info`, without the text it prints. -/
def panicInfo : RtM Unit := do
  let stats := (← get).stats
  readRows .specStatistics stats.specStatistics stats.currSpecStatisticsIndex 0

end Kasper
