import Kasper.Runtime.Interface

/-! How the runtime starts: its static state, the switches debugfs can set before it is
enabled, and `kspecem_common_late_init`, which allocates every table.
-/

namespace Kasper

open ByteMemory

/-- The variables that debugfs or another runtime may set before the late initialisation. -/
structure Switches where
  whitelistType : WhitelistType
  maxCallDepth : BitVec 32
  printLevel : PrintLevel
  swapBranchEnabled : Bool
  inlineasmRestartStatsEnabled : Bool
  kdfIsInitDone : Bool
  kdfIsInRt : Bool
  kdfinitIsInitDone : Bool
  kdfinitIsInRt : Bool

/-- What the allocator hands out: an address for each table, and what memory it did not
clear happens to hold.
-/
structure Heap where
  specStatistics : Address
  totalStatistics : Address
  inlineasmRestartStats : Address
  previousBugsMap : Address
  previousBugsBlock : Nat → Address
  bugs : Address
  wlStack : Address
  writelogAddrs : Address
  writelogData : Address
  writelogMeta : Address
  staleBytes : Nat → Byte
  staleWords : Nat → Word

/-- A pointer before its table is allocated. -/
def Table.null {α : Type} (cell : α) : Table α where
  base := 0
  size := 0
  cell := fun _ => cell

def SpecStatsEntry.zero : SpecStatsEntry where
  functionType := .newCheckpoint
  arg1 := 0
  arg2 := 0
  arg3 := 0
  returnAddr := 0

def FunctionStats.zero : FunctionStats where
  onReturnRestarts := 0
  onCallRestarts := 0
  onCallUndefinedRestarts := 0
  onCallInlineasmRestarts := 0
  onBlacklistRestarts := 0
  onExceptionRestarts := 0
  onTimerRestarts := 0
  onLimitSpecRestarts := 0
  onCallDepthRestarts := 0
  onCallDisabled := 0
  onWritelogFullRestarts := 0
  onPageFault := 0
  totalRestarts := 0

def InlineasmRestartStat.zero : InlineasmRestartStat where
  restartIp := 0
  restartCount := 0

/-- The runtime's variables as the kernel image initialises them. -/
def Rt.static (switches : Switches) (mem : Memory) (cpu : PtRegs) (irqsEnabled : Bool) : Rt where
  initDone := false
  isInRt := false
  isInRestart := false
  maxSpeculativeInstructions := 250
  maxCallDepth := switches.maxCallDepth
  speculativeInstrCount := 0
  inSpeculativeEmulation := false
  swapBranchEnabled := switches.swapBranchEnabled
  specCallDepth := 0
  callDepth := 0
  specAssert := none
  asserted := []
  registers := fun _ => 0
  whitelistType := switches.whitelistType
  kdfIsInitDone := switches.kdfIsInitDone
  kdfIsInRt := switches.kdfIsInRt
  kdfinitIsInitDone := switches.kdfinitIsInitDone
  kdfinitIsInRt := switches.kdfinitIsInRt
  log :=
    { addrs := .null 0, data := .null 0, metas := .null 0, position := 0, enabled := false }
  stack := { stack := .null 0, baseAddress := 0, len := 0 }
  reports :=
    { printLevel := switches.printLevel
      nextBugIndex := 0
      bugs := .null Bug.zero
      previousBugsMap := .null nullBlock
      printed := [] }
  stats :=
    { specStatistics := .null .zero
      currSpecStatisticsIndex := 0
      totalStatistics := .null .zero
      inlineasmRestartStatsEnabled := switches.inlineasmRestartStatsEnabled
      inlineasmRestartStats := .null .zero
      inlineasmRestartStatSize := 0 }
  mem := mem
  irqsEnabled := irqsEnabled
  cpu := cpu

section
variable (env : Env) (onFail : SpecAssert → RtM Unit) (heap : Heap)

/-- `kspecem_statistics_init`. -/
def statisticsInit : RtM Unit :=
  modify fun s =>
    { s with
      stats :=
        { s.stats with
          specStatistics :=
            { base := heap.specStatistics, size := specStatisticsSize, cell := fun _ => .zero }
          currSpecStatisticsIndex := 0 } }

/-- `kspecem_stats_inlineasm_init`. -/
def statsInlineasmInit : RtM Unit := do
  if (← get).stats.inlineasmRestartStatsEnabled then
    modify fun s =>
      { s with
        stats :=
          { s.stats with
            inlineasmRestartStats :=
              { base := heap.inlineasmRestartStats
                size := numInlineasmRestartIps
                cell := fun _ => .zero }
            inlineasmRestartStatSize := 0 } }

/-- `kspecem_stats_restarts_init`. -/
def statsRestartsInit : RtM Unit :=
  modify fun s =>
    { s with
      stats :=
        { s.stats with
          totalStatistics := { base := heap.totalStatistics, size := 1, cell := fun _ => .zero } } }

/-- `kspecem_stack_init`. -/
def stackInit : RtM Unit := do
  modify fun s => { s with stack := { stack := .null 0, baseAddress := 0, len := 0 } }
  ltAssert onFail (heap.wlStack ≠ 0) "kspecem_stack.c" 16 "stacklog_bytes"
  modify fun s =>
    { s with
      stack :=
        { s.stack with
          stack := { base := heap.wlStack, size := stacklogMaxlen, cell := heap.staleBytes } } }

/-- `kspecem_writelog_init`. -/
def writelogInit : RtM Unit := do
  modify fun s => { s with log := { s.log with metas := .null 0, position := 0, enabled := false } }
  ltAssert onFail (heap.writelogAddrs ≠ 0) "kspecem_undolog.c" 40 "writelog_addrs_bytes"
  ltAssert onFail (heap.writelogData ≠ 0) "kspecem_undolog.c" 41 "writelog_data_bytes"
  ltAssert onFail (heap.writelogMeta ≠ 0) "kspecem_undolog.c" 42 "kspecem_writelog_meta_bytes"
  let words (base : Address) : Table Word :=
    { base, size := writelogBytes / 8, cell := heap.staleWords }
  modify fun s =>
    { s with
      log :=
        { s.log with
          metas := words heap.writelogMeta
          data := words heap.writelogData
          addrs := words heap.writelogAddrs } }

/-- `kspecem_common_late_init`. -/
def commonLateInit : RtM Unit := do
  if (← get).initDone = false then
    let irqFlags ← enterKspecemRt env onFail
    statisticsInit heap
    statsInlineasmInit heap
    statsRestartsInit heap
    reportInit env.kernel onFail heap.previousBugsMap heap.bugs heap.previousBugsBlock
    initData env
    stackInit onFail heap
    writelogInit onFail heap
    leaveKspecemRt env onFail 83 irqFlags "kspecem_init.c"
    modify fun s => { s with initDone := true }

end

end Kasper
