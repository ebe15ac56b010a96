import Kasper.Library.ByteMemory
import Kasper.Library.Exits

/-! The runtime's variables, the machine they run on, and the steps that touch them.
Each variable keeps its source name without the common `kspecem_` prefix. The swap flag and
the NMI counter live in memory, which the program writes too. The other variables and the
tables have no bytes there: all results stand on the assumption that the program's writes, and
the words that a rollback puts back, do not reach them.
-/

namespace Kasper

open ByteMemory

/-- `kspecem_restart_type_e`; `unlisted` is any other value of the C `int`. -/
inductive RestartType
  | restartReturn
  | restartCall
  | restartCallUndefined
  | restartCallInlineAsm
  | restartBlacklist
  | restartTimer
  | restartException
  | restartLimitSpec
  | restartCallDepth
  | restartCallDisabled
  | restartWritelogFull
  | restartPageFault
  | unlisted (code : Int)
  deriving DecidableEq, Repr

/-- The C value of a restart type. -/
def RestartType.code : RestartType → Int
  | .restartReturn => 0
  | .restartCall => 1
  | .restartCallUndefined => 2
  | .restartCallInlineAsm => 3
  | .restartBlacklist => 4
  | .restartTimer => 5
  | .restartException => 6
  | .restartLimitSpec => 7
  | .restartCallDepth => 8
  | .restartCallDisabled => 9
  | .restartWritelogFull => 10
  | .restartPageFault => 11
  | .unlisted code => code

/-- `kspecem_func_type_e`. -/
inductive FuncType
  | newCheckpoint
  | newCheckpointInspec
  | restart
  | restartReturn
  | checkCallDepth
  deriving DecidableEq, Repr

/-- `access_type_enum`. -/
inductive AccessType
  | undefAccess
  | kasanAccess
  | mdsAccess
  | ccAccess
  | pcAccess
  deriving DecidableEq, Repr

/-- `report_print_level_enum`; debugfs can also store any other byte. -/
inductive PrintLevel
  | printDefault
  | printNone
  | printDuplicates
  | unlisted (code : Nat)
  deriving DecidableEq, Repr

/-- `kspecem_whitelist_type_e`; debugfs can also store any other byte. -/
inductive WhitelistType
  | disabled
  | tasks
  | syscall
  | unlisted (code : Nat)
  deriving DecidableEq, Repr

/-- `WRITELOG_MAXLEN`. -/
def writelogMaxlen : Nat := 1024 * 8 * 8

/-- `WRITELOG_GRANULARITY`, the bytes of one entry. -/
def writelogGranularity : Nat := 8

/-- `WRITELOG_BYTES`; a pointer takes eight bytes. -/
def writelogBytes : Nat := writelogMaxlen * (writelogGranularity + 8)

/-- `STACKLOG_MAXLEN`. -/
def stacklogMaxlen : Nat := 4096 * 16

/-- `BUGS_LIST_SIZE`. -/
def bugsListSize : Nat := 100

/-- `KSPECEM_SPEC_STATISTICS_SIZE`. -/
def specStatisticsSize : Nat := 10000

/-- `NUM_INLINEASM_RESTART_IPS`. -/
def numInlineasmRestartIps : Nat := 40

/-- `PAGE_SIZE`. -/
def pageSize : Nat := 4096

/-- The tables the runtime allocates. -/
inductive TableId
  | writelogAddrs
  | writelogData
  | writelogMeta
  | wlStack
  | bugs
  | previousBugsMap
  | previousBugsBlock
  | specStatistics
  | totalStatistics
  | inlineasmRestartStats
  deriving DecidableEq, Repr

/-- The slots of `struct pt_regs`, in the order of `calling.h`. -/
inductive Slot
  | r15 | r14 | r13 | r12 | rbp | rbx
  | r11 | r10 | r9 | r8 | rax | rcx | rdx | rsi | rdi
  | origRax
  | rip | cs | eflags | rsp | ss
  deriving DecidableEq, Repr

/-- The byte offset `calling.h` gives a slot. -/
def Slot.offset : Slot → Nat
  | .r15 => 0 * 8 | .r14 => 1 * 8 | .r13 => 2 * 8 | .r12 => 3 * 8 | .rbp => 4 * 8
  | .rbx => 5 * 8 | .r11 => 6 * 8 | .r10 => 7 * 8 | .r9 => 8 * 8 | .r8 => 9 * 8
  | .rax => 10 * 8 | .rcx => 11 * 8 | .rdx => 12 * 8 | .rsi => 13 * 8 | .rdi => 14 * 8
  | .origRax => 15 * 8 | .rip => 16 * 8 | .cs => 17 * 8 | .eflags => 18 * 8
  | .rsp => 19 * 8 | .ss => 20 * 8

/-- `SIZEOF_PTREGS`. -/
def sizeofPtregs : Nat := 21 * 8

abbrev PtRegs := Slot → Word

/-- Store one register slot. -/
def PtRegs.put (regs : PtRegs) (slot : Slot) (value : Word) : PtRegs :=
  fun other => if other = slot then value else regs other

@[simp] theorem PtRegs.put_same (regs : PtRegs) (slot : Slot) (value : Word)
    : regs.put slot value slot = value :=
  if_pos rfl

theorem PtRegs.put_other {slot other : Slot} (regs : PtRegs) (value : Word)
    (different : other ≠ slot)
    : regs.put slot value other = regs other :=
  if_neg different

/-- The flags word `local_irq_save` hands out; only the interrupt flag varies here. -/
def irqFlags (enabled : Bool) : Word := if enabled then 0x202 else 0x2

/-- The interrupt flag of a flags word. -/
def irqsEnabledIn (flags : Word) : Bool := flags.getLsbD 9

@[simp] theorem irqsEnabledIn_irqFlags (enabled : Bool)
    : irqsEnabledIn (irqFlags enabled) = enabled := by
  cases enabled <;> rfl

/-- The token for "no checkpoint", `-1`. -/
def noCheckpoint : Word := -1

theorem irqFlags_ne_noCheckpoint (enabled : Bool) : irqFlags enabled ≠ noCheckpoint := by
  cases enabled <;> decide

-----------------------------------------------------------------------------------------
-- Records kept by the runtime
-----------------------------------------------------------------------------------------

/-- A table allocated at run time; before its allocation the base is `NULL`, the size 0. -/
structure Table (α : Type) where
  base : Address
  size : Nat
  cell : Nat → α

/-- `kspecem_spec_assert_t`; its format string is the same for every assertion. -/
structure SpecAssert where
  file : String
  line : Nat
  condition : String
  deriving DecidableEq, Repr

/-- `kspecem_spec_stats_entry_t`. -/
structure SpecStatsEntry where
  functionType : FuncType
  arg1 : Word
  arg2 : Int
  arg3 : Word
  returnAddr : Address
  deriving DecidableEq, Repr

/-- `kspecem_function_stats_t`, counters modulo `2 ^ 64`. -/
structure FunctionStats where
  onReturnRestarts : Word
  onCallRestarts : Word
  onCallUndefinedRestarts : Word
  onCallInlineasmRestarts : Word
  onBlacklistRestarts : Word
  onExceptionRestarts : Word
  onTimerRestarts : Word
  onLimitSpecRestarts : Word
  onCallDepthRestarts : Word
  onCallDisabled : Word
  onWritelogFullRestarts : Word
  onPageFault : Word
  totalRestarts : Word
  deriving DecidableEq, Repr

/-- `kspecem_inlineasm_restart_stat_t`. -/
structure InlineasmRestartStat where
  restartIp : Address
  restartCount : Word
  deriving DecidableEq, Repr

/-- `kasan_access_info`. -/
structure KasanAccessInfo where
  accessAddr : Address
  firstBadAddr : Address
  accessSize : Word
  isWrite : Bool
  ip : Address
  deriving DecidableEq, Repr

/-- `kspecem_label_info`. -/
structure LabelInfo where
  label : BitVec 32
  info : String
  deriving DecidableEq, Repr

/-- `kspecem_bug`. -/
structure Bug where
  kinfo : KasanAccessInfo
  inSpec : Bool
  specLength : BitVec 32
  dataLabel : LabelInfo
  ptrLabel : LabelInfo
  accessType : AccessType
  deriving DecidableEq, Repr

/-- The all-zero slot `kspecem_memset` leaves and `kspecem_checkzero` looks for. -/
def Bug.zero : Bug where
  kinfo := { accessAddr := 0, firstBadAddr := 0, accessSize := 0, isWrite := false, ip := 0 }
  inSpec := false
  specLength := 0
  dataLabel := { label := 0, info := "" }
  ptrLabel := { label := 0, info := "" }
  accessType := .undefAccess

/-- The calls of the three functions that print reports, each with the values it prints. The
lines of other functions are left out of the log.
-/
inductive Printed
  | restartBegin
  | accessBug (bug : Bug)
  | restartEnd (syscallNr : Nat) (checkpointIp : Word) (restartType : Int)
      (specLength : BitVec 32)
  deriving DecidableEq, Repr

-----------------------------------------------------------------------------------------
-- The state, grouped by source file
-----------------------------------------------------------------------------------------

/-- The variables of `kspecem_undolog.c`. -/
structure WriteLog where
  addrs : Table Word
  data : Table Word
  metas : Table Word
  position : Nat
  enabled : Bool

/-- The variables of `kspecem_stack.c`. -/
structure StackLog where
  stack : Table Byte
  baseAddress : Address
  len : Word

/-- The variables of `kspecem_bugs.c`, and the log lines printed so far. -/
structure Reports where
  printLevel : PrintLevel
  nextBugIndex : Nat
  bugs : Table Bug
  previousBugsMap : Table (Table (BitVec 8))
  printed : List Printed

/-- The variables of the three statistics files. -/
structure Statistics where
  specStatistics : Table SpecStatsEntry
  currSpecStatisticsIndex : Nat
  totalStatistics : Table FunctionStats
  inlineasmRestartStatsEnabled : Bool
  inlineasmRestartStats : Table InlineasmRestartStat
  inlineasmRestartStatSize : Nat

/-- The whole runtime state, with memory and the processor's interrupt flag. `asserted`
lists every `lt_assert` that failed so far, newest first; no code reads it.
-/
structure Rt where
  initDone : Bool
  isInRt : Bool
  isInRestart : Bool
  maxSpeculativeInstructions : BitVec 32
  maxCallDepth : BitVec 32
  speculativeInstrCount : BitVec 32
  inSpeculativeEmulation : Bool
  swapBranchEnabled : Bool
  specCallDepth : BitVec 32
  callDepth : BitVec 32
  specAssert : Option SpecAssert
  asserted : List SpecAssert
  registers : PtRegs
  whitelistType : WhitelistType
  kdfIsInitDone : Bool
  kdfIsInRt : Bool
  kdfinitIsInitDone : Bool
  kdfinitIsInRt : Bool
  log : WriteLog
  stack : StackLog
  reports : Reports
  stats : Statistics
  mem : Memory
  irqsEnabled : Bool
  cpu : PtRegs

/-- Why the kernel panicked. -/
inductive PanicReason
  | assertion (failed : SpecAssert)
  | message (file : String) (text : String)
  deriving DecidableEq, Repr

/-- The ways control leaves a hook other than by returning: the registers were loaded from
`kspecem_registers`; a memory read or write faulted; the kernel panicked; an access left the
allocated part of a table; failed assertions nested deeper than the stack; a loop ran
through its whole state space without ending.
-/
inductive Exit
  | resumed
  | fault (isWrite : Bool)
  | panicked (reason : PanicReason)
  | outOfBounds (table : TableId)
  | stackOverflow
  | diverged
  deriving DecidableEq, Repr

abbrev RtM := EStateM Exit Rt

/-- What a build and its kernel fix: which bytes are mapped, where the variables lie whose
addresses the runtime compares (named after them), the word `stop_nmi` and `restart_nmi`
count in, the text range, the text `dfsan_copy_label_info` gives a label, and how many
failed assertions the kernel stack can nest. The counter is an aligned writable word apart
from the runtime's own variables.
-/
structure Kernel where
  readablePage : Nat → Bool
  writablePage : Nat → Bool
  swapBranchCondition : Address
  wlPosition : Address
  writelogEnabled : Address
  writelogAddrs : Address
  writelogData : Address
  registers : Address
  nmiCount : Address
  text : Address
  etext : Address
  labelInfo : BitVec 32 → String
  panicDepth : Nat
  panicDepth_pos : 0 < panicDepth
  nmiCount_aligned : wordOf nmiCount = nmiCount
  nmiCount_writable
    : ∀ i : Fin 8, writablePage ((nmiCount + BitVec.ofNat 64 i).toNat / pageSize) = true
  nmiCount_ne_wlPosition : nmiCount ≠ wlPosition
  nmiCount_ne_writelogEnabled : nmiCount ≠ writelogEnabled
  nmiCount_clear : ¬Within nmiCount 8 swapBranchCondition

def Kernel.readable (kernel : Kernel) (a : Address) : Bool :=
  kernel.readablePage (a.toNat / pageSize)

def Kernel.writable (kernel : Kernel) (a : Address) : Bool :=
  kernel.writablePage (a.toNat / pageSize)

/-- The stack addresses one hook call runs with: `%rsp` inside
`kspecem_restore_writelog`, the frame address of `kspecem_restart`, the hook's return
address, and the slots where `kspecem_restore_writelog` keeps `addr`, `i` and
`num_entries`.
-/
structure Frames where
  rsp : Address
  restart : Address
  returnAddress : Address
  addrSlot : Address
  iSlot : Address
  numEntriesSlot : Address
  rsp_ne : rsp ≠ 0
  addrSlot_ne : addrSlot ≠ 0

/-- The running task: its name as a C string, and its system call number. -/
structure Task where
  comm : List (BitVec 8)
  syscallNr : Nat

/-- Everything a hook reads that is not runtime state. -/
structure Env where
  kernel : Kernel
  frames : Frames
  task : Task

-----------------------------------------------------------------------------------------
-- Steps
-----------------------------------------------------------------------------------------

/-- `lt_assert`: go on, or hand the failed condition to `kspecem_panic`. -/
def ltAssert (onFail : SpecAssert → RtM Unit) (holds : Prop) [Decidable holds]
    (file : String) (line : Nat) (condition : String)
    : RtM Unit :=
  if holds then pure () else onFail { file, line, condition }

/-- `lt_panic`. -/
def ltPanic (file text : String) : RtM Unit :=
  throw (.panicked (.message file text))

/-- Read one cell of a table. -/
def fetch {α : Type} (name : TableId) (table : Table α) (index : Nat) : RtM α :=
  if index < table.size then pure (table.cell index) else throw (.outOfBounds name)

/-- The table after a store to one cell. -/
def Table.put {α : Type} (table : Table α) (index : Nat) (value : α) : Table α :=
  { table with cell := fun other => if other = index then value else table.cell other }

theorem Table.put_cell_same {α : Type} (table : Table α) (index : Nat) (value : α)
    : (table.put index value).cell index = value :=
  if_pos rfl

theorem Table.put_cell_other {α : Type} {index other : Nat} (table : Table α) (value : α)
    (different : other ≠ index)
    : (table.put index value).cell other = table.cell other :=
  if_neg different

/-- Check that a store to a cell stays inside the table. -/
def checkBounds {α : Type} (name : TableId) (table : Table α) (index : Nat) : RtM Unit :=
  if index < table.size then pure () else throw (.outOfBounds name)

/-- A word load by the runtime; an unmapped byte faults. -/
def loadWord (kernel : Kernel) (a : Address) : RtM Word := do
  let s ← get
  if ∀ i : Fin 8, kernel.readable (a + BitVec.ofNat 64 i) then
    return readWord s.mem a
  else
    throw (.fault false)

/-- A word store; a byte that is not writable faults before anything changes. -/
def storeWord (kernel : Kernel) (a : Address) (value : Word) : RtM Unit := do
  if ∀ i : Fin 8, kernel.writable (a + BitVec.ofNat 64 i) then
    modify fun s => { s with mem := writeWord s.mem a value }
  else
    throw (.fault true)

/-- `kspecem_set_rt`. -/
def setRt : RtM Unit :=
  modify fun s => { s with isInRt := true }

/-- `kspecem_unset_rt`. -/
def unsetRt : RtM Unit :=
  modify fun s => { s with isInRt := false }

/-- `local_irq_save`. -/
def localIrqSave : RtM Word := do
  let flags := irqFlags (← get).irqsEnabled
  modify fun s => { s with irqsEnabled := false }
  return flags

/-- `local_irq_restore`. -/
def localIrqRestore (flags : Word) : RtM Unit :=
  modify fun s => { s with irqsEnabled := irqsEnabledIn flags }

/-- The one-byte swap flag. -/
def Rt.swapBranchCondition (kernel : Kernel) (s : Rt) : Bool :=
  s.mem kernel.swapBranchCondition ≠ 0

/-- Assign the swap flag. -/
def setSwapBranchCondition (kernel : Kernel) (value : Bool) : RtM Unit :=
  modify fun s =>
    { s with
      mem := writeBytes s.mem kernel.swapBranchCondition [if value then 1 else 0] }

end Kasper
