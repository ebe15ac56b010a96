import Kasper.Runtime.State

/-! The report queue and the deduplication map of `kspecem_bugs.c`. -/

namespace Kasper

open ByteMemory

/-- The bytes of one block of the deduplication map, `1024 * PAGE_SIZE`. -/
def blockBytes : Nat := 1024 * pageSize

def kernelSize (kernel : Kernel) : Word := kernel.etext - kernel.text

def bitmapSize (kernel : Kernel) : Word :=
  (kernelSize kernel + BitVec.ofNat 64 pageSize) &&& ~~~(0xfff : Word)

/-- The number of blocks `kspecem_report_init` asks for. -/
def allocBlocks (kernel : Kernel) : Word :=
  let alloc := bitmapSize kernel / BitVec.ofNat 64 blockBytes
  if bitmapSize kernel % BitVec.ofNat 64 blockBytes ≠ 0 then alloc + 1 else alloc

def zeroBlock (base : Address) : Table (BitVec 8) :=
  { base, size := blockBytes, cell := fun _ => 0 }

def nullBlock : Table (BitVec 8) :=
  { base := 0, size := 0, cell := fun _ => 0 }

/-- `kspecem_report_clear_globals`. -/
def reportClearGlobals : RtM Unit := do
  if (← get).reports.bugs.size < bugsListSize then
    throw (.outOfBounds .bugs)
  modify fun s =>
    let cleared i := if i < bugsListSize then Bug.zero else s.reports.bugs.cell i
    { s with
      reports :=
        { s.reports with
          bugs := { s.reports.bugs with cell := cleared }
          nextBugIndex := 0 } }

/-- `kspecem_report_init`, with the addresses the allocator returns. The loop variable is a
C `int`: it turns negative, and so larger than any block count, after `2 ^ 31` rounds.
-/
def reportInit (kernel : Kernel) (onFail : SpecAssert → RtM Unit)
    (mapBase bugsBase : Address) (blockBase : Nat → Address)
    : RtM Unit := do
  let blocks := (allocBlocks kernel).toNat
  modify fun s =>
    let map : Table (Table (BitVec 8)) :=
      { base := mapBase
        size := blocks
        cell := fun i => if i < 2 ^ 31 then zeroBlock (blockBase i) else nullBlock }
    let bugs : Table Bug := { base := bugsBase, size := bugsListSize, cell := fun _ => Bug.zero }
    { s with reports := { s.reports with previousBugsMap := map, bugs } }
  ltAssert onFail (bugsBase ≠ 0) "kspecem_bugs.c" 45 "kspecem_bugs"
  reportClearGlobals

/-- `kspecem_get_bug_mask`. -/
def getBugMask (bug : Bug) : BitVec 8 :=
  match bug.accessType with
  | .mdsAccess => 0x1
  | .ccAccess => 0x2
  | .kasanAccess => 0x4
  | .pcAccess => 0x8
  | .undefAccess => 0xff

section
variable (env : Env) (onFail : SpecAssert → RtM Unit)

/-- `kspecem_get_offset_by_ip`. -/
def getOffsetByIp (ip : Address) : RtM Word := do
  ltAssert onFail (ip ≥ env.kernel.text ∧ ip < env.kernel.etext)
    "kspecem_bugs.c" 78 "ip >= (uint64_t)_text && ip < (uint64_t)_etext"
  let offset := ip - env.kernel.text
  ltAssert onFail (offset < bitmapSize env.kernel)
    "kspecem_bugs.c" 81 "offset < bitmap_size"
  return offset

/-- `kspecem_previous_bugs_map[offset / block][offset % block]`. -/
def previousBugs (offset : Word) : RtM (BitVec 8) := do
  let block ← fetch .previousBugsMap (← get).reports.previousBugsMap (offset.toNat / blockBytes)
  fetch .previousBugsBlock block (offset.toNat % blockBytes)

/-- `kspecem_bug_already_reported`. -/
def bugAlreadyReported (bug : Bug) : RtM Bool := do
  let offset ← getOffsetByIp env onFail bug.kinfo.ip
  let bugMask := getBugMask bug
  let previous ← previousBugs offset
  return previous &&& bugMask = bugMask ∨ bugMask = 0xff

/-- `kspecem_bug_set_ip_as_reported`. -/
def bugSetIpAsReported (bug : Bug) : RtM Unit := do
  let offset ← getOffsetByIp env onFail bug.kinfo.ip
  let bugMask := getBugMask bug
  let previous ← previousBugs offset
  modify fun s =>
    let map := s.reports.previousBugsMap
    let block := map.cell (offset.toNat / blockBytes)
    let block := block.put (offset.toNat % blockBytes) (previous ||| bugMask)
    { s with
      reports :=
        { s.reports with previousBugsMap := map.put (offset.toNat / blockBytes) block } }

/-- `kspecem_should_report_access_bug`. -/
def shouldReportAccessBug (bug : Bug) : RtM Bool := do
  let level := (← get).reports.printLevel
  if level = .printNone then
    return false
  if level = .printDuplicates then
    return true
  ltAssert onFail (level = .printDefault)
    "kspecem_bugs.c" 118 "kspecem_print_level == PRINT_DEFAULT"
  if ← bugAlreadyReported env onFail bug then
    return false
  else
    bugSetIpAsReported env onFail bug
    return true

def printLine (line : Printed) : RtM Unit :=
  modify fun s => { s with reports := { s.reports with printed := s.reports.printed ++ [line] } }

/-- `kspecem_report_print_access_bug`. -/
def reportPrintAccessBug (bug : Bug) : RtM Unit :=
  if bug.accessType = .undefAccess then
    ltPanic "kspecem_report.c" "Trying to print an access report with an unknown access type!\n"
  else
    printLine (.accessBug bug)

/-- The loop of `kspecem_report_print_and_clear` from index `i` on, `left` reports; it
returns `reports_printed`.
-/
def printReports : (left i : Nat) → (reportsPrinted : Bool) → RtM Bool
  | 0, _, reportsPrinted => pure reportsPrinted
  | left + 1, i, reportsPrinted => do
      let thisBug ← fetch .bugs (← get).reports.bugs i
      if ← shouldReportAccessBug env onFail thisBug then
        if !reportsPrinted then
          printLine .restartBegin
        reportPrintAccessBug thisBug
        printReports left (i + 1) true
      else
        printReports left (i + 1) reportsPrinted

/-- `kspecem_report_print_and_clear`. -/
def reportPrintAndClear (calledFromRestart : Bool) (restartType : Int) : RtM Unit := do
  let s ← get
  let currentCheckpointIp := if calledFromRestart then s.registers .rip else 0
  if s.reports.nextBugIndex = 0 then
    return
  let reportsPrinted ← printReports env onFail s.reports.nextBugIndex 0 false
  if reportsPrinted then
    printLine (.restartEnd env.task.syscallNr currentCheckpointIp restartType
      (← get).speculativeInstrCount)
  reportClearGlobals

/-- The report `kspecem_access_report` writes into its slot. -/
def makeBug (kernel : Kernel) (inSpec : Bool) (specLength : BitVec 32) (addr : Address)
    (size : Word) (isWrite : Bool) (ip : Address) (dataLabel ptrLabel : BitVec 32)
    (accessType : AccessType)
    : Bug where
  kinfo := { accessAddr := addr, firstBadAddr := addr, accessSize := size, isWrite, ip }
  inSpec := inSpec
  specLength := specLength
  dataLabel := { label := dataLabel, info := kernel.labelInfo dataLabel }
  ptrLabel := { label := ptrLabel, info := kernel.labelInfo ptrLabel }
  accessType := accessType

/-- `kspecem_access_report`. -/
def accessReport (addr : Address) (size : Word) (isWrite : Bool) (ip : Address)
    (dataLabel ptrLabel : BitVec 32) (accessType : AccessType)
    : RtM Unit := do
  let index := (← get).reports.nextBugIndex
  ltAssert onFail (index < bugsListSize)
    "kspecem_bugs.c" 166 "kspecem_next_bug_index < BUGS_LIST_SIZE"
  modify fun s => { s with reports := { s.reports with nextBugIndex := s.reports.nextBugIndex + 1 } }
  let thisBug ← fetch .bugs (← get).reports.bugs index
  ltAssert onFail (thisBug = Bug.zero)
    "kspecem_bugs.c" 172 "kspecem_checkzero(this_bug,sizeof(*this_bug))"
  modify fun s =>
    let bug := makeBug env.kernel s.inSpeculativeEmulation s.speculativeInstrCount addr size
      isWrite ip dataLabel ptrLabel accessType
    { s with reports := { s.reports with bugs := s.reports.bugs.put index bug } }
  if !(← get).inSpeculativeEmulation then
    reportPrintAndClear env onFail false (-1)

/-- `kspecem_kasan_report`. -/
def kasanReport (addr : Address) (size : Word) (isWrite : Bool) (ip : Address) : RtM Unit :=
  accessReport env onFail addr size isWrite ip 0 0 .kasanAccess

/-- `kspecem_ridl_report`. -/
def ridlReport (addr : Address) (size : Word) (isWrite : Bool) (ip : Address)
    (dataLabel ptrLabel : BitVec 32)
    : RtM Unit :=
  accessReport env onFail addr size isWrite ip dataLabel ptrLabel .mdsAccess

/-- `kspecem_specv1_report`. -/
def specv1Report (addr : Address) (size : Word) (isWrite : Bool) (ip : Address)
    (dataLabel ptrLabel : BitVec 32)
    : RtM Unit :=
  accessReport env onFail addr size isWrite ip dataLabel ptrLabel .ccAccess

/-- `kspecem_smotherspectre_report`. -/
def smotherspectreReport (ip : Address) (label : BitVec 32) : RtM Unit :=
  accessReport env onFail 0 0 false ip 0 label .pcAccess

end

end Kasper
