import Kasper.Runtime.Bugs
import Kasper.Runtime.Registers
import Kasper.Runtime.Restore
import Kasper.Runtime.Statistics

/-! Taking a checkpoint and rolling back to it: `kspecem_internal.c`, and the write side of
`kspecem_undolog.c`, which rolls back when the log is full.
-/

namespace Kasper

open ByteMemory

section
variable (env : Env) (onFail : SpecAssert → RtM Unit)

/-- `kspecem_init_data`. -/
def initData : RtM Unit := do
  modify fun s => { s with inSpeculativeEmulation := false }
  setSwapBranchCondition env.kernel false
  modify fun s => { s with speculativeInstrCount := 0, specCallDepth := 0, callDepth := 0 }

/-- `kspecem_new_checkpoint`. -/
def newCheckpoint : RtM Word := do
  ltAssert onFail ((← get).stack.stack.base ≠ 0) "kspecem_internal.c" 32 "kspecem_wl_stack != 0x0"
  ltAssert onFail ((← get).inSpeculativeEmulation = false)
    "kspecem_internal.c" 33 "!kspecem_in_speculative_emulation"
  modify fun s =>
    { s with
      speculativeInstrCount := 0
      stats := { s.stats with currSpecStatisticsIndex := 0 } }
  addSpecStatistics onFail .newCheckpoint 0 0 0 env.frames.returnAddress
  modify fun s => { s with log := { s.log with position := 0 } }
  modify fun s => { s with inSpeculativeEmulation := true }
  if (← get).swapBranchEnabled then
    setSwapBranchCondition env.kernel true
  modify fun s => { s with specCallDepth := 0, callDepth := 0 }
  modify fun s => { s with log := { s.log with enabled := true } }
  return 0

/-- The last statements of `kspecem_restart`: panic, jump back, or return. -/
def leaveRestart (direct : Bool) : RtM Int := do
  if let some failed := (← get).specAssert then
    throw (.panicked (.assertion failed))
  if direct then
    unsetRt
    restoreRegisters env.kernel
  return 0

/-- The end of `kspecem_restart`, after the stack was copied back. -/
def finishRestart (direct : Bool) (restartType : RestartType) : RtM Int := do
  modify fun s => { s with isInRestart := false }
  if restartType ≠ .restartTimer ∧ restartType ≠ .restartException then
    reportPrintAndClear env onFail true restartType.code
  leaveRestart env direct

/-- The part of `kspecem_restart` from `lt_assert(kspecem_writelog_enabled)` on. `direct`
says that its `arg` is 0; `frameaddr` and `regs` are used otherwise.
-/
def rollBack (direct : Bool) (restartType : RestartType) (frameaddr regs : Address)
    : RtM Int := do
  ltAssert onFail (← get).log.enabled "kspecem_internal.c" 81 "kspecem_writelog_enabled"
  -- the frame address of a handler leaves out its return address
  let frameaddr := if direct then env.frames.restart else frameaddr + 0x8
  if (← restoreWritelog env onFail frameaddr regs) = -1 then
    return -1
  modify fun s =>
    { s with log := { s.log with enabled := false }, inSpeculativeEmulation := false }
  setSwapBranchCondition env.kernel false
  modify fun s => { s with specCallDepth := 0, callDepth := 0 }
  let stack := (← get).stack
  copyFromStackLog (stack.baseAddress - stack.len) stack.len.toNat
  -- `__memcpy` returns its destination
  if stack.baseAddress - stack.len = 0 then
    ltPanic "kspecem_internal.c" "memcpy for stack restoring did not work\n"
  finishRestart env onFail direct restartType

/-- `kspecem_restart`; `callArg` feeds the statistics only. -/
def restart (direct : Bool) (restartType : RestartType) (callArg : Address)
    (frameaddr regs : Address)
    : RtM Int := do
  if (← get).inSpeculativeEmulation = false then
    return 0
  modify fun s => { s with isInRestart := true }
  let arg : Word := if direct then 0 else 1
  if (← get).specAssert = none then
    if restartType = .restartReturn ∧ (← get).specCallDepth > 0 then
      addSpecStatistics onFail .restartReturn arg restartType.code 0 env.frames.returnAddress
      modify fun s => { s with specCallDepth := s.specCallDepth - 1 }
      return 0
    addSpecStatistics onFail .restart arg restartType.code 0 env.frames.returnAddress
    if restartType = .restartCallInlineAsm then
      addRestartToStatistics restartType env.frames.returnAddress
    else
      addRestartToStatistics restartType callArg
  rollBack env onFail direct restartType frameaddr regs

/-- The end of `kspecem_write_wl`: fill the entry at `kspecem_wl_position`. -/
def appendEntry (addr : Address) : RtM Unit := do
  let position := (← get).log.position
  if (← get).log.addrs.base + BitVec.ofNat 64 (position * 8) ≠ 0 then
    checkBounds .writelogAddrs (← get).log.addrs position
    modify fun s => { s with log := { s.log with addrs := s.log.addrs.put position addr } }
    checkBounds .writelogData (← get).log.data position
    let value ← loadWord env.kernel addr
    modify fun s => { s with log := { s.log with data := s.log.data.put position value } }
    checkBounds .writelogMeta (← get).log.metas position
    modify fun s =>
      { s with
        log := { s.log with metas := s.log.metas.put position env.frames.returnAddress } }
    modify fun s => { s with log := { s.log with position := s.log.position + 1 } }

/-- `kspecem_write_wl` on an aligned address. -/
def writeWlAligned (addr : Address) : RtM Unit := do
  ltAssert onFail ((← get).log.enabled = (← get).inSpeculativeEmulation)
    "kspecem_undolog.c" 82 "kspecem_writelog_enabled == kspecem_in_speculative_emulation"
  ltAssert onFail ((← get).log.addrs.base ≠ 0) "kspecem_undolog.c" 83 "kspecem_writelog_addrs"
  ltAssert onFail ((← get).log.data.base ≠ 0) "kspecem_undolog.c" 84 "kspecem_writelog_data"
  -- both ends are `WRITELOG_MAXLEN * 2` entries after their array's start
  if (← get).log.position ≥ writelogMaxlen * 2 then
    let _ ← restart env onFail true .restartWritelogFull 0 0 0
  ltAssert onFail ((← get).log.position < writelogMaxlen * 2)
    "kspecem_undolog.c" 91 "&kspecem_writelog_addrs[kspecem_wl_position] < wl_addrs_end"
  ltAssert onFail ((← get).log.position < writelogMaxlen * 2)
    "kspecem_undolog.c" 92 "&kspecem_writelog_data[kspecem_wl_position] < wl_data_end"
  let log := (← get).log
  let length := BitVec.ofNat 64 writelogBytes
  ltAssert onFail (addr < log.addrs.base ∨ addr ≥ log.addrs.base + length)
    "kspecem_undolog.c" 93 "addr < wl_addrs_start || addr >= wl_addrs_end"
  ltAssert onFail (addr < log.data.base ∨ addr ≥ log.data.base + length)
    "kspecem_undolog.c" 94 "addr < wl_data_start || addr >= wl_data_end"
  if addr = env.kernel.wlPosition then
    return
  if addr = env.kernel.writelogEnabled then
    return
  appendEntry env addr

/-- `kspecem_write_wl`; its one recursive call gets an aligned address. -/
def writeWl (addr : Address) : RtM Unit := do
  if addr ≠ alignDown 3 addr then
    writeWlAligned env onFail (alignDown 3 addr + 8)
  writeWlAligned env onFail (alignDown 3 addr)

/-- `kspecem_store`. -/
def store (addr : Address) : RtM Unit :=
  writeWl env onFail addr

/-- The loop of `kspecem_memcpy` for at most `fuel` rounds. -/
def memcpyLoop (stop : Address) : (fuel : Nat) → (reg : Address) → RtM Unit
  | 0, _ => throw .diverged
  | fuel + 1, reg => do
      if reg < stop then
        writeWl env onFail reg
        memcpyLoop stop fuel (reg + 8)

/-- The values the cursor of `kspecem_memcpy` takes before it meets one again. -/
def memcpyRounds : Nat := 2 ^ 61

/-- `kspecem_memcpy`; its cursor starts on a multiple of four. -/
def memcpy (addr : Address) (size : Word) : RtM Unit :=
  memcpyLoop env onFail (addr + size) (memcpyRounds + 1) (alignDown 2 addr)

end

end Kasper
