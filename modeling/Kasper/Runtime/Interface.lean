import Kasper.Runtime.Internal
import Kasper.Runtime.Whitelist

/-! The hooks of `kspecem_interface.c`, the section macros of its header, the assertion
failure path of `kspecem_assert.c` and the handlers of `kspecem_interrupt.c`.
`stop_nmi` and `restart_nmi` are kernel code: each is one counter update that the pass
instrumented with a store hook.
-/

namespace Kasper

open ByteMemory

section
variable (env : Env) (onFail : SpecAssert → RtM Unit)

/-- `ENTER_KSPECEM_NONMI_RT`; the result is its `__irq_flags`. -/
def enterKspecemNonmiRt : RtM Word := do
  setRt
  localIrqSave

/-- `LEAVE_KSPECEM_NONMI_RT`, expanded on the given source line. -/
def leaveKspecemNonmiRt (line : Nat) (irqFlags : Word) : RtM Unit := do
  ltAssert onFail ((← get).irqsEnabled = false) "kspecem_interface.c" line "irqs_disabled()"
  localIrqRestore irqFlags
  unsetRt

/-- `kspecem_hook_store`. -/
def hookStore (addr : Address) : RtM Unit := do
  if (← get).log.enabled = false then
    return
  if (← get).initDone = false then
    return
  let irqFlags ← enterKspecemNonmiRt
  store env onFail addr
  leaveKspecemNonmiRt onFail 125 irqFlags

/-- The counter update of `stop_nmi` (by 1) or `restart_nmi` (by -1), two functions of the
kernel: one word, behind its store hook. A block hook in them is left out.
-/
def countNmi (delta : Word) : RtM Unit := do
  hookStore env onFail env.kernel.nmiCount
  modify fun s =>
    let count := readWord s.mem env.kernel.nmiCount
    { s with mem := writeWord s.mem env.kernel.nmiCount (count + delta) }

def stopNmi : RtM Unit := countNmi env onFail 1

def restartNmi : RtM Unit := countNmi env onFail (-1)

/-- `ENTER_KSPECEM_RT`; the result is its `__irq_flags`. -/
def enterKspecemRt : RtM Word := do
  setRt
  let irqFlags ← localIrqSave
  stopNmi env onFail
  return irqFlags

/-- `LEAVE_KSPECEM_RT`, expanded on the given source line. -/
def leaveKspecemRt (line : Nat) (irqFlags : Word) (file : String := "kspecem_interface.c")
    : RtM Unit := do
  ltAssert onFail ((← get).irqsEnabled = false) file line "irqs_disabled()"
  restartNmi env onFail
  localIrqRestore irqFlags
  unsetRt

-----------------------------------------------------------------------------------------
-- Hooks
-----------------------------------------------------------------------------------------

/-- `kspecem_hook_check_spec_length`. -/
def hookCheckSpecLength (bbInstCount : BitVec 32) : RtM Unit := do
  if (← get).inSpeculativeEmulation then
    if (← get).initDone = false ∨ (← get).isInRt then
      return
    if (← get).kdfinitIsInitDone ∧ (← get).kdfinitIsInRt then
      return
    if (← get).kdfIsInitDone ∧ (← get).kdfIsInRt then
      return
    modify fun s => { s with speculativeInstrCount := s.speculativeInstrCount + bbInstCount }
    if (← get).speculativeInstrCount ≥ (← get).maxSpeculativeInstructions then
      let irqFlags ← enterKspecemRt env onFail
      let _ ← restart env onFail true .restartLimitSpec 0 0 0
      ltPanic "kspecem_interface.c" "should not return!\n"
      leaveKspecemRt env onFail 37 irqFlags

/-- `kspecem_hook_panic_info`. -/
def hookPanicInfo : RtM Unit :=
  panicInfo

/-- `kspecem_hook_print_restart_statistics`. -/
def hookPrintRestartStatistics : RtM Unit := do
  if (← get).initDone = false ∨ (← get).isInRt then
    return
  let irqFlags ← enterKspecemRt env onFail
  printRestartStatistics
  leaveKspecemRt env onFail 50 irqFlags

/-- `kspecem_hook_check_call_depth`; its arguments are not used. -/
def hookCheckCallDepth : RtM Unit := do
  if (← get).initDone = false ∨ (← get).isInRt then
    return
  if (← get).log.enabled then
    addSpecStatistics onFail .checkCallDepth 0 0 0 env.frames.returnAddress
    modify fun s => { s with specCallDepth := s.specCallDepth + 1 }
    if (← get).specCallDepth ≥ (← get).maxCallDepth then
      let irqFlags ← enterKspecemRt env onFail
      let _ ← restart env onFail true .restartCallDepth 0 0 0
      ltPanic "kspecem_interface.c" "should not return!\n"
      leaveKspecemRt env onFail 63 irqFlags

/-- `kspecem_hook_new_checkpoint`; the result is the checkpoint token. It leaves the
section it entered open when it takes a checkpoint.
-/
def hookNewCheckpoint (inInterrupt : Bool) : RtM Word := do
  if (← get).initDone = false ∨ (← get).isInRt then
    return noCheckpoint
  if inInterrupt then
    return noCheckpoint
  if (← get).irqsEnabled = false then
    return noCheckpoint
  if (← get).specAssert ≠ none then
    return noCheckpoint
  if isWhitelistTask (← get).whitelistType env.task = false then
    return noCheckpoint
  if (← get).inSpeculativeEmulation then
    addSpecStatistics onFail .newCheckpointInspec 0 0 0 env.frames.returnAddress
    return noCheckpoint
  let irqFlags ← enterKspecemRt env onFail
  let ret ← newCheckpoint env onFail
  if ret = noCheckpoint then
    return ret
  return irqFlags

/-- `kspecem_hook_restart`; `direct` says that its `arg` is 0, as it is in every call. -/
def hookRestart (direct : Bool) (restartType : RestartType) (callArg : Address)
    : RtM Int := do
  if (← get).initDone = false then
    return 0
  let irqFlags ← enterKspecemRt env onFail
  let ret ← restart env onFail direct restartType callArg 0 0
  leaveKspecemRt env onFail 102 irqFlags
  return ret

/-- `kspecem_hook_leave_rt`. -/
def hookLeaveRt (irqFlags : Word) : RtM Unit := do
  if irqFlags ≠ noCheckpoint then
    leaveKspecemRt env onFail 108 irqFlags

/-- `kspecem_hook_save_stack`, with the `rsp` of its call. -/
def hookSaveStack (irqFlags : Word) (frameaddress rsp : Address) : RtM Unit := do
  if irqFlags ≠ noCheckpoint then
    saveStack onFail frameaddress rsp

/-- `kspecem_hook_memcpy`. -/
def hookMemcpy (addr : Address) (size : Word) : RtM Unit := do
  if (← get).log.enabled = false then
    return
  if (← get).initDone = false then
    return
  let irqFlags ← enterKspecemRt env onFail
  memcpy env onFail addr size
  leaveKspecemRt env onFail 134 irqFlags

/-- The body the four report hooks share: a section without NMI handling. -/
def hookReport (line : Nat) (report : RtM Unit) : RtM Bool := do
  if (← get).initDone = false ∨ (← get).isInRt then
    return false
  let irqFlags ← enterKspecemNonmiRt
  report
  leaveKspecemNonmiRt onFail line irqFlags
  return true

/-- `kspecem_hook_kasan_report`. -/
def hookKasanReport (addr : Address) (size : Word) (isWrite : Bool) (ip : Address)
    : RtM Bool := do
  if addr < 0x100000 then
    return false
  hookReport onFail 169 (kasanReport env onFail addr size isWrite ip)

/-- `kspecem_hook_ridl_report`. -/
def hookRidlReport (addr : Address) (size : Word) (isWrite : Bool) (ip : Address)
    (dataLabel ptrLabel : BitVec 32)
    : RtM Bool :=
  hookReport onFail 177 (ridlReport env onFail addr size isWrite ip dataLabel ptrLabel)

/-- `kspecem_hook_specv1_report`. -/
def hookSpecv1Report (addr : Address) (size : Word) (isWrite : Bool) (ip : Address)
    (dataLabel ptrLabel : BitVec 32)
    : RtM Bool :=
  hookReport onFail 184 (specv1Report env onFail addr size isWrite ip dataLabel ptrLabel)

/-- `kspecem_hook_smotherspectre_report`. -/
def hookSmotherspectreReport (ip : Address) (label : BitVec 32) : RtM Bool :=
  hookReport onFail 191 (smotherspectreReport env onFail ip label)

/-- `kspecem_hook_is_whitelist_task`. -/
def hookIsWhitelistTask : RtM Bool := do
  if (← get).initDone = false ∨ (← get).isInRt then
    return false
  let irqFlags ← enterKspecemRt env onFail
  let ret := isWhitelistTask (← get).whitelistType env.task
  leaveKspecemRt env onFail 199 irqFlags
  return ret

/-- `kspecem_access`, with what `kdf_virt_addr_valid` says of the pointer. -/
def access (pfDummyRegion ptr : Address) (size : Word) (addrValid : Bool) : Address :=
  if !addrValid && size < BitVec.ofNat 64 pageSize then pfDummyRegion else ptr

/-- `kspecem_hook_access`. -/
def hookAccess (pfDummyRegion ptr : Address) (size : Word) (addrValid : Bool)
    : RtM Address := do
  if (← get).inSpeculativeEmulation = false then
    return ptr
  if (← get).initDone = false then
    return ptr
  let irqFlags ← enterKspecemNonmiRt
  let retPtr := access pfDummyRegion ptr size addrValid
  leaveKspecemNonmiRt onFail 221 irqFlags
  return retPtr

-----------------------------------------------------------------------------------------
-- Interrupts
-----------------------------------------------------------------------------------------

/-- The body both functions of `kspecem_interrupt.c` share after choosing a restart type. -/
def interruptRestart (regs frameaddr : Address) (restartType : RestartType) (line : Nat)
    : RtM Unit := do
  modify fun s => { s with mem := copyRegisters regs s.registers s.mem }
  let _ ← restart env onFail false restartType 0 frameaddr regs
  ltAssert onFail ((← get).registers .rip = readWord (← get).mem (slotAddress regs .rip))
    "kspecem_interrupt.c" line "kspecem_regs->ip == regs->ip"

/-- `kspecem_interrupt_timer`. -/
def interruptTimer (regs frameaddr : Address) : RtM Unit :=
  interruptRestart env onFail regs frameaddr .restartTimer 70

/-- `kspecem_interrupt_exception`. -/
def interruptException (regs frameaddr : Address) (exceptionType : Int) : RtM Unit :=
  let restartType : RestartType :=
    if exceptionType = 1 then .restartPageFault else .restartException
  interruptRestart env onFail regs frameaddr restartType 140

/-- `kspecem_hook_interrupt_exception`. -/
def hookInterruptException (regs frameaddr : Address) (exceptionType : Int)
    : RtM Int := do
  if (← get).initDone = false then
    return 0
  ltAssert onFail (frameaddr ≠ 0) "kspecem_interface.c" 145 "frameaddr"
  ltAssert onFail ((← get).log.enabled = (← get).inSpeculativeEmulation)
    "kspecem_interface.c" 146 "kspecem_writelog_enabled == kspecem_in_speculative_emulation"
  if (← get).inSpeculativeEmulation then
    interruptException env onFail regs frameaddr exceptionType
    return 1
  return 0

/-- `kspecem_hook_interrupt_timer`. -/
def hookInterruptTimer (regs frameaddr : Address) : RtM Unit := do
  if (← get).initDone = false then
    return
  ltAssert onFail (frameaddr ≠ 0) "kspecem_interface.c" 155 "frameaddr"
  ltAssert onFail ((← get).log.enabled = (← get).inSpeculativeEmulation)
    "kspecem_interface.c" 156 "kspecem_writelog_enabled == kspecem_in_speculative_emulation"
  if (← get).inSpeculativeEmulation then
    interruptTimer env onFail regs frameaddr

end

/-- `kspecem_panic`, where `onFail` handles the assertions of the restart it calls. -/
def kspecemPanicWith (env : Env) (onFail : SpecAssert → RtM Unit) (failed : SpecAssert)
    : RtM Unit := do
  modify fun s => { s with asserted := failed :: s.asserted }
  if (← get).inSpeculativeEmulation then
    modify fun s => { s with specAssert := some failed }
    if (← get).isInRestart = false then
      let _ ← hookRestart env onFail true (.unlisted 0xffff) 0
  else
    throw (.panicked (.assertion failed))

/-- `kspecem_panic` with room for `depth` more failed assertions inside one another. -/
def kspecemPanic (env : Env) : (depth : Nat) → SpecAssert → RtM Unit
  | 0, failed => do
      modify fun s => { s with asserted := failed :: s.asserted }
      throw .stackOverflow
  | depth + 1, failed => kspecemPanicWith env (kspecemPanic env depth) failed

/-- What `lt_assert` calls on failure. -/
def Env.onFail (env : Env) : SpecAssert → RtM Unit :=
  kspecemPanic env env.kernel.panicDepth

end Kasper
