import Kasper.Runtime.Boot

/-! The runtime inside its kernel: one event is one call of a hook, one interrupt, or one
step of the program that the runtime can see. A run is any order of events.
-/

namespace Kasper

open ByteMemory

/-- The slots of `struct pt_regs` in the order of their offsets. -/
def allSlots : List Slot :=
  [.r15, .r14, .r13, .r12, .rbp, .rbx, .r11, .r10, .r9, .r8, .rax, .rcx, .rdx, .rsi, .rdi,
    .origRax, .rip, .cs, .eflags, .rsp, .ss]

/-- The processor and the entry code push the interrupted registers; interrupts are off
from here on.
-/
def enterInterrupt (regs : Address) (interrupted : PtRegs) : RtM Unit :=
  modify fun s =>
    let frame := interrupted.put .eflags (irqFlags s.irqsEnabled)
    let push mem slot := writeWord mem (slotAddress regs slot) (frame slot)
    { s with mem := allSlots.foldl push s.mem, irqsEnabled := false }

/-- The entry code pops every register, and `iret` ends the interrupt. -/
def leaveInterrupt (regs : Address) : RtM Unit :=
  modify fun s =>
    let cpu : PtRegs := fun slot => readWord s.mem (slotAddress regs slot)
    { s with cpu, irqsEnabled := irqsEnabledIn (cpu .eflags) }

/-- A timer interrupt up to its `iret`. It ends at the checkpoint when it came in
speculation; what the handler does otherwise is the kernel's.
-/
def timerInterrupt (env : Env) (regs frameaddr : Address) (interrupted : PtRegs)
    : RtM Unit := do
  enterInterrupt regs interrupted
  let speculates := (← get).inSpeculativeEmulation
  hookInterruptTimer env env.onFail regs frameaddr
  leaveInterrupt regs
  if speculates then
    throw .resumed

/-- A timer interrupt between two hooks, or `leaving` the last one: after its
`local_irq_restore` and before its `kspecem_unset_rt`.
-/
def timerBetween (env : Env) (leaving : Bool) (regs frameaddr : Address)
    (interrupted : PtRegs)
    : RtM Unit := do
  if leaving then
    setRt
    timerInterrupt env regs frameaddr interrupted
    unsetRt
  else
    timerInterrupt env regs frameaddr interrupted

/-- An exception up to its `iret`. The handler returns at once where the hook returns 1;
what it does otherwise is the kernel's.
-/
def exceptionInterrupt (env : Env) (regs frameaddr : Address) (interrupted : PtRegs)
    (exceptionType : Int)
    : RtM Unit := do
  enterInterrupt regs interrupted
  let handled ← hookInterruptException env env.onFail regs frameaddr exceptionType
  leaveInterrupt regs
  if handled = 1 then
    throw .resumed

/-- A write of the program; a byte that is not writable faults. -/
def programWrite (kernel : Kernel) (target : Address) (bytes : List Byte) : RtM Unit := do
  if ∀ i : Fin bytes.length, kernel.writable (target + BitVec.ofNat 64 i) then
    modify fun s => { s with mem := writeBytes s.mem target bytes }
  else
    throw (.fault true)

/-- What `KSpecEmSpec` puts before a conditional branch up to the select on the swap flag,
each call with its own stack addresses; the result is the checkpoint token.
-/
def branchHooks (env saveEnv leaveEnv : Env) (inInterrupt : Bool)
    (frameaddress rsp : Address) (cpu : PtRegs) (returnAddress : Word)
    : RtM Word := do
  let token ← hookNewCheckpoint env env.onFail inInterrupt
  hookSaveStack saveEnv.onFail token frameaddress rsp
  saveRegisters cpu returnAddress token
  hookLeaveRt leaveEnv leaveEnv.onFail token
  return token

-----------------------------------------------------------------------------------------
-- Events
-----------------------------------------------------------------------------------------

/-- Where a report comes from: the hook and its arguments. -/
inductive ReportCall
  | kasan (addr : Address) (size : Word) (isWrite : Bool) (ip : Address)
  | ridl (addr : Address) (size : Word) (isWrite : Bool) (ip : Address)
      (dataLabel ptrLabel : BitVec 32)
  | specv1 (addr : Address) (size : Word) (isWrite : Bool) (ip : Address)
      (dataLabel ptrLabel : BitVec 32)
  | smotherspectre (ip : Address) (label : BitVec 32)

/-- What can happen next: a hook is called, an interrupt or an exception comes, or the
program writes memory or sets the interrupt flag.
-/
inductive Action
  | checkSpecLength (bbInstCount : BitVec 32)
  | panicInfo
  | printRestartStatistics
  | checkCallDepth
  | newCheckpoint (inInterrupt : Bool)
  | saveStack (irqFlags : Word) (frameaddress rsp : Address)
  | saveRegisters (cpu : PtRegs) (returnAddress token : Word)
  | leaveRt (irqFlags : Word)
  | branch (saveFrames leaveFrames : Frames) (inInterrupt : Bool)
      (frameaddress rsp : Address) (cpu : PtRegs) (returnAddress : Word)
  | restart (restartType : RestartType) (callArg : Address)
  | store (addr : Address)
  | memcpy (addr : Address) (size : Word)
  | report (call : ReportCall)
  | isWhitelistTask
  | access (pfDummyRegion ptr : Address) (size : Word) (addrValid : Bool)
  | timer (leaving : Bool) (regs frameaddr : Address) (interrupted : PtRegs)
  | exception (regs frameaddr : Address) (interrupted : PtRegs) (exceptionType : Int)
  | write (target : Address) (bytes : List Byte)
  | setIrqs (enabled : Bool)

/-- One event: an action, the stack addresses its hook runs with, and the running task. -/
structure Event where
  frames : Frames
  task : Task
  action : Action

def ReportCall.run (env : Env) : ReportCall → RtM Unit
  | .kasan addr size isWrite ip => do
      let _ ← hookKasanReport env env.onFail addr size isWrite ip
  | .ridl addr size isWrite ip dataLabel ptrLabel => do
      let _ ← hookRidlReport env env.onFail addr size isWrite ip dataLabel ptrLabel
  | .specv1 addr size isWrite ip dataLabel ptrLabel => do
      let _ ← hookSpecv1Report env env.onFail addr size isWrite ip dataLabel ptrLabel
  | .smotherspectre ip label => do
      let _ ← hookSmotherspectreReport env env.onFail ip label

/-- The passes call the restart hook with a null `arg`, so `direct` is true. -/
def Action.run (env : Env) : Action → RtM Unit
  | .checkSpecLength bbInstCount => hookCheckSpecLength env env.onFail bbInstCount
  | .panicInfo => hookPanicInfo
  | .printRestartStatistics => hookPrintRestartStatistics env env.onFail
  | .checkCallDepth => hookCheckCallDepth env env.onFail
  | .newCheckpoint inInterrupt => do
      let _ ← hookNewCheckpoint env env.onFail inInterrupt
  | .saveStack irqFlags frameaddress rsp => hookSaveStack env.onFail irqFlags frameaddress rsp
  | .saveRegisters cpu returnAddress token => Kasper.saveRegisters cpu returnAddress token
  | .leaveRt irqFlags => hookLeaveRt env env.onFail irqFlags
  | .branch saveFrames leaveFrames inInterrupt frameaddress rsp cpu returnAddress => do
      let _ ← branchHooks env { env with frames := saveFrames }
        { env with frames := leaveFrames } inInterrupt frameaddress rsp cpu returnAddress
  | .restart restartType callArg => do
      let _ ← hookRestart env env.onFail true restartType callArg
  | .store addr => hookStore env env.onFail addr
  | .memcpy addr size => hookMemcpy env env.onFail addr size
  | .report call => call.run env
  | .isWhitelistTask => do
      let _ ← hookIsWhitelistTask env env.onFail
  | .access pfDummyRegion ptr size addrValid => do
      let _ ← hookAccess env.onFail pfDummyRegion ptr size addrValid
  | .timer leaving regs frameaddr interrupted =>
      timerBetween env leaving regs frameaddr interrupted
  | .exception regs frameaddr interrupted exceptionType =>
      exceptionInterrupt env regs frameaddr interrupted exceptionType
  | .write target bytes => programWrite env.kernel target bytes
  | .setIrqs enabled => modify fun s => { s with irqsEnabled := enabled }

def Event.env (kernel : Kernel) (event : Event) : Env where
  kernel := kernel
  frames := event.frames
  task := event.task

def Event.run (kernel : Kernel) (event : Event) : RtM Unit :=
  event.action.run (event.env kernel)

-----------------------------------------------------------------------------------------
-- Runs
-----------------------------------------------------------------------------------------

/-- What the machine does: the kernel runs, an access faulted inside a hook or the program,
or the kernel stopped for good.
-/
inductive Phase
  | running
  | faulted
  | stopped
  deriving DecidableEq, Repr

structure Machine where
  rt : Rt
  phase : Phase

/-- The machine after a hook returned or control left it. -/
def Machine.after : EStateM.Result Exit Rt Unit → Machine
  | .ok _ t => { rt := t, phase := .running }
  | .error .resumed t => { rt := t, phase := .running }
  | .error (.fault _) t => { rt := t, phase := .faulted }
  | .error _ t => { rt := t, phase := .stopped }

/-- A fault is an exception; the timer needs interrupts enabled. -/
def Machine.Enabled (m : Machine) (action : Action) : Prop :=
  match m.phase with
  | .running =>
      match action with
      | .timer _ _ _ _ => m.rt.irqsEnabled = true
      | _ => True
  | .faulted =>
      match action with
      | .exception _ _ _ _ => True
      | _ => False
  | .stopped => False

instance (m : Machine) (action : Action) : Decidable (m.Enabled action) := by
  unfold Machine.Enabled
  cases m.phase <;> cases action <;> infer_instance

def Machine.step (kernel : Kernel) (event : Event) (m : Machine) : Option Machine :=
  if m.Enabled event.action then some (.after (event.run kernel m.rt)) else none

/-- A run whose events are all `allowed` where they happen. -/
inductive Run (kernel : Kernel) (allowed : Event → Machine → Prop) (start : Machine)
    : Machine → Prop
  | refl : Run kernel allowed start start
  | step {m next : Machine} {event : Event} (run : Run kernel allowed start m)
      (admitted : allowed event m) (steps : m.step kernel event = some next)
      : Run kernel allowed start next

/-- A run goes on with any enabled event that is allowed. -/
theorem Run.after {kernel : Kernel} {allowed : Event → Machine → Prop} {start m : Machine}
    (run : Run kernel allowed start m) (event : Event) (admitted : allowed event m)
    (enabled : m.Enabled event.action)
    : Run kernel allowed start (.after (event.run kernel m.rt)) :=
  .step run admitted (if_pos enabled)

end Kasper
