import Kasper.Passes.KSpecEmSpec
import Kasper.Passes.WriteHooks

/-! A program that the passes instrument, and what it does without them. Its registers and
the bytes it may still read are all the program goes by.
-/

namespace Kasper

open ByteMemory

/-- The registers a call gives back, and the program counter it returns to. -/
def preservedSlots : List Slot :=
  [.rip, .rsp, .rbx, .rbp, .r12, .r13, .r14, .r15]

def Preserves (regs other : PtRegs) : Prop :=
  ∀ slot ∈ preservedSlots, regs slot = other slot

instance (regs other : PtRegs) : Decidable (Preserves regs other) :=
  inferInstanceAs (Decidable (∀ slot ∈ preservedSlots, regs slot = other slot))

/-- Bytes a program relies on. They lie off the runtime's own variables: the swap flag with
the bytes its accesses reach, the NMI counter, and the words that are never logged.
-/
structure Region (kernel : Kernel) where
  holds : Address → Prop
  offFlag : ∀ b, holds b → ¬Within kernel.swapBranchCondition 4 b
  offCounter : ∀ b, holds b → wordOf b ≠ kernel.nmiCount
  offPosition : ∀ b, holds b → wordOf b ≠ kernel.wlPosition
  offEnabled : ∀ b, holds b → wordOf b ≠ kernel.writelogEnabled

/-- Where a kernel keeps what the model has in `Rt`: some of these variables have addresses in
the model too, the others and the tables may be anywhere. None of them has bytes in the
model's memory, so what a program would read or write there is left out.
-/
structure RuntimeVariables (kernel : Kernel) where
  holds : Address → Prop
  position : ∀ b, Within kernel.wlPosition 8 b → holds b
  enabled : ∀ b, Within kernel.writelogEnabled 1 b → holds b
  addrs : ∀ b, Within kernel.writelogAddrs 8 b → holds b
  data : ∀ b, Within kernel.writelogData 8 b → holds b
  registers : ∀ b, Within kernel.registers sizeofPtregs b → holds b

/-- The bytes hold none of the runtime's variables. -/
def RuntimeVariables.Apart {kernel : Kernel} (own : RuntimeVariables kernel)
    (bytes : Address → Prop)
    : Prop :=
  ∀ b, own.holds b → ¬bytes b

/-- Two memories with the same bytes in a region. -/
def Region.Agree {kernel : Kernel} (region : Region kernel) (mem other : Memory) : Prop :=
  ∀ b, region.holds b → mem b = other b

/-- What a program does next. A write has the hook that stands before it, if any. A branch
has the registers at the call of `kspecem_asm_save_registers` and where that returns to.
-/
inductive Stmt
  | compute (regs : PtRegs)
  | write (hook : Option WriteHook) (target : Address) (bytes : List Byte) (regs : PtRegs)
  | branch (cpu : PtRegs) (returnAddress : Word)

/-- The registers behind the calls that `KSpecEmSpec` inserts before a branch. -/
def behindCalls (cpu : PtRegs) (returnAddress : Word) : PtRegs :=
  (cpu.put .rsp (cpu .rsp + 8)).put .rip returnAddress

/-- A program: its next statement by the registers and the memory it stands at, and the
bytes it may read from there on before it writes them. It does not write the swap flag, and
neither reads nor writes the runtime's variables. Behind the inserted calls it tests the
condition of its branch, and goes on where the branch leads; there it goes by preserved
registers only.
-/
structure Program (kernel : Kernel) where
  next : PtRegs → Memory → Stmt
  condition : PtRegs → Memory → Condition
  target : PtRegs → Bool → PtRegs
  live : PtRegs → Region kernel
  own : RuntimeVariables kernel
  live_offVariables : ∀ regs, own.Apart (live regs).holds
  next_reads
    : ∀ regs mem other, (live regs).Agree mem other → next regs mem = next regs other
  live_compute
    : ∀ regs mem regs',
        next regs mem = .compute regs' → ∀ b, (live regs').holds b → (live regs).holds b
  live_write
    : ∀ regs mem hook target bytes regs',
        next regs mem = .write hook target bytes regs'
        → ∀ b, (live regs').holds b → (live regs).holds b ∨ Within target bytes.length b
  write_offFlag
    : ∀ regs mem hook target bytes regs',
        next regs mem = .write hook target bytes regs'
        → ¬Within target bytes.length kernel.swapBranchCondition
  write_offVariables
    : ∀ regs mem hook target bytes regs',
        next regs mem = .write hook target bytes regs'
        → own.Apart (Within target bytes.length)
  live_branch
    : ∀ regs mem cpu returnAddress taken,
        next regs mem = .branch cpu returnAddress
        → ∀ b,
            (live (target (behindCalls cpu returnAddress) taken)).holds b
            → (live regs).holds b
  condition_reads
    : ∀ regs mem cpu returnAddress after mem' other,
        next regs mem = .branch cpu returnAddress
        → Preserves after (behindCalls cpu returnAddress)
        → (live regs).Agree mem' other
        → condition after mem' = condition (behindCalls cpu returnAddress) other
  target_preserves
    : ∀ regs mem cpu returnAddress after taken,
        next regs mem = .branch cpu returnAddress
        → Preserves after (behindCalls cpu returnAddress)
        → target after taken = target (behindCalls cpu returnAddress) taken

/-- Where the uninstrumented program stands. -/
structure PlainState where
  regs : PtRegs
  mem : Memory

/-- What a step of a program shows. -/
inductive Label
  | compute
  | write (target : Address) (bytes : List Byte)
  | branch (taken : Bool)
  deriving DecidableEq, Repr

/-- One step without the inserted calls; there is none to write a byte that is not writable. -/
def Program.plainStep {kernel : Kernel} (P : Program kernel) (q : PlainState)
    : Option (Label × PlainState) :=
  match P.next q.regs q.mem with
  | .compute regs => some (.compute, ⟨regs, q.mem⟩)
  | .write _ target bytes regs =>
      if ∀ i : Fin bytes.length, kernel.writable (target + BitVec.ofNat 64 i) then
        some (.write target bytes, ⟨regs, writeBytes q.mem target bytes⟩)
      else
        none
  | .branch cpu returnAddress =>
      let regs := behindCalls cpu returnAddress
      let taken := (P.condition regs q.mem).holds
      some (.branch taken, ⟨P.target regs taken, q.mem⟩)

-----------------------------------------------------------------------------------------
-- Instrumented statements
-----------------------------------------------------------------------------------------

/-- A write of the program behind its hook. -/
def hookedWrite (env : Env) (hook : Option WriteHook) (target : Address) (bytes : List Byte)
    : RtM Unit := do
  if let some hook := hook then
    hook.run env target
  programWrite env.kernel target bytes

/-- A branch from its saved registers on: the checkpoint's section is closed, and the select
on the swap flag decides.
-/
def Program.finishBranch {kernel : Kernel} (P : Program kernel) (frames : Frames) (task : Task)
    (token : Word)
    : RtM Bool := do
  let env : Env := ⟨kernel, frames, task⟩
  hookLeaveRt env env.onFail token
  let s ← get
  branchSelect kernel (P.condition s.cpu s.mem)

end Kasper
