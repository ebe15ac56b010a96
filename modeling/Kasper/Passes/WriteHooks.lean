import Kasper.Passes.CallHooks
import Kasper.Passes.KSpecEmCheckSpecLength

/-! The hooks `KSpecEmPassVisitor` puts before the instructions that write memory. -/

namespace Kasper

open ByteMemory

/-- An instruction that writes memory itself: a store or an atomic operation on a value of
the given size in bytes, or a `memset`, `memcpy` or `memmove` intrinsic.
-/
inductive WriteInst
  | store (size : Nat)
  | atomicRmw (size : Nat)
  | cmpxchg (size : Nat)
  | memIntrinsic (length : Word)
  deriving DecidableEq, Repr

/-- The bytes the instruction modifies at its address. -/
def WriteInst.size : WriteInst → Nat
  | .store size | .atomicRmw size | .cmpxchg size => size
  | .memIntrinsic length => length.toNat

/-- A hook before a write; the address is that of the instruction. -/
inductive WriteHook
  | store
  | memcpy (size : Word)
  deriving DecidableEq, Repr

/-- `KSpecEmPassVisitor::visitStoreInst`. -/
def visitStoreInst (f : ListedFunction) : Option WriteHook :=
  if StringRef.startswith f.name "kspecem_" then none else some .store

/-- `KSpecEmPassVisitor::visitMemIntrinsic`. -/
def visitMemIntrinsic (f : ListedFunction) (length : Word) : Option WriteHook :=
  if StringRef.startswith f.name "kspecem_" then none else some (.memcpy length)

/-- The visitor on the instructions that write memory. It overrides no visit of an atomic
operation, so those are left as they are.
-/
def KSpecEmPassVisitor.visit (f : ListedFunction) : WriteInst → Option WriteHook
  | .store _ => visitStoreInst f
  | .memIntrinsic length => visitMemIntrinsic f length
  | .atomicRmw _ | .cmpxchg _ => none

/-- The functions `KSpecEm::visitor` hands to the visitor. -/
def KSpecEm.visits (f : ListedFunction) : Bool :=
  !(f.isIn .blacklist || f.isIn .timer || f.isIn .exception)

def WriteHook.run (env : Env) (addr : Address) : WriteHook → RtM Unit
  | .store => hookStore env env.onFail addr
  | .memcpy size => hookMemcpy env env.onFail addr size

/-- What runs before a writing instruction of `f` at an address. -/
def beforeWrite (env : Env) (f : ListedFunction) (inst : WriteInst) (addr : Address)
    : RtM Unit := do
  if KSpecEm.visits f then
    if let some hook := KSpecEmPassVisitor.visit f inst then
      hook.run env addr

end Kasper
