import Kasper.Passes.KSpecEmCheckSpecLength
import Kasper.Runtime.Interface

/-! The pass `KSpecEmPfChecker`: before an access of the program it puts a call of
`kspecem_hook_access`, and the access uses the pointer the call returns.
-/

namespace Kasper

open ByteMemory

/-- An instruction that accesses memory, with whether it carries `is-asan-instr`: a load or
a store of a type of the given store size, or a memory intrinsic, whose destination counts.
-/
inductive AccessInst
  | load (isAsanInstr : Bool) (typeStoreSize : Nat)
  | store (isAsanInstr : Bool) (typeStoreSize : Nat)
  | memIntrinsic (isAsanInstr : Bool) (length : Word)
  deriving DecidableEq, Repr

/-- The bytes the instruction accesses at its pointer. -/
def AccessInst.size : AccessInst → Nat
  | .load _ typeStoreSize | .store _ typeStoreSize => typeStoreSize
  | .memIntrinsic _ length => length.toNat

/-- The visitor's calls: none where the instruction is left alone, else the `Size` passed. -/
def KSpecEmPfCheckerPassVisitor.visitLoadInst (isAsanInstr : Bool) (typeStoreSize : Nat)
    : Option Word :=
  if !isAsanInstr then none else some (BitVec.ofNat 64 typeStoreSize)

def KSpecEmPfCheckerPassVisitor.visitStoreInst (isAsanInstr : Bool) (typeStoreSize : Nat)
    : Option Word :=
  if !isAsanInstr then none else some (BitVec.ofNat 64 typeStoreSize)

def KSpecEmPfCheckerPassVisitor.visitMemIntrinsic (isAsanInstr : Bool) (length : Word)
    : Option Word :=
  if !isAsanInstr then none else some length

def KSpecEmPfCheckerPassVisitor.visit : AccessInst → Option Word
  | .load isAsanInstr size => visitLoadInst isAsanInstr size
  | .store isAsanInstr size => visitStoreInst isAsanInstr size
  | .memIntrinsic isAsanInstr length => visitMemIntrinsic isAsanInstr length

/-- `KSpecEmPfChecker::runImpl`, on one instruction of a module of the given name. -/
def KSpecEmPfChecker.runImpl (moduleName : String) (inst : AccessInst) : Option Word :=
  if StringRef.contains moduleName "libkspecem.a" then none
  else KSpecEmPfCheckerPassVisitor.visit inst

/-- The pointer an instruction of the output accesses for a pointer of the input, with what
`kdf_virt_addr_valid` says of it.
-/
def accessedPtr (onFail : SpecAssert → RtM Unit) (pfDummyRegion : Address)
    (moduleName : String) (inst : AccessInst) (ptr : Address) (addrValid : Bool)
    : RtM Address :=
  match KSpecEmPfChecker.runImpl moduleName inst with
  | some size => hookAccess onFail pfDummyRegion ptr size addrValid
  | none => return ptr

end Kasper
