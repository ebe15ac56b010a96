import Mathlib.Data.BitVec
import Mathlib.Data.List.Infix

/-! `KSpecEmCheckSpecLength` puts a hook with the length of the block before the terminator
of every basic block. What the other instructions are does not matter to it.
-/

namespace Kasper

variable {Instruction : Type}

/-- A basic block; its terminator comes last. -/
structure BasicBlock (Instruction : Type) where
  body : List Instruction
  terminator : Instruction

/-- `std::distance(bb->begin(), bb->end())`. -/
def BasicBlock.size (bb : BasicBlock Instruction) : Nat := bb.body.length + 1

structure IrFunction (Instruction : Type) where
  name : String
  blocks : List (BasicBlock Instruction)

structure IrModule (Instruction : Type) where
  name : String
  functions : List (IrFunction Instruction)

/-- An instruction of the output: one of the input, or a call of
`kspecem_hook_check_spec_length`.
-/
inductive Counted (Instruction : Type)
  | original (inst : Instruction)
  | checkSpecLengthHook (bbInstCount : BitVec 32)

/-- `StringRef::startswith`. -/
def StringRef.startswith (string text : String) : Bool := text.toList.isPrefixOf string.toList

/-- `StringRef::contains`. -/
def StringRef.contains (string text : String) : Bool := decide (text.toList <:+: string.toList)

/-- The body of the visitor's loop: the call goes before the terminator, and its argument is
the number of instructions before the insertion, as an `unsigned int`.
-/
def visitBlock (bb : BasicBlock Instruction) : BasicBlock (Counted Instruction) where
  body := bb.body.map .original ++ [.checkSpecLengthHook (BitVec.ofNat 32 bb.size)]
  terminator := .original bb.terminator

def keepBlock (bb : BasicBlock Instruction) : BasicBlock (Counted Instruction) where
  body := bb.body.map .original
  terminator := .original bb.terminator

/-- The functions the visitor leaves alone. -/
def IrFunction.skipped (f : IrFunction Instruction) : Bool :=
  StringRef.startswith f.name "__dfsan"
  || f.name == "stop_nmi"
  || f.name == "unset_rt"
  || StringRef.startswith f.name "kspecem_"

/-- `KSpecEmCheckSpecLength::visitor`. -/
def KSpecEmCheckSpecLength.visitor (f : IrFunction Instruction)
    : IrFunction (Counted Instruction) where
  name := f.name
  blocks := if f.skipped then f.blocks.map keepBlock else f.blocks.map visitBlock

/-- The modules `runImpl` leaves alone. -/
def IrModule.excluded (program : IrModule Instruction) : Bool :=
  StringRef.contains program.name "libkspecem.a"
  || (StringRef.contains program.name "kdfsan" || StringRef.contains program.name "kdfinit")
    && !StringRef.contains program.name "test_kdfsan"

/-- `KSpecEmCheckSpecLength::runImpl`. -/
def KSpecEmCheckSpecLength.runImpl (program : IrModule Instruction)
    : IrModule (Counted Instruction) where
  name := program.name
  functions :=
    if program.excluded then
      program.functions.map fun f => { name := f.name, blocks := f.blocks.map keepBlock }
    else
      program.functions.map visitor

/-- The arguments of the hooks a block runs on its way to its terminator. -/
def BasicBlock.hooks (bb : BasicBlock (Counted Instruction)) : List (BitVec 32) :=
  bb.body.filterMap fun
    | .original _ => none
    | .checkSpecLengthHook bbInstCount => some bbInstCount

/-- A visited block runs one hook, with its length. -/
theorem visitBlock_hooks (bb : BasicBlock Instruction)
    : (visitBlock bb).hooks = [BitVec.ofNat 32 bb.size] := by
  simp [BasicBlock.hooks, visitBlock, List.filterMap_append, List.filterMap_map]

/-- The pass instruments the function of the block. -/
def IrModule.Instruments (program : IrModule Instruction) (bb : BasicBlock Instruction)
    : Prop :=
  program.excluded = false ∧ ∃ f ∈ program.functions, f.skipped = false ∧ bb ∈ f.blocks

/-- The block of an instrumented function runs the hook with this argument. -/
def IrModule.Runs (program : IrModule Instruction) (bb : BasicBlock Instruction)
    (bbInstCount : BitVec 32)
    : Prop :=
  program.Instruments bb ∧ bbInstCount ∈ (visitBlock bb).hooks

/-- `Runs` is about the output of the pass: the visited block with the hook is there. The
window of an episode is counted over these blocks.
-/
theorem IrModule.Runs.visited {program : IrModule Instruction} {bb : BasicBlock Instruction}
    {bbInstCount : BitVec 32} (runs : program.Runs bb bbInstCount)
    : ∃ f ∈ (KSpecEmCheckSpecLength.runImpl program).functions,
        ∃ visited ∈ f.blocks, bbInstCount ∈ visited.hooks := by
  obtain ⟨⟨included, f, member, kept, inside⟩, hook⟩ := runs
  refine ⟨KSpecEmCheckSpecLength.visitor f, ?_, visitBlock bb, ?_, hook⟩
  · simp only [KSpecEmCheckSpecLength.runImpl, included, Bool.false_eq_true, if_false]
    exact List.mem_map_of_mem member
  · simp only [KSpecEmCheckSpecLength.visitor, kept, Bool.false_eq_true, if_false]
    exact List.mem_map_of_mem inside

/-- No block is empty, so a hook counts at least one instruction. -/
theorem BasicBlock.size_pos (bb : BasicBlock Instruction) : 0 < bb.size :=
  Nat.succ_pos _

/-- The argument of the hook is the length, unless the block is longer than an
`unsigned int`.
-/
theorem BasicBlock.toNat_size {bb : BasicBlock Instruction} (short : bb.size < 2 ^ 31)
    : (BitVec.ofNat 32 bb.size).toNat = bb.size := by
  rw [BitVec.toNat_ofNat]
  exact Nat.mod_eq_of_lt (by omega)

/-- The hook of a short block counts its length. -/
theorem IrModule.Runs.toNat {program : IrModule Instruction} {bb : BasicBlock Instruction}
    {bbInstCount : BitVec 32} (runs : program.Runs bb bbInstCount) (short : bb.size < 2 ^ 31)
    : bbInstCount.toNat = bb.size := by
  have argument := runs.2
  rw [visitBlock_hooks, List.mem_singleton] at argument
  rw [argument]
  exact BasicBlock.toNat_size short

end Kasper
