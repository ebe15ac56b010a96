import Mathlib.Logic.Function.Basic
import Kasper.Library.ByteMemory

/-! Straight-line 64-bit assembly with forward jumps: registers by name, the flags word, and
a byte-addressed memory. Parameters are the register names and what the operations leave in
the flags no jump here reads.
-/

namespace Assembly

open ByteMemory

/-- The registers that instructions use without naming them. -/
class SpecialRegisters (Reg : Type) where
  sp : Reg
  flags : Reg
  pc : Reg

/-- Instructions, the source operand first. -/
inductive Instr (Reg : Type)
  | mov (src dst : Reg)
  | movl (src dst : Reg)
  | load (offset : Nat) (base dst : Reg)
  | store (src : Reg) (offset : Nat) (base : Reg)
  | lea (offset : Nat) (base dst : Reg)
  | cmp (imm : Word) (dst : Reg)
  | jle (skip : Nat)
  | clear (dst : Reg)
  | push (src : Reg)
  | pop (dst : Reg)
  | pushfq
  | popfq
  | retq
  | jmpq (dst : Reg)
  deriving Repr

structure Processor (Reg : Type) where
  regs : Reg → Word
  mem : Memory

/-- The zero flag, the sign flag, the interrupt flag and the overflow flag. -/
def zeroFlag (flags : Word) : Bool := flags.getLsbD 6
def signFlag (flags : Word) : Bool := flags.getLsbD 7
def interruptFlag (flags : Word) : Bool := flags.getLsbD 9
def overflowFlag (flags : Word) : Bool := flags.getLsbD 11

/-- One flag, in its place. -/
def flagBit (i : Nat) (on : Bool) : Word := if on then BitVec.twoPow 64 i else 0

/-- The flags after an operation; `other` gives the carry, parity and adjust flags. -/
def flagsAfter (other flags result : Word) (overflow : Bool) : Word :=
  (flags &&& ~~~0x8d5#64) ||| (other &&& 0x15#64) ||| flagBit 6 (result = 0)
    ||| flagBit 7 result.msb ||| flagBit 11 overflow

/-- The condition of `jle`. -/
def lessOrEqual (flags : Word) : Bool :=
  zeroFlag flags || signFlag flags != overflowFlag flags

section
variable (other flags result : Word) (overflow : Bool)

theorem getElem_flagBit {i j : Nat} (inside : j < 64) (on : Bool)
    : (flagBit i on)[j] = (decide (i = j) && on) := by
  cases on <;> simp [flagBit, BitVec.getElem_twoPow]
  omega

theorem zeroFlag_flagsAfter
    : zeroFlag (flagsAfter other flags result overflow) = decide (result = 0) := by
  simp [zeroFlag, flagsAfter, getElem_flagBit]

theorem signFlag_flagsAfter
    : signFlag (flagsAfter other flags result overflow) = result.msb := by
  simp [signFlag, flagsAfter, getElem_flagBit]

theorem overflowFlag_flagsAfter
    : overflowFlag (flagsAfter other flags result overflow) = overflow := by
  simp [overflowFlag, flagsAfter, getElem_flagBit]

/-- Arithmetic leaves the interrupt flag. -/
@[simp] theorem interruptFlag_flagsAfter
    : interruptFlag (flagsAfter other flags result overflow) = interruptFlag flags := by
  simp [interruptFlag, flagsAfter, getElem_flagBit]

/-- After a comparison `jle` jumps when the operand is at most the immediate, as signed
numbers.
-/
theorem lessOrEqual_cmp (a imm : Word)
    : lessOrEqual (flagsAfter other flags (a - imm) (a.ssubOverflow imm))
      = decide (a.toInt ≤ imm.toInt) := by
  have high := @BitVec.toInt_lt 64 a
  have low := @BitVec.le_toInt 64 a
  have high' := @BitVec.toInt_lt 64 imm
  have low' := @BitVec.le_toInt 64 imm
  have zero : (a - imm = 0) ↔ a.toInt = imm.toInt := by
    rw [BitVec.toInt_inj]
    bv_omega
  rw [lessOrEqual, zeroFlag_flagsAfter, signFlag_flagsAfter, overflowFlag_flagsAfter,
    BitVec.msb_eq_toInt, BitVec.toInt_sub, BitVec.ssubOverflow]
  simp only [zero]
  simp only [Int.bmod]
  grind

end

section
variable {Reg : Type} [DecidableEq Reg] [SpecialRegisters Reg] (other : Word → Word → Word)

open SpecialRegisters Function

def Processor.set (m : Processor Reg) (dst : Reg) (value : Word) : Processor Reg :=
  { m with regs := update m.regs dst value }

def Processor.write (m : Processor Reg) (a : Address) (value : Word) : Processor Reg :=
  { m with mem := writeWord m.mem a value }

/-- The address of an operand. -/
def Processor.address (m : Processor Reg) (offset : Nat) (base : Reg) : Address :=
  m.regs base + BitVec.ofNat 64 offset

def Processor.pushed (m : Processor Reg) (value : Word) : Processor Reg :=
  (m.write (m.regs sp - 8) value).set sp (m.regs sp - 8)

def Processor.popped (m : Processor Reg) (dst : Reg) : Processor Reg :=
  (m.set sp (m.regs sp + 8)).set dst (readWord m.mem (m.regs sp))

omit [SpecialRegisters Reg] in
@[simp] theorem Processor.set_regs_same (m : Processor Reg) (dst : Reg) (value : Word)
    : (m.set dst value).regs dst = value := by
  simp [Processor.set]

omit [SpecialRegisters Reg] in
@[simp] theorem Processor.set_regs_other (m : Processor Reg) {dst reg : Reg} (value : Word)
    (different : reg ≠ dst)
    : (m.set dst value).regs reg = m.regs reg := by
  simp [Processor.set, different]

omit [SpecialRegisters Reg] in
@[simp] theorem Processor.set_mem (m : Processor Reg) (dst : Reg) (value : Word)
    : (m.set dst value).mem = m.mem :=
  rfl

omit [DecidableEq Reg] [SpecialRegisters Reg] in
@[simp] theorem Processor.write_regs (m : Processor Reg) (a : Address) (value : Word)
    : (m.write a value).regs = m.regs :=
  rfl

omit [DecidableEq Reg] [SpecialRegisters Reg] in
@[simp] theorem Processor.write_mem (m : Processor Reg) (a : Address) (value : Word)
    : (m.write a value).mem = writeWord m.mem a value :=
  rfl

/-- One instruction other than `jle`. -/
def step (m : Processor Reg) : Instr Reg → Processor Reg
  | .mov src dst => m.set dst (m.regs src)
  | .movl src dst => m.set dst ((m.regs src).setWidth 32 |>.setWidth 64)
  | .load offset base dst => m.set dst (readWord m.mem (m.address offset base))
  | .store src offset base => m.write (m.address offset base) (m.regs src)
  | .lea offset base dst => m.set dst (m.address offset base)
  | .cmp imm dst =>
      let a := m.regs dst
      m.set flags (flagsAfter (other a imm) (m.regs flags) (a - imm) (a.ssubOverflow imm))
  | .jle _ => m
  | .clear dst =>
      (m.set flags (flagsAfter (other (m.regs dst) (m.regs dst)) (m.regs flags) 0 false)).set dst 0
  | .push src => m.pushed (m.regs src)
  | .pop dst => m.popped dst
  | .pushfq => m.pushed (m.regs flags)
  | .popfq => m.popped flags
  | .retq => m.popped pc
  | .jmpq dst => m.set pc (m.regs dst)

/-- A taken jump skips the instructions up to its label. -/
def exec : (skip : Nat) → List (Instr Reg) → Processor Reg → Processor Reg
  | _, [], m => m
  | skip + 1, _ :: rest, m => exec skip rest m
  | 0, .jle past :: rest, m => exec (if lessOrEqual (m.regs flags) then past else 0) rest m
  | 0, instr :: rest, m => exec 0 rest (step other m instr)

/-- The registers an instruction reads, for its operands and as the top of the stack. -/
def Instr.reads : Instr Reg → List Reg
  | .mov src _ | .movl src _ | .jmpq src => [src]
  | .load _ base _ | .lea _ base _ => [base]
  | .store src _ base => [src, base]
  | .cmp _ dst => [dst]
  | .push src => [src, sp]
  | .pushfq => [flags, sp]
  | .pop _ | .popfq | .retq => [sp]
  | .jle _ => [flags]
  | .clear _ => []

/-- Every register that a run reads, with the value it finds there. -/
def uses : (skip : Nat) → List (Instr Reg) → Processor Reg → List (Reg × Word)
  | _, [], _ => []
  | skip + 1, _ :: rest, m => uses skip rest m
  | 0, .jle past :: rest, m => uses (if lessOrEqual (m.regs flags) then past else 0) rest m
  | 0, instr :: rest, m =>
      instr.reads.map (fun reg => (reg, m.regs reg)) ++ uses 0 rest (step other m instr)

end

end Assembly
