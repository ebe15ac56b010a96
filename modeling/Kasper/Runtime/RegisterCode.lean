import Kasper.Library.Assembly
import Kasper.Runtime.Registers

/-! The assembly of `kspecem_regs.S`, and the inline assembly that both handlers of
`kspecem_interrupt.c` hold.
-/

namespace Kasper

open Assembly ByteMemory

instance : SpecialRegisters Slot where
  sp := .rsp
  flags := .eflags
  pc := .rip

/-- `movq %src, (slot)(%rdi)` and `movq (slot)(%rdi), %dst`, at the offsets of `calling.h`. -/
def saveSlot (src slot : Slot) : Instr Slot := .store src slot.offset .rdi
def loadSlot (slot dst : Slot) : Instr Slot := .load slot.offset .rdi dst

/-- `kspecem_asm_save_registers` between its jump and the label the jump goes to. -/
def asmSaveRegistersBody : List (Instr Slot) :=
  [ saveSlot .rax .rax,
    saveSlot .rbx .rbx,
    saveSlot .rcx .rcx,
    saveSlot .rdx .rdx,
    saveSlot .rbp .rbp,
    saveSlot .r8 .r8,
    saveSlot .r9 .r9,
    saveSlot .r10 .r10,
    saveSlot .r11 .r11,
    saveSlot .r12 .r12,
    saveSlot .r13 .r13,
    saveSlot .r14 .r14,
    saveSlot .r15 .r15,
    .lea 8 .rsp .rdx,
    saveSlot .rdx .rsp,
    .load 0 .rsp .rax,
    saveSlot .rax .rip,
    .clear .rax,
    .pushfq,
    .pop .rax,
    saveSlot .rax .eflags ]

/-- `kspecem_asm_save_registers`. -/
def asmSaveRegistersCode : List (Instr Slot) :=
  [.cmp (-1) .rsi, .jle asmSaveRegistersBody.length]
    ++ asmSaveRegistersBody
    ++ [.clear .rax, .retq]

/-- `kspecem_asm_restore_registers`. -/
def asmRestoreRegistersCode : List (Instr Slot) :=
  [ loadSlot .rsp .r8,
    loadSlot .rbp .r9,
    loadSlot .rip .rdx,
    loadSlot .rbx .rbx,
    loadSlot .r10 .r10,
    loadSlot .r11 .r11,
    loadSlot .r12 .r12,
    loadSlot .r13 .r13,
    loadSlot .r14 .r14,
    loadSlot .r15 .r15,
    loadSlot .rcx .rcx,
    .movl .rsi .rax,
    .mov .r8 .rsp,
    .mov .r9 .rbp,
    loadSlot .r8 .r8,
    loadSlot .r9 .r9,
    loadSlot .eflags .rax,
    .push .rax,
    .popfq,
    loadSlot .rax .rax,
    .jmpq .rdx ]

/-- The literal offsets of the handlers' inline assembly, in its order. -/
def copiedOffsets : List Nat :=
  [ 0x0, 0x8, 0x10, 0x18, 0x30, 0x38, 0x40, 0x48, 0x20,
    0x50, 0x28, 0x58, 0x60,
    0x68, 0x70,
    0x90,
    0x80, 0x98 ]

/-- One pair of lines of the copy. -/
def copyOffset (offset : Nat) : List (Instr Slot) :=
  [.load offset .rcx .rdx, .store .rdx offset .rdi]

/-- The handlers' inline assembly; the compiler chose the registers of its two inputs. -/
def copyRegistersCode (regs kspecemRegs : Slot) : List (Instr Slot) :=
  [.mov regs .rdi, .mov kspecemRegs .rcx] ++ copiedOffsets.flatMap copyOffset

/-- The slots of the `pt_regs` at an address. -/
def regsAt (mem : Memory) (regs : Address) : PtRegs :=
  fun slot => readWord mem (slotAddress regs slot)

end Kasper
