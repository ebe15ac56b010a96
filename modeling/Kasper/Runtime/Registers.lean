import Kasper.Runtime.State

/-! Saving and restoring registers: `kspecem_regs.S`, and the copy into an interrupt frame
that both handlers of `kspecem_interrupt.c` make. Every assembly line is one binding.
-/

namespace Kasper

open ByteMemory

/-- `kspecem_asm_save_registers` up to its return: the saved slots and the registers as
its caller gets them back. `cpu` holds the registers at the call, `returnAddress` the word
at `%rsp` there.
-/
def asmSaveRegisters (saved cpu : PtRegs) (returnAddress flags token : Word)
    : PtRegs × PtRegs :=
  -- cmp $-1, %rsi; jle: a signed comparison with the token
  if token.toInt ≤ -1 then
    (saved, ((cpu.put .rax 0).put .rsp (cpu .rsp + 8)).put .rip returnAddress)
  else
    let saved := saved.put .rax (cpu .rax)
    let saved := saved.put .rbx (cpu .rbx)
    let saved := saved.put .rcx (cpu .rcx)
    let saved := saved.put .rdx (cpu .rdx)
    let saved := saved.put .rbp (cpu .rbp)
    let saved := saved.put .r8 (cpu .r8)
    let saved := saved.put .r9 (cpu .r9)
    let saved := saved.put .r10 (cpu .r10)
    let saved := saved.put .r11 (cpu .r11)
    let saved := saved.put .r12 (cpu .r12)
    let saved := saved.put .r13 (cpu .r13)
    let saved := saved.put .r14 (cpu .r14)
    let saved := saved.put .r15 (cpu .r15)
    let cpu := cpu.put .rdx (cpu .rsp + 8)
    let saved := saved.put .rsp (cpu .rdx)
    let cpu := cpu.put .rax returnAddress
    let saved := saved.put .rip (cpu .rax)
    let cpu := cpu.put .rax 0
    let cpu := cpu.put .rax flags
    let saved := saved.put .eflags (cpu .rax)
    (saved, ((cpu.put .rax 0).put .rsp (cpu .rsp + 8)).put .rip returnAddress)

/-- `kspecem_asm_restore_registers` up to its jump; the last binding is the jump itself. -/
def asmRestoreRegisters (saved cpu : PtRegs) : PtRegs :=
  let cpu := cpu.put .r8 (saved .rsp)
  let cpu := cpu.put .r9 (saved .rbp)
  let cpu := cpu.put .rdx (saved .rip)
  let cpu := cpu.put .rbx (saved .rbx)
  let cpu := cpu.put .r10 (saved .r10)
  let cpu := cpu.put .r11 (saved .r11)
  let cpu := cpu.put .r12 (saved .r12)
  let cpu := cpu.put .r13 (saved .r13)
  let cpu := cpu.put .r14 (saved .r14)
  let cpu := cpu.put .r15 (saved .r15)
  let cpu := cpu.put .rcx (saved .rcx)
  let cpu := cpu.put .rax (cpu .rsi)
  let cpu := cpu.put .rsp (cpu .r8)
  let cpu := cpu.put .rbp (cpu .r9)
  let cpu := cpu.put .r8 (saved .r8)
  let cpu := cpu.put .r9 (saved .r9)
  let cpu := cpu.put .rax (saved .eflags)
  -- push %rax; popfq
  let cpu := cpu.put .eflags (cpu .rax)
  let cpu := cpu.put .rax (saved .rax)
  cpu.put .rip (cpu .rdx)

/-- `kspecem_asm_save_registers(kspecem_registers_ptr, token)`, called with `cpu`. -/
def saveRegisters (cpu : PtRegs) (returnAddress token : Word) : RtM Unit :=
  modify fun s =>
    let (saved, cpu) :=
      asmSaveRegisters s.registers cpu returnAddress (irqFlags s.irqsEnabled) token
    { s with registers := saved, cpu }

/-- `kspecem_restore_registers`: `%rdi` holds `&kspecem_registers`, `%rsi` holds 1. -/
def restoreRegisters (kernel : Kernel) : RtM Unit := do
  modify fun s =>
    let cpu := asmRestoreRegisters s.registers ((s.cpu.put .rdi kernel.registers).put .rsi 1)
    { s with cpu, irqsEnabled := irqsEnabledIn (cpu .eflags) }
  throw .resumed

/-- The slots both handlers copy, in their order; `orig_ax`, `cs` and `ss` stay. -/
def interruptSlots : List Slot :=
  [.r15, .r14, .r13, .r12, .r11, .r10, .r9, .r8, .rbp, .rax, .rbx, .rcx, .rdx, .rsi, .rdi,
    .eflags, .rip, .rsp]

/-- The address of a slot of the `pt_regs` at `regs`. -/
def slotAddress (regs : Address) (slot : Slot) : Address :=
  regs + BitVec.ofNat 64 slot.offset

/-- The interrupt frame after the handler's copy of `kspecem_registers`. -/
def copyRegisters (regs : Address) (saved : PtRegs) (mem : Memory) : Memory :=
  interruptSlots.foldl (fun mem slot => writeWord mem (slotAddress regs slot) (saved slot)) mem

end Kasper
