import Mathlib.Data.BitVec
import Kasper.Correctness.Interrupts
import Kasper.Runtime.RegisterCode

/-! Both ways back to a checkpoint, by the restore routine and by an interrupt frame that the
processor loads, resume where the save routine returned to.
-/

namespace Kasper

open Assembly ByteMemory

variable {other : Word → Word → Word} {mem : Memory} {base a : Address} {v : Word}
  {m : Processor Slot}

/-- Two words do not share a byte. -/
theorem readWord_writeWord_apart {b : Address}
    (apart : ∀ c, Within a 8 c → ¬Within b 8 c)
    : readWord (writeWord mem b v) a = readWord mem a :=
  readWord_congr (fun c within => writeWord_outside (apart c within))

/-- Slots of one frame do not overlap. -/
theorem slots_apart {slot slot' : Slot} (different : slot ≠ slot') (c : Address)
    (within : Within (slotAddress base slot) 8 c)
    : ¬Within (slotAddress base slot') 8 c := by
  intro inside
  have apart := Slot.offset_apart different
  have far := within_slot within
  have near := within_slot inside
  rw [Within] at within inside
  omega

/-- Storing a slot in memory is storing it in the register file it holds. -/
@[simp] theorem regsAt_writeSlot (slot : Slot)
    : regsAt (writeWord mem (slotAddress base slot) v) base = (regsAt mem base).put slot v := by
  funext slot'
  by_cases same : slot' = slot
  · subst same
    rw [PtRegs.put_same, regsAt, readWord_writeWord]
  · rw [PtRegs.put_other _ _ same, regsAt, regsAt, readWord_writeWord_apart (slots_apart same)]

/-- The stack around a word does not reach into the saved registers. -/
def StackApart (sp base : Address) : Prop :=
  ∀ c, Within (sp - 8) 16 c → ¬Within base sizeofPtregs c

theorem regsAt_congr {mem' : Memory} (agree : ∀ b, Within base sizeofPtregs b → mem' b = mem b)
    : regsAt mem' base = regsAt mem base := by
  funext slot
  exact readWord_congr (fun b within => agree b (within_frame within))

/-- A push leaves the saved slots. -/
theorem regsAt_push {sp : Address} (apart : StackApart sp base)
    (near : ∀ c, Within a 8 c → Within (sp - 8) 16 c)
    : regsAt (writeWord mem a v) base = regsAt mem base :=
  regsAt_congr (fun b inside => writeWord_outside (fun within => apart b (near b within) inside))

theorem readWord_stack {sp : Address} (apart : StackApart sp base) (slot : Slot)
    (near : ∀ c, Within a 8 c → Within (sp - 8) 16 c)
    : readWord (writeWord mem (slotAddress base slot) v) a = readWord mem a :=
  readWord_writeWord_apart (fun c within inside =>
    apart c (near c within) (within_frame inside))

/-- A push leaves the word that was on top. -/
theorem readWord_push {sp : Address}
    : readWord (writeWord mem (sp - 8) v) sp = readWord mem sp := by
  refine readWord_writeWord_apart (fun c within inside => ?_)
  rw [Within, BitVec.toNat_sub] at within
  simp only [Within, BitVec.toNat_sub, BitVec.ofNat_eq_ofNat, BitVec.toNat_ofNat] at inside
  omega

theorem near_below {sp : Address} (c : Address) (within : Within (sp - 8) 8 c)
    : Within (sp - 8) 16 c :=
  Nat.lt_trans within (by decide)

theorem near_above {sp : Address} (c : Address) (within : Within sp 8 c)
    : Within (sp - 8) 16 c := by
  rw [Within, BitVec.toNat_sub] at within
  simp only [Within, BitVec.toNat_sub, BitVec.ofNat_eq_ofNat, BitVec.toNat_ofNat]
  omega

@[simp] theorem sp_eq : (SpecialRegisters.sp : Slot) = .rsp := rfl

@[simp] theorem flags_eq : (SpecialRegisters.flags : Slot) = .eflags := rfl

@[simp] theorem pc_eq : (SpecialRegisters.pc : Slot) = .rip := rfl

@[simp] theorem writeWord_slot (slot : Slot)
    : writeWord mem (base + BitVec.ofNat 64 slot.offset) v
      = writeWord mem (slotAddress base slot) v :=
  rfl

@[simp] theorem readWord_slot (slot : Slot)
    : readWord mem (base + BitVec.ofNat 64 slot.offset) = regsAt mem base slot :=
  rfl

section
variable (m)

/-- The restore routine computes `asmRestoreRegisters` of the slots it loads from. -/
theorem exec_restore
    (apart : StackApart (regsAt m.mem (m.regs .rdi) .rsp - 8) (m.regs .rdi))
    : (exec other 0 asmRestoreRegistersCode m).regs
      = asmRestoreRegisters (regsAt m.mem (m.regs .rdi)) m.regs := by
  have kept (v : Word) : regsAt
        (writeWord m.mem (regsAt m.mem (m.regs .rdi) .rsp - 8#64) v) (m.regs .rdi)
      = regsAt m.mem (m.regs .rdi) :=
    regsAt_push apart near_above
  simp only [asmRestoreRegistersCode, loadSlot, exec, step, Processor.address]
  funext slot
  cases slot <;>
    simp [Processor.pushed, Processor.popped, kept, asmRestoreRegisters, PtRegs.put]

/-- Every register the restore routine reads, in order, with what it finds there. -/
theorem uses_restore
    : uses other 0 asmRestoreRegistersCode m
      = List.replicate 11 (.rdi, m.regs .rdi)
        ++ [(.rsi, m.regs .rsi), (.r8, regsAt m.mem (m.regs .rdi) .rsp),
            (.r9, regsAt m.mem (m.regs .rdi) .rbp)]
        ++ List.replicate 3 (.rdi, m.regs .rdi)
        ++ [(.rax, regsAt m.mem (m.regs .rdi) .eflags),
            (.rsp, regsAt m.mem (m.regs .rdi) .rsp),
            (.rsp, regsAt m.mem (m.regs .rdi) .rsp - 8), (.rdi, m.regs .rdi),
            (.rdx, regsAt m.mem (m.regs .rdi) .rip)] := by
  simp [asmRestoreRegistersCode, loadSlot, uses, step, Processor.address, Instr.reads,
    Processor.pushed, Processor.popped]

/-- The flags the save routine pushes, after its comparison and its clearing of `%rax`. -/
def flagsPushed (other : Word → Word → Word) : Word :=
  let token := m.regs .rsi
  let returnAddress := readWord m.mem (m.regs .rsp)
  let compared := flagsAfter (other token (-1)) (m.regs .eflags) (token - -1)
    (token.ssubOverflow (-1))
  flagsAfter (other returnAddress returnAddress) compared 0 false

theorem interruptFlag_flagsPushed
    : interruptFlag (flagsPushed m other) = interruptFlag (m.regs .eflags) := by
  simp [flagsPushed]

/-- What `asmSaveRegisters` gives for the registers and the stack of the processor. -/
def savedBy (other : Word → Word → Word) : PtRegs × PtRegs :=
  asmSaveRegisters (regsAt m.mem (m.regs .rdi)) m.regs (readWord m.mem (m.regs .rsp))
    (flagsPushed m other) (m.regs .rsi)

/-- The save routine computes `asmSaveRegisters`: the slots it stores, and the registers its
caller gets back, up to the flags of arithmetic.
-/
theorem exec_save (token : -1 < (m.regs .rsi).toInt)
    (apart : StackApart (m.regs .rsp) (m.regs .rdi))
    : regsAt (exec other 0 asmSaveRegistersCode m).mem (m.regs .rdi) = (savedBy m other).1
      ∧ (∀ slot ≠ .eflags,
        (exec other 0 asmSaveRegistersCode m).regs slot = (savedBy m other).2 slot)
      ∧ interruptFlag ((exec other 0 asmSaveRegistersCode m).regs .eflags)
        = interruptFlag (m.regs .eflags) := by
  have falls : ¬(m.regs .rsi).toInt ≤ -1 := by omega
  have kept (mem : Memory) (v : Word)
      : regsAt (writeWord mem (m.regs .rsp - 8#64) v) (m.regs .rdi)
        = regsAt mem (m.regs .rdi) :=
    regsAt_push apart near_below
  have top (mem : Memory) (slot : Slot) (v : Word)
      : readWord (writeWord mem (slotAddress (m.regs .rdi) slot) v) (m.regs .rsp)
        = readWord mem (m.regs .rsp) :=
    readWord_stack apart slot near_above
  have under (mem : Memory) (v : Word)
      : readWord (writeWord mem (m.regs .rsp - 8#64) v) (m.regs .rsp)
        = readWord mem (m.regs .rsp) :=
    readWord_push
  simp only [asmSaveRegistersCode, asmSaveRegistersBody, saveSlot, List.cons_append,
    List.nil_append, exec, step]
  refine ⟨?_, fun slot other_slot => ?_, ?_⟩
  · simp [lessOrEqual_cmp, falls, exec, step, Processor.address, Processor.pushed,
      Processor.popped, kept, top, savedBy, asmSaveRegisters, flagsPushed]
  · cases slot <;> first
      | contradiction
      | simp [lessOrEqual_cmp, falls, exec, step, Processor.address, Processor.pushed,
          Processor.popped, top, under, savedBy, asmSaveRegisters, PtRegs.put]
  · simp [lessOrEqual_cmp, falls, exec, step, Processor.address, Processor.pushed,
      Processor.popped]

end

/-- The literal offsets are those of the slots. -/
theorem copiedOffsets_eq : copiedOffsets = interruptSlots.map Slot.offset := rfl

/-- The frame the processor loads does not reach into the saved registers. -/
def FramesApart (regs base : Address) : Prop :=
  ∀ c, Within regs sizeofPtregs c → ¬Within base sizeofPtregs c

/-- The pairs of lines copy their slots, by induction on them. -/
theorem exec_copyOffsets {frame : Address} (apart : FramesApart frame base) {saved : PtRegs}
    {slots : List Slot} {m : Processor Slot} (source : m.regs .rcx = base)
    (target : m.regs .rdi = frame) (kept : regsAt m.mem base = saved)
    : (exec other 0 ((slots.map Slot.offset).flatMap copyOffset) m).mem
      = slots.foldl (fun mem slot => writeWord mem (slotAddress frame slot) (saved slot))
          m.mem := by
  induction slots generalizing m with
  | nil => rfl
  | cons slot rest ih =>
      have value : readWord m.mem (m.address slot.offset .rcx) = saved slot := by
        rw [Processor.address, source, ← kept]
        rfl
      have outside (v : Word) : regsAt (writeWord m.mem (slotAddress frame slot) v) base = saved :=
        (regsAt_congr (fun b inside => writeWord_outside (fun within =>
          apart b (within_frame within) inside))).trans kept
      rw [List.map_cons, List.flatMap_cons, copyOffset, List.foldl_cons]
      simp only [List.cons_append, List.nil_append, exec, step, value]
      refine (ih ?_ ?_ ?_).trans ?_
      · simpa using source
      · simpa using target
      · simpa [Processor.address, target] using outside (saved slot)
      · simp [Processor.address, target]

/-- The inline assembly computes `copyRegisters`, whichever registers hold its inputs. -/
theorem exec_copy {regs kspecemRegs : Slot} (free : kspecemRegs ∉ [.rdi, .rdx, .rcx])
    (apart : FramesApart (m.regs regs) (m.regs kspecemRegs))
    : (exec other 0 (copyRegistersCode regs kspecemRegs) m).mem
      = copyRegisters (m.regs regs) (regsAt m.mem (m.regs kspecemRegs)) m.mem := by
  have second : kspecemRegs ≠ .rdi := fun same => free (same ▸ List.mem_cons_self)
  rw [copyRegistersCode, copiedOffsets_eq, copyRegisters]
  simp only [List.cons_append, List.nil_append, exec, step]
  exact exec_copyOffsets apart (by simp [second]) (by simp) rfl

/-- The registers a resumed caller relies on: where it is, its stack, its callee-saved
registers and whether interrupts are enabled.
-/
structure ResumesAlike (regs returned : PtRegs) : Prop where
  preserved : ∀ slot ∈ [Slot.rip, .rsp, .rbx, .rbp, .r12, .r13, .r14, .r15],
    regs slot = returned slot
  interrupts : interruptFlag (regs .eflags) = interruptFlag (returned .eflags)

/-- What a register must still hold when the restore routine reads it. -/
def Needed (base arg : Word) (saved : PtRegs) : Slot × Word → Prop
  | (.rdi, v) => v = base
  | (.rsi, v) => v = arg
  | (.r8, v) => v = saved .rsp
  | (.r9, v) => v = saved .rbp
  | (.rax, v) => v = saved .eflags
  | (.rsp, v) => v = saved .rsp ∨ v = saved .rsp - 8
  | (.rdx, v) => v = saved .rip
  | _ => False

theorem ResumesAlike.trans {regs saved returned : PtRegs} (h : ResumesAlike regs saved)
    (h' : ResumesAlike saved returned)
    : ResumesAlike regs returned where
  preserved := fun slot member => (h.preserved slot member).trans (h'.preserved slot member)
  interrupts := h.interrupts.trans h'.interrupts

theorem asmRestoreRegisters_alike (saved cpu : PtRegs)
    : ResumesAlike (asmRestoreRegisters saved cpu) saved := by
  refine ⟨fun slot member => ?_, rfl⟩
  simp only [List.mem_cons, List.not_mem_nil, or_false] at member
  rcases member with rfl | rfl | rfl | rfl | rfl | rfl | rfl | rfl <;> rfl

theorem copyRegisters_alike (frame : Address) (saved : PtRegs) (mem : Memory)
    : ResumesAlike (regsAt (copyRegisters frame saved mem) frame) saved := by
  have copied (slot : Slot) (member : slot ∈ interruptSlots)
      : regsAt (copyRegisters frame saved mem) frame slot = saved slot :=
    foldl_slots_read frame saved mem (Or.inl member)
  refine ⟨fun slot member => copied slot ?_, ?_⟩
  · revert member
    revert slot
    decide
  · rw [copied .eflags (by decide)]

/-- The saved slots are what the save routine returned with. -/
theorem saved_alike (m : Processor Slot) (token : 0 ≤ (m.regs .rsi).toInt)
    (apart : StackApart (m.regs .rsp) (m.regs .rdi))
    : ResumesAlike (regsAt (exec other 0 asmSaveRegistersCode m).mem (m.regs .rdi))
        (exec other 0 asmSaveRegistersCode m).regs := by
  obtain ⟨slots, registers, interrupts⟩ := @exec_save other m (by omega) apart
  have falls : ¬(m.regs .rsi).toInt ≤ -1 := by omega
  refine ⟨fun slot member => ?_, ?_⟩
  · simp only [List.mem_cons, List.not_mem_nil, or_false] at member
    rw [slots, registers slot (by rintro rfl; simp at member), savedBy, asmSaveRegisters,
      if_neg falls]
    rcases member with rfl | rfl | rfl | rfl | rfl | rfl | rfl | rfl <;> rfl
  · rw [slots, interrupts, savedBy, asmSaveRegisters, if_neg falls]
    exact interruptFlag_flagsPushed m

/-- Both ways back to a checkpoint resume like the original return of the save routine, and
the restore routine overwrites no register that it still needs.
-/
theorem both_ways_resume {call restart interrupted : Processor Slot} {regs kspecemRegs : Slot}
    (token : 0 ≤ (call.regs .rsi).toInt)
    (stackApart : StackApart (call.regs .rsp) (call.regs .rdi))
    (restored : restart.regs .rdi = call.regs .rdi)
    (restartKept : ∀ b, Within (call.regs .rdi) sizeofPtregs b →
      restart.mem b = (exec other 0 asmSaveRegistersCode call).mem b)
    (free : kspecemRegs ∉ [.rdi, .rdx, .rcx])
    (copied : interrupted.regs kspecemRegs = call.regs .rdi)
    (frameApart : FramesApart (interrupted.regs regs) (call.regs .rdi))
    (interruptedKept : ∀ b, Within (call.regs .rdi) sizeofPtregs b →
      interrupted.mem b = (exec other 0 asmSaveRegistersCode call).mem b)
    : let returned := exec other 0 asmSaveRegistersCode call
      let handled := exec other 0 (copyRegistersCode regs kspecemRegs) interrupted
      returned.regs .rip = readWord call.mem (call.regs .rsp)
      ∧ ResumesAlike (exec other 0 asmRestoreRegistersCode restart).regs returned.regs
      ∧ ResumesAlike (regsAt handled.mem (interrupted.regs regs)) returned.regs
      ∧ ∀ use ∈ uses other 0 asmRestoreRegistersCode restart,
        Needed (call.regs .rdi) (restart.regs .rsi) (regsAt returned.mem (call.regs .rdi)) use := by
  intro returned handled
  have saved : ResumesAlike (regsAt returned.mem (call.regs .rdi)) returned.regs :=
    saved_alike call token stackApart
  obtain ⟨slots, registers, _⟩ := @exec_save other call (by omega) stackApart
  have falls : ¬(call.regs .rsi).toInt ≤ -1 := by omega
  have restarted
      : regsAt restart.mem (restart.regs .rdi) = regsAt returned.mem (call.regs .rdi) := by
    rw [restored]
    exact regsAt_congr restartKept
  have top : regsAt returned.mem (call.regs .rdi) .rsp = call.regs .rsp + 8 := by
    rw [slots, savedBy, asmSaveRegisters, if_neg falls]
    rfl
  refine ⟨?_, ?_, ?_, ?_⟩
  · rw [registers .rip (by decide), savedBy, asmSaveRegisters, if_neg falls]
    rfl
  · have apart
        : StackApart (regsAt restart.mem (restart.regs .rdi) .rsp - 8) (restart.regs .rdi) := by
      rw [restarted, top, restored]
      rwa [BitVec.add_sub_cancel]
    rw [exec_restore restart apart, restarted]
    exact (asmRestoreRegisters_alike _ _).trans saved
  · have same : regsAt interrupted.mem (call.regs .rdi) = regsAt returned.mem (call.regs .rdi) :=
      regsAt_congr interruptedKept
    rw [exec_copy free (by rwa [copied]), copied, same]
    exact (copyRegisters_alike _ _ _).trans saved
  · rw [uses_restore, restarted, restored]
    simp [Needed]

/-- A processor that calls the save routine with `kspecem_registers` at `0x10000`. -/
def callingProcessor : Processor Slot where
  regs
    | .rdi => 0x10000
    | .rsi => 1
    | .rsp => 0x8000
    | .eflags => 0x202
    | _ => 7
  mem := fun _ => 0xab

def savedProcessor : Processor Slot := exec (fun _ _ => 0) 0 asmSaveRegistersCode callingProcessor

/-- Later processors with the slots saved: one at the restore routine, one in a handler. -/
def restartingProcessor : Processor Slot where
  regs := fun slot => if slot = .rdi then 0x10000 else 3
  mem := savedProcessor.mem

def interruptedProcessor : Processor Slot where
  regs := fun slot => if slot = .r9 then 0x10000 else 0x20000
  mem := savedProcessor.mem

theorem stackApart_sample : StackApart 0x8000 0x10000 := by
  intro c near within
  simp only [Within, sizeofPtregs] at near within
  bv_omega

theorem framesApart_sample : FramesApart 0x20000 0x10000 := by
  intro c near within
  simp only [Within, sizeofPtregs] at near within
  bv_omega

theorem both_ways_resume_sample
    : let handled := exec (fun _ _ => 0) 0 (copyRegistersCode .r8 .r9) interruptedProcessor
      savedProcessor.regs .rip = readWord callingProcessor.mem 0x8000
      ∧ ResumesAlike (exec (fun _ _ => 0) 0 asmRestoreRegistersCode restartingProcessor).regs
          savedProcessor.regs
      ∧ ResumesAlike (regsAt handled.mem 0x20000) savedProcessor.regs
      ∧ ∀ use ∈ uses (fun _ _ => 0) 0 asmRestoreRegistersCode restartingProcessor,
        Needed 0x10000 3 (regsAt savedProcessor.mem 0x10000) use :=
  @both_ways_resume (fun _ _ => 0) callingProcessor restartingProcessor interruptedProcessor .r8
    .r9 (by decide) stackApart_sample rfl (fun _ _ => rfl) (by decide) rfl framesApart_sample
    (fun _ _ => rfl)

end Kasper
