import Kasper.Correctness.Hooks
import Kasper.Runtime.Machine

/-! Interrupts and exceptions keep every rider.
In speculation a handler writes the checkpoint's registers over the interrupt's frame,
rolls back around it, and returns through it.
-/

namespace Kasper

open ByteMemory Exits

/-- Memory changed inside one interrupt's frame only. -/
def FrameOnly (regs : Address) (before after : Memory) : Prop :=
  ∀ b, ¬Within regs sizeofPtregs b → after b = before b

theorem Slot.offset_le (slot : Slot) : slot.offset ≤ 160 := by
  cases slot <;> decide

theorem Slot.offset_apart {slot other : Slot} (different : slot ≠ other)
    : slot.offset + 8 ≤ other.offset ∨ other.offset + 8 ≤ slot.offset := by
  revert different
  cases slot <;> cases other <;> decide

/-- The distance from a slot is the distance from its frame less its offset. -/
theorem within_slot {regs b : Address} {slot : Slot} (within : Within (slotAddress regs slot) 8 b)
    : (b - regs).toNat = (b - slotAddress regs slot).toNat + slot.offset := by
  have bound := slot.offset_le
  simp only [Within, slotAddress, BitVec.toNat_sub, BitVec.toNat_add, BitVec.toNat_ofNat]
    at within ⊢
  omega

/-- A slot lies in its frame. -/
theorem within_frame {regs b : Address} {slot : Slot} (within : Within (slotAddress regs slot) 8 b)
    : Within regs sizeofPtregs b := by
  have bound := slot.offset_le
  have distance := within_slot within
  rw [Within] at within ⊢
  simp only [sizeofPtregs]
  omega

/-- Storing slots changes the frame only. -/
theorem foldl_slots_frame (regs : Address) (value : Slot → Word) (slots : List Slot)
    (mem : Memory)
    : FrameOnly regs mem
        (slots.foldl (fun mem slot => writeWord mem (slotAddress regs slot) (value slot)) mem) := by
  induction slots generalizing mem with
  | nil => exact fun _ _ => rfl
  | cons slot rest ih =>
      intro b outside
      rw [List.foldl_cons, ih _ b outside]
      exact writeWord_outside (fun within => outside (within_frame within))

/-- A stored slot holds its value, whichever slots are stored after it. -/
theorem foldl_slots_read (regs : Address) (value : Slot → Word) {slots : List Slot}
    {slot : Slot} (mem : Memory)
    (stored : slot ∈ slots ∨ readWord mem (slotAddress regs slot) = value slot)
    : readWord
          (slots.foldl (fun mem slot => writeWord mem (slotAddress regs slot) (value slot)) mem)
          (slotAddress regs slot)
      = value slot := by
  induction slots generalizing mem with
  | nil => exact stored.resolve_left List.not_mem_nil
  | cons first rest ih =>
      rw [List.foldl_cons]
      refine ih _ ?_
      by_cases same : slot = first
      · subst same
        exact Or.inr (readWord_writeWord _ _ _)
      · rcases stored with member | kept
        · exact Or.inl ((List.mem_cons.mp member).resolve_left same)
        · refine Or.inr (Eq.trans (readWord_congr (fun b within => ?_)) kept)
          refine writeWord_outside (fun inside => ?_)
          have apart := Slot.offset_apart same
          have far := within_slot within
          have near := within_slot inside
          rw [Within] at within inside
          omega

section
variable {env : Env} {X : Rider env.kernel} {onFail : SpecAssert → RtM Unit} {s : Rt}

/-- A state an interrupt or an exception may come in, also inside a hook that faulted. -/
structure Standing (kernel : Kernel) (X : Rider kernel) (s : Rt) : Prop where
  coherent : Coherent kernel s
  consistent : s.Consistent
  rolls : s.inSpeculativeEmulation = true → X.rolls s
  holds : s.inSpeculativeEmulation = false → X.holds s

theorem Inv.standing (h : Inv env.kernel X s) : Standing env.kernel X s where
  coherent := h.coherent
  consistent := h.consistent
  rolls := X.rolls_of_holds s h.holds
  holds := fun _ => h.holds

theorem Standing.ended (h : Standing env.kernel X s) : X.ended s.reports.printed := by
  cases spec : s.inSpeculativeEmulation with
  | true => exact X.ended_rolls s (h.rolls spec)
  | false => exact X.ended_holds s (h.holds spec)

/-- The frame is aligned, does not wrap, and lies apart from the saved stack frame. -/
structure FrameApart (regs : Address) (stack : StackLog) : Prop where
  aligned : wordOf regs = regs
  notNull : regs ≠ 0
  bound : regs.toNat + sizeofPtregs < 2 ^ 64
  apart : ∀ b, Within regs sizeofPtregs b → ¬stack.Holds b

/-- What a handler needs to roll back: memory outside its frame is all the rider looks at,
the replay may skip what it skips, and the restart type is admitted.
-/
structure Interruptible (env : Env) (X : Rider env.kernel) (regs frameaddr : Address)
    (restartType : RestartType) (s : Rt)
    : Prop where
  memory : ∀ (t : Rt) mem, FrameOnly regs t.mem mem → X.admitsMemory t mem
  flag : ¬Within regs sizeofPtregs env.kernel.swapBranchCondition
  direct : X.spares (restartSkips env true 0 0)
  indirect : X.spares (restartSkips env false frameaddr regs)
  admitted : X.admits restartType s
  other : restartType ≠ .restartReturn
  apart : X.readsFrames → FrameApart regs s.stack

theorem Interruptible.busy {regs frameaddr : Address} {restartType : RestartType} {t : Rt}
    (may : Interruptible env X regs frameaddr restartType s) (busy : Busy s t)
    : Interruptible env X regs frameaddr restartType t :=
  { may with
    admitted := X.admits_busy s t restartType busy may.admitted
    apart := fun reads => busy.stack ▸ may.apart reads }

/-- The state after the handler's rollback: that of the checkpoint, but for the frame. -/
def HandlerReturn (env : Env) (X : Rider env.kernel) (regs frameaddr : Address) (s t : Rt)
    : Prop :=
  ∃ v : Rt,
    v.registers = s.registers
    ∧ v.stack = s.stack
    ∧ v.mem = copyRegisters regs s.registers s.mem
    ∧ Settled env.kernel X (restartSkips env false frameaddr regs) v t

/-- The handler's rollback ends the episode; the assertion after it is outside speculation. -/
theorem interruptRestart_keeps {regs frameaddr : Address} {restartType : RestartType}
    {line : Nat} (handler : Handler env.kernel onFail) (rolling : Rolling env.kernel X s)
    (may : Interruptible env X regs frameaddr restartType s)
    (other
      : ¬SpecAssert.OfStateMachine
          ⟨"kspecem_interrupt.c", line, "kspecem_regs->ip == regs->ip"⟩)
    : Ends (interruptRestart env onFail regs frameaddr restartType line)
        (fun _ t => HandlerReturn env X regs frameaddr s t) (InvExit env.kernel X) s := by
  rw [interruptRestart, ends_bind, ends_modify]
  have busy : Busy s { s with mem := copyRegisters regs s.registers s.mem } :=
    ⟨rfl, id, fun _ => id⟩
  have copied : Rolling env.kernel X { s with mem := copyRegisters regs s.registers s.mem } := by
    refine ⟨?_, rolling.consistent.congr rfl, rolling.inSpec, ?_⟩
    · refine rolling.coherent.congr rfl rfl rfl rfl rfl (fun idle _ => ?_)
      exact absurd (rolling.inSpec.symm.trans idle) (by decide)
    · exact X.rolls_written s _ s.irqsEnabled rolling.rolls
        (may.memory _ _ (foldl_slots_frame regs s.registers _ s.mem))
  refine Ends.bind (restart_rolls handler copied (X.admits_busy _ _ _ busy may.admitted)
    (fun nested => may.other nested.2.1) may.indirect) ?_
  rintro _ t ⟨_, settled⟩
  rw [ends_bind, ends_get, ends_bind, ends_get]
  refine ends_ltAssert (fun _ => ?_) (fun _ => ?_)
  · exact ⟨{ s with mem := copyRegisters regs s.registers s.mem }, rfl, rfl, rfl, settled⟩
  · exact handler.loud.invExit settled.consistent settled.idle
      (X.ended_landed t settled.landed) other

/-- The assertion on the handler's frame address: its failure is gone past inside a restart
only.
-/
theorem frameaddrAssert_keeps {holds : Prop} [Decidable holds] {condition : String}
    {line : Nat} (handler : Handler env.kernel onFail) (standing : Standing env.kernel X s)
    (other : ¬SpecAssert.OfStateMachine ⟨"kspecem_interface.c", line, condition⟩)
    : Ends (ltAssert onFail holds "kspecem_interface.c" line condition)
        (fun _ t => t = s ∨ Ignored ⟨"kspecem_interface.c", line, condition⟩ s t)
        (InvExit env.kernel X) s := by
  refine ends_ltAssert (fun _ => Or.inl rfl) (fun _ => ?_)
  exact (handler.fails standing.coherent standing.consistent standing.rolls standing.ended
    other).imp (fun _ _ ignored => Or.inr ignored) (fun _ _ exit => exit)

/-- In speculation the handler rolls back; outside it the hook changes nothing. -/
def HookReturn (env : Env) (X : Rider env.kernel) (regs frameaddr : Address) (s t : Rt)
    : Prop :=
  s.inSpeculativeEmulation = false ∧ t = s
  ∨ s.inSpeculativeEmulation = true ∧ HandlerReturn env X regs frameaddr s t

/-- A handler's rollback after its two assertions. -/
theorem Standing.interruptRestart_keeps {regs frameaddr : Address}
    {restartType : RestartType} {line : Nat} {condition : String} {restartLine : Nat} {t : Rt}
    (handler : Handler env.kernel onFail) (standing : Standing env.kernel X s)
    (may : Interruptible env X regs frameaddr restartType s)
    (asserted : t = s ∨ Ignored ⟨"kspecem_interface.c", line, condition⟩ s t)
    (spec : s.inSpeculativeEmulation = true)
    (other : ¬SpecAssert.OfStateMachine ⟨"kspecem_interface.c", line, condition⟩)
    (otherRestart
      : ¬SpecAssert.OfStateMachine
          ⟨"kspecem_interrupt.c", restartLine, "kspecem_regs->ip == regs->ip"⟩)
    : Ends (interruptRestart env onFail regs frameaddr restartType restartLine)
        (fun _ v => HandlerReturn env X regs frameaddr s v) (InvExit env.kernel X) t := by
  have rolling : Rolling env.kernel X s :=
    ⟨standing.coherent, standing.consistent, spec, standing.rolls spec⟩
  rcases asserted with rfl | ⟨_, _, rfl⟩
  · exact Kasper.interruptRestart_keeps handler rolling may otherRestart
  · have may : Interruptible env X regs frameaddr restartType
        (s.recordFailure ⟨"kspecem_interface.c", line, condition⟩) :=
      { may with admitted := X.admits_busy _ _ _ (.recordFailure s _) may.admitted }
    exact Kasper.interruptRestart_keeps handler (rolling.recordFailure other) may otherRestart

theorem hookInterruptTimer_keeps {regs frameaddr : Address}
    (handler : Handler env.kernel onFail) (standing : Standing env.kernel X s)
    (may
      : s.inSpeculativeEmulation = true
        → Interruptible env X regs frameaddr .restartTimer s)
    : Ends (hookInterruptTimer env onFail regs frameaddr)
        (fun _ t => HookReturn env X regs frameaddr s t) (InvExit env.kernel X) s := by
  rw [hookInterruptTimer, ends_bind, ends_get,
    if_neg (by simp [standing.coherent.initDone])]
  refine Ends.bind (frameaddrAssert_keeps handler standing (by decide)) ?_
  intro _ t asserted
  have coupled : t.log.enabled = t.inSpeculativeEmulation := by
    rcases asserted with rfl | ⟨_, _, rfl⟩
    · exact standing.coherent.coupled
    · exact standing.coherent.coupled
  have inSpec : t.inSpeculativeEmulation = s.inSpeculativeEmulation := by
    rcases asserted with rfl | ⟨_, _, rfl⟩ <;> rfl
  simp only [ends_bind, ends_get]
  refine ends_ltAssert_pos coupled ?_
  rw [ends_ite]
  refine ⟨fun spec => ?_, fun idle => ?_⟩
  · have spec : s.inSpeculativeEmulation = true := inSpec.symm.trans spec
    exact (standing.interruptRestart_keeps handler (may spec) asserted spec (by decide)
      (by decide)).imp (fun _ _ back => Or.inr ⟨spec, back⟩) (fun _ _ exit => exit)
  · have idle : s.inSpeculativeEmulation = false :=
      inSpec.symm.trans (Bool.of_not_eq_true idle)
    rcases asserted with rfl | ⟨spec, _, _⟩
    · exact Or.inl ⟨idle, rfl⟩
    · exact absurd (spec.symm.trans idle) (by decide)

/-- The restart type of `kspecem_interrupt_exception`. -/
def exceptionRestartType (exceptionType : Int) : RestartType :=
  if exceptionType = 1 then .restartPageFault else .restartException

theorem exceptionRestartType_ne (exceptionType : Int)
    : exceptionRestartType exceptionType ≠ .restartReturn := by
  unfold exceptionRestartType
  split <;> decide

theorem hookInterruptException_keeps {regs frameaddr : Address} {exceptionType : Int}
    (handler : Handler env.kernel onFail) (standing : Standing env.kernel X s)
    (may
      : s.inSpeculativeEmulation = true
        → Interruptible env X regs frameaddr (exceptionRestartType exceptionType) s)
    : Ends (hookInterruptException env onFail regs frameaddr exceptionType)
        (fun r t =>
          HookReturn env X regs frameaddr s t
          ∧ (r = 1 ↔ s.inSpeculativeEmulation = true))
        (InvExit env.kernel X) s := by
  rw [hookInterruptException, ends_bind, ends_get,
    if_neg (by simp [standing.coherent.initDone])]
  refine Ends.bind (frameaddrAssert_keeps handler standing (by decide)) ?_
  intro _ t asserted
  have coupled : t.log.enabled = t.inSpeculativeEmulation := by
    rcases asserted with rfl | ⟨_, _, rfl⟩
    · exact standing.coherent.coupled
    · exact standing.coherent.coupled
  have inSpec : t.inSpeculativeEmulation = s.inSpeculativeEmulation := by
    rcases asserted with rfl | ⟨_, _, rfl⟩ <;> rfl
  simp only [ends_bind, ends_get]
  refine ends_ltAssert_pos coupled ?_
  rw [ends_ite]
  refine ⟨fun spec => ?_, fun idle => ?_⟩
  · have spec : s.inSpeculativeEmulation = true := inSpec.symm.trans spec
    refine Ends.bind (standing.interruptRestart_keeps handler (may spec) asserted spec
      (by decide) (by decide)) ?_
    exact fun _ _ back => ⟨Or.inr ⟨spec, back⟩, fun _ => spec, fun _ => rfl⟩
  · have idle : s.inSpeculativeEmulation = false :=
      inSpec.symm.trans (Bool.of_not_eq_true idle)
    rcases asserted with rfl | ⟨spec, _, _⟩
    · exact ⟨Or.inl ⟨idle, rfl⟩, fun one => absurd one (by decide),
        fun spec => absurd (spec.symm.trans idle) (by decide)⟩
    · exact absurd (spec.symm.trans idle) (by decide)

-----------------------------------------------------------------------------------------
-- Through the frame
-----------------------------------------------------------------------------------------

/-- The replay skips every word of an interrupt's frame. -/
theorem FrameApart.skips {regs frameaddr b : Address} {stack : StackLog}
    (apart : FrameApart regs stack) (within : Within regs sizeofPtregs b)
    : restartSkips env false frameaddr regs (wordOf b) = true := by
  have aligned := congrArg BitVec.toNat apart.aligned
  have bound := apart.bound
  have rounded := toNat_wordOf b
  rw [toNat_wordOf] at aligned
  rw [Within, BitVec.toNat_sub] at within
  simp only [sizeofPtregs] at bound within
  rw [restartSkips, skipped, Bool.or_eq_true]
  refine Or.inr ?_
  simp only [apart.notNull, Bool.and_eq_true, decide_eq_true_eq, ne_eq, not_false_eq_true,
    true_and, ge_iff_le, BitVec.le_def, BitVec.lt_def, BitVec.toNat_add, BitVec.toNat_ofNat,
    sizeofPtregs]
  omega

/-- After the rollback the frame still holds the checkpoint's registers. -/
theorem HandlerReturn.slot {regs frameaddr : Address} {t : Rt}
    (back : HandlerReturn env X regs frameaddr s t) (apart : FrameApart regs s.stack)
    (flag : ¬Within regs sizeofPtregs env.kernel.swapBranchCondition) {slot : Slot}
    (copied : slot ∈ interruptSlots)
    : readWord t.mem (slotAddress regs slot) = t.registers slot := by
  obtain ⟨v, registers, stack, mem, settled⟩ := back
  have kept : readWord t.mem (slotAddress regs slot) = readWord v.mem (slotAddress regs slot) := by
    refine readWord_congr (fun b within => ?_)
    have inFrame := within_frame within
    refine settled.kept b (apart.skips inFrame) ?_ ?_
    · rw [stack]
      exact apart.apart b inFrame
    · rintro rfl
      exact flag inFrame
  rw [kept, mem, settled.registers, registers]
  exact foldl_slots_read regs s.registers s.mem (Or.inl copied)

/-- Entering an interrupt changes its frame and the interrupt flag. -/
theorem enterInterrupt_keeps {regs : Address} {interrupted : PtRegs}
    (standing : Standing env.kernel X s)
    (memory : ∀ (t : Rt) mem, FrameOnly regs t.mem mem → X.admitsMemory t mem)
    (flag : ¬Within regs sizeofPtregs env.kernel.swapBranchCondition)
    : Ends (enterInterrupt regs interrupted)
        (fun _ t => Standing env.kernel X t ∧ Busy s t) (InvExit env.kernel X) s := by
  rw [enterInterrupt, ends_modify]
  have frame := foldl_slots_frame regs (interrupted.put .eflags (irqFlags s.irqsEnabled))
    allSlots s.mem
  have admitted := memory _ _ frame
  refine ⟨⟨?_, standing.consistent.congr rfl, fun spec => ?_, fun idle => ?_⟩,
    ⟨rfl, id, fun _ => id⟩⟩
  · refine standing.coherent.congr rfl rfl rfl rfl rfl (fun _ clear => ?_)
    exact (frame _ flag).trans clear
  · exact X.rolls_written s _ false (standing.rolls spec) admitted
  · exact X.section_ _ s.isInRt false (X.written s _ (standing.holds idle) admitted)

/-- Leaving an interrupt outside speculation sets registers and the interrupt flag only. -/
theorem leaveInterrupt_idle {regs : Address} (inv : Inv env.kernel X s)
    : Ends (leaveInterrupt regs) (fun _ t => Inv env.kernel X t) (InvExit env.kernel X) s := by
  have popped (cpu : PtRegs) (irqsEnabled : Bool)
      : Inv env.kernel X { s with cpu, irqsEnabled } := {
    coherent := inv.coherent.congr rfl rfl rfl rfl rfl (fun _ clear => clear)
    consistent := inv.consistent.congr rfl
    holds := X.section_ { s with cpu } s.isInRt irqsEnabled (X.cpu s cpu inv.holds)
  }
  rw [leaveInterrupt, ends_modify]
  exact popped _ _

/-- Leaving the handler after its rollback goes on at the checkpoint. -/
theorem leaveInterrupt_resumes {regs frameaddr : Address} {restartType : RestartType} {t : Rt}
    (may : Interruptible env X regs frameaddr restartType s)
    (back : HandlerReturn env X regs frameaddr s t)
    : Ends (leaveInterrupt regs) (fun _ v => InvExit env.kernel X .resumed v)
        (InvExit env.kernel X) t := by
  rw [leaveInterrupt, ends_modify]
  have frame := back
  obtain ⟨v, registers, stack, mem, settled⟩ := back
  refine ⟨settled.consistent.congr rfl, fun _ => ⟨?_, settled.idle, ?_⟩, by simp,
    fun final => final.elim⟩
  · exact settled.coherent.congr rfl rfl rfl rfl rfl (fun _ clear => clear)
  · refine X.returned t (fun slot => readWord t.mem (slotAddress regs slot)) settled.landed ?_
    intro reads
    have eflags : readWord t.mem (slotAddress regs .eflags) = t.registers .eflags :=
      frame.slot (may.apart reads) may.flag (by decide)
    rw [eflags]

theorem timerInterrupt_keeps {regs frameaddr : Address} {interrupted : PtRegs}
    (handler : Handler env.kernel env.onFail) (standing : Standing env.kernel X s)
    (memory : ∀ (t : Rt) mem, FrameOnly regs t.mem mem → X.admitsMemory t mem)
    (flag : ¬Within regs sizeofPtregs env.kernel.swapBranchCondition)
    (may
      : s.inSpeculativeEmulation = true
        → Interruptible env X regs frameaddr .restartTimer s)
    : Ends (timerInterrupt env regs frameaddr interrupted) (fun _ t => Inv env.kernel X t)
        (InvExit env.kernel X) s := by
  refine Ends.bind (enterInterrupt_keeps standing memory flag) ?_
  rintro _ t ⟨entered, busy⟩
  have may (spec : t.inSpeculativeEmulation = true)
      : Interruptible env X regs frameaddr .restartTimer t :=
    (may (busy.inSpec.symm.trans spec)).busy busy
  rw [ends_bind, ends_get]
  refine Ends.bind (hookInterruptTimer_keeps handler entered may) ?_
  rintro _ v (⟨idle, rfl⟩ | ⟨spec, back⟩)
  · refine Ends.bind (leaveInterrupt_idle
      ⟨entered.coherent, entered.consistent, entered.holds idle⟩) ?_
    intro _ w left
    rw [if_neg (by simp [idle])]
    exact left
  · refine Ends.bind (leaveInterrupt_resumes (may spec) back) ?_
    intro _ w left
    rw [if_pos spec]
    exact left

theorem timerBetween_keeps {leaving : Bool} {regs frameaddr : Address} {interrupted : PtRegs}
    (handler : Handler env.kernel env.onFail) (inv : Inv env.kernel X s)
    (memory : ∀ (t : Rt) mem, FrameOnly regs t.mem mem → X.admitsMemory t mem)
    (flag : ¬Within regs sizeofPtregs env.kernel.swapBranchCondition)
    (may
      : s.inSpeculativeEmulation = true
        → Interruptible env X regs frameaddr .restartTimer s)
    : Ends (timerBetween env leaving regs frameaddr interrupted)
        (fun _ t => Inv env.kernel X t) (InvExit env.kernel X) s := by
  rw [timerBetween, ends_ite]
  refine ⟨fun _ => ?_, fun _ => ?_⟩
  · have late := inv.busy.section_ true s.irqsEnabled
    rw [ends_bind, setRt, ends_modify]
    refine Ends.bind (timerInterrupt_keeps handler late.1.standing memory flag
      (fun spec => (may spec).busy late.2)) ?_
    intro _ t kept
    exact (kept.busy.section_ false t.irqsEnabled).1
  · exact timerInterrupt_keeps handler inv.standing memory flag may

theorem exceptionInterrupt_keeps {regs frameaddr : Address} {interrupted : PtRegs}
    {exceptionType : Int} (handler : Handler env.kernel env.onFail)
    (standing : Standing env.kernel X s)
    (memory : ∀ (t : Rt) mem, FrameOnly regs t.mem mem → X.admitsMemory t mem)
    (flag : ¬Within regs sizeofPtregs env.kernel.swapBranchCondition)
    (may
      : s.inSpeculativeEmulation = true
        → Interruptible env X regs frameaddr (exceptionRestartType exceptionType) s)
    : Ends (exceptionInterrupt env regs frameaddr interrupted exceptionType)
        (fun _ t => Inv env.kernel X t) (InvExit env.kernel X) s := by
  refine Ends.bind (enterInterrupt_keeps standing memory flag) ?_
  rintro _ t ⟨entered, busy⟩
  have may (spec : t.inSpeculativeEmulation = true)
      : Interruptible env X regs frameaddr (exceptionRestartType exceptionType) t :=
    (may (busy.inSpec.symm.trans spec)).busy busy
  refine Ends.bind (hookInterruptException_keeps handler entered may) ?_
  rintro handled v ⟨⟨idle, rfl⟩ | ⟨spec, back⟩, one⟩
  · refine Ends.bind (leaveInterrupt_idle
      ⟨entered.coherent, entered.consistent, entered.holds idle⟩) ?_
    intro _ w left
    rw [if_neg (fun handled => absurd (idle.symm.trans (one.mp handled)) (by decide))]
    exact left
  · refine Ends.bind (leaveInterrupt_resumes (may spec) back) ?_
    intro _ w left
    rw [if_pos (one.mpr spec)]
    exact left

/-- In speculation the handler never goes on with the interrupted code. -/
theorem exceptionInterrupt_returns {regs frameaddr : Address} {interrupted : PtRegs}
    {exceptionType : Int} (handler : Handler env.kernel env.onFail)
    (standing : Standing env.kernel X s)
    (memory : ∀ (t : Rt) mem, FrameOnly regs t.mem mem → X.admitsMemory t mem)
    (flag : ¬Within regs sizeofPtregs env.kernel.swapBranchCondition)
    (may
      : s.inSpeculativeEmulation = true
        → Interruptible env X regs frameaddr (exceptionRestartType exceptionType) s)
    : Ends (exceptionInterrupt env regs frameaddr interrupted exceptionType)
        (fun _ _ => s.inSpeculativeEmulation = false) (fun _ _ => True) s := by
  refine Ends.bind ((enterInterrupt_keeps standing memory flag).imp (fun _ _ kept => kept)
    (fun _ _ _ => trivial)) ?_
  rintro _ t ⟨entered, busy⟩
  have may (spec : t.inSpeculativeEmulation = true)
      : Interruptible env X regs frameaddr (exceptionRestartType exceptionType) t :=
    (may (busy.inSpec.symm.trans spec)).busy busy
  refine Ends.bind ((hookInterruptException_keeps handler entered may).imp
    (fun _ _ kept => kept.2) (fun _ _ _ => trivial)) ?_
  intro handled v one
  refine Ends.bind (Ends.trivial _) ?_
  intro _ w _
  rw [ends_ite]
  refine ⟨fun _ => trivial, fun other => ?_⟩
  have idle : ¬t.inSpeculativeEmulation = true := fun spec => other (one.mpr spec)
  rw [busy.inSpec] at idle
  exact Bool.of_not_eq_true idle

end

end Kasper
