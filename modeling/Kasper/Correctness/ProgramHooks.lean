import Kasper.Correctness.BlockLogging
import Kasper.Correctness.Jumps
import Kasper.Correctness.SwapFlag
import Kasper.Correctness.Undoable

/-! The hooks around the statements of a program. Before a branch an episode opens from which
the region and the preserved registers come back; outside speculation the hooks leave both
alone; in speculation a hooked write keeps the episode undoable.
-/

namespace Kasper

open ByteMemory Exits

variable {cpu : PtRegs} {returnAddress : Word}

-----------------------------------------------------------------------------------------
-- Saving the registers
-----------------------------------------------------------------------------------------

/-- The save routine returns like any call, whatever its token. -/
theorem asmSaveRegisters_returns (saved : PtRegs) (flags token : Word)
    : Preserves (asmSaveRegisters saved cpu returnAddress flags token).2
        (behindCalls cpu returnAddress) := by
  intro slot member
  simp only [preservedSlots, List.mem_cons, List.not_mem_nil, or_false] at member
  unfold asmSaveRegisters
  split
  · rcases member with rfl | rfl | rfl | rfl | rfl | rfl | rfl | rfl <;> rfl
  · rcases member with rfl | rfl | rfl | rfl | rfl | rfl | rfl | rfl <;> rfl

/-- With a token it saves what the registers are on its return. -/
theorem asmSaveRegisters_saves (saved : PtRegs) (flags : Word) {token : Word}
    (positive : ¬token.toInt ≤ -1)
    : Preserves (asmSaveRegisters saved cpu returnAddress flags token).1
        (behindCalls cpu returnAddress) := by
  intro slot member
  simp only [preservedSlots, List.mem_cons, List.not_mem_nil, or_false] at member
  simp only [asmSaveRegisters, if_neg positive]
  rcases member with rfl | rfl | rfl | rfl | rfl | rfl | rfl | rfl <;> rfl

/-- Without one it leaves the saved registers alone. -/
theorem saveRegisters_refused {s : Rt}
    : Ends (saveRegisters cpu returnAddress noCheckpoint)
        (fun _ t =>
          ∃ cpu',
            t = { s with cpu := cpu' } ∧ Preserves cpu' (behindCalls cpu returnAddress))
        (fun _ _ => False) s := by
  rw [saveRegisters, ends_modify]
  exact ⟨_, rfl, asmSaveRegisters_returns s.registers (irqFlags s.irqsEnabled) noCheckpoint⟩

-----------------------------------------------------------------------------------------
-- Opening
-----------------------------------------------------------------------------------------

/-- A token is not negative. -/
theorem irqFlags_positive (enabled : Bool) : ¬(irqFlags enabled).toInt ≤ -1 := by
  cases enabled <;> decide

section
variable {env : Env} {s : Rt} (region : Region env.kernel)

theorem Region.agree_entered : region.Agree (s.entered env.kernel).mem s.mem :=
  region.agree_counted s 1

theorem Region.agree_checkpointed (stats : Statistics)
    : region.Agree (s.checkpointed env.kernel stats).mem s.mem := by
  unfold Rt.checkpointed
  split
  · exact region.agree_flag s.mem 1
  · exact fun _ _ => rfl

/-- A checkpoint, as `openBranch` leaves it: the episode gives back the region and resumes
behind the calls.
-/
structure Rt.OpenedOver (cpu : PtRegs) (returnAddress : Word) (s : Rt) (start : Memory)
    (kept : Kept) (t : Rt)
    : Prop where
  agree : region.Agree start s.mem
  registers : Preserves kept.registers (behindCalls cpu returnAddress)
  inv : Inv env.kernel (Rider.undoable region start kept) t

/-- Outside speculation a branch opens an episode over any region, or takes no checkpoint
and touches no more than registers.
-/
theorem openBranch_undoable {saveFrames : Frames} {inInterrupt : Bool}
    {frameaddress rsp : Address}
    (clear : ¬Within rsp (frameaddress - rsp).toNat env.kernel.swapBranchCondition)
    (coherent : Coherent env.kernel s) (consistent : s.Consistent)
    (idle : s.inSpeculativeEmulation = false) (rested : s.Rested)
    : Ends
        (openBranch env { env with frames := saveFrames } inInterrupt frameaddress rsp cpu
          returnAddress)
        (fun token t =>
          token = noCheckpoint
            ∧ (∃ cpu',
              t = { s with cpu := cpu' } ∧ Preserves cpu' (behindCalls cpu returnAddress))
          ∨ ∃ start kept, s.OpenedOver region cpu returnAddress start kept t)
        (LostEpisode env.kernel) s := by
  rw [openBranch]
  refine Ends.bind (((hookNewCheckpoint_opens coherent idle inInterrupt).and
    (hookNewCheckpoint_keeps (X := Rider.trivial env.kernel) env.handler True.intro inInterrupt
      ⟨coherent, consistent, True.intro⟩)).imp (fun _ _ both => both.1)
    (fun _ _ lost => LostEpisode.final lost.2.1 lost.1.1)) ?_
  rintro token t (⟨rfl, rfl⟩ | ⟨rfl, stats, rfl⟩)
  · rw [hookSaveStack, if_neg (fun some => some rfl), ends_bind, ends_pure, ends_bind]
    refine saveRegisters_refused.imp (fun _ u refused => ?_) (fun _ _ no => no.elim)
    exact Or.inl ⟨rfl, refused⟩
  · have token := irqFlags_ne_noCheckpoint s.irqsEnabled
    have entered : Coherent env.kernel (s.entered env.kernel) :=
      (coherent.counted 1).congr rfl rfl rfl rfl rfl (fun _ clear => clear)
    have opened
        : Speculating env.kernel ((s.entered env.kernel).checkpointed env.kernel stats) :=
      ⟨⟨entered.checkpointed stats, consistent.congr rfl, True.intro⟩, rfl⟩
    rw [hookSaveStack, if_pos token]
    refine Ends.bind (@saveStack_copies { env with frames := saveFrames } _ frameaddress rsp
      opened rested.isInRestart clear) ?_
    rintro _ _ ⟨cell, rfl, copies⟩
    have bottom : frameaddress - (frameaddress - rsp) = rsp := by bv_omega
    have framed
        : Coherent env.kernel
            (((s.entered env.kernel).checkpointed env.kernel stats).framed frameaddress rsp
              cell) := by
      refine opened.inv.coherent.framed ?_
      simp only [Rt.framed, StackLog.Holds, bottom]
      exact clear
    have saves := @asmSaveRegisters_saves cpu returnAddress s.registers (irqFlags false) _
      (irqFlags_positive s.irqsEnabled)
    rw [ends_bind, saveRegisters, ends_modify, ends_pure]
    refine Or.inr ⟨((s.entered env.kernel).checkpointed env.kernel stats).mem,
      ⟨(Rt.framed ((s.entered env.kernel).checkpointed env.kernel stats) frameaddress rsp
        cell).stack, _⟩,
      (region.agree_checkpointed stats).trans region.agree_entered, saves, ?_, ?_, ?_⟩
    · exact framed.congr rfl rfl rfl rfl rfl (fun _ clear => clear)
    · exact consistent.congr rfl
    · refine ⟨rfl, .empty framed.allocated, rfl, rfl, fun b inFrame _ => ?_⟩
      simp only [Rt.framed, StackLog.Holds, bottom] at inFrame
      simp only [Rt.framed, bottom]
      exact copies b inFrame

-----------------------------------------------------------------------------------------
-- Outside speculation
-----------------------------------------------------------------------------------------

/-- Outside speculation and every restart, with the bytes of a region as given. -/
structure Rt.AtRest {kernel : Kernel} (region : Region kernel) (mem : Memory) (s : Rt)
    : Prop where
  coherent : Coherent kernel s
  consistent : s.Consistent
  idle : s.inSpeculativeEmulation = false
  rested : s.Rested
  agree : region.Agree s.mem mem

theorem Rt.Rested.congr {t : Rt} (rested : s.Rested) (isInRestart : t.isInRestart = s.isInRestart)
    (specAssert : t.specAssert = s.specAssert)
    : t.Rested :=
  ⟨isInRestart.trans rested.1, specAssert.trans rested.2⟩

theorem Rt.AtRest.disabled {kernel : Kernel} {region : Region kernel} {mem : Memory}
    (rests : s.AtRest region mem)
    : s.log.enabled = false :=
  rests.coherent.coupled.trans rests.idle

/-- The hook of a write does nothing. -/
theorem WriteHook.run_disabled {Q : Unit → Rt → Prop} {E : Exit → Rt → Prop}
    {addr : Address} (hook : WriteHook) (disabled : s.log.enabled = false)
    : Ends (hook.run env addr) Q E s ↔ Q () s := by
  cases hook with
  | store => rw [WriteHook.run, hookStore, ends_bind, ends_get, if_pos disabled, ends_pure]
  | memcpy size =>
      rw [WriteHook.run, hookMemcpy, ends_bind, ends_get, if_pos disabled, ends_pure]

/-- A write of the program is the plain write. -/
theorem hookedWrite_disabled {Q : Unit → Rt → Prop} {E : Exit → Rt → Prop}
    {hook : Option WriteHook} {target : Address} {bytes : List Byte}
    (disabled : s.log.enabled = false)
    : Ends (hookedWrite env hook target bytes) Q E s
      ↔ Ends (programWrite env.kernel target bytes) Q E s := by
  cases hook with
  | none => exact Iff.rfl
  | some hook => rw [hookedWrite, ends_bind, hook.run_disabled disabled]

/-- Leaving the section of a checkpoint gives the counter back, without a token nothing. -/
theorem hookLeaveRt_rests {mem : Memory} (rests : s.AtRest region mem) (token : Word)
    : Ends (hookLeaveRt env env.onFail token)
        (fun _ t => t.AtRest region mem ∧ t.cpu = s.cpu) (fun e _ => e.Final) s := by
  rw [hookLeaveRt, ends_ite]
  refine ⟨fun _ => ?_, fun _ => ⟨rests, rfl⟩⟩
  by_cases irqs : s.irqsEnabled = false
  · rw [leaveKspecemRt_disabled rests.disabled irqs]
    have counted : Coherent env.kernel (s.counted env.kernel (-1)) := rests.coherent.counted (-1)
    refine ⟨⟨?_, rests.consistent.congr rfl, rests.idle, rests.rested.congr rfl rfl, ?_⟩,
      rfl⟩
    · exact counted.congr rfl rfl rfl rfl rfl (fun _ clear => clear)
    · exact (region.agree_counted s (-1)).trans rests.agree
  · rw [leaveKspecemRt, ends_bind, ends_get]
    refine Ends.bind (R := fun _ _ => False) ?_ (fun _ _ no => no.elim)
    refine ends_ltAssert (fun pass => irqs pass) (fun _ => ?_)
    refine (env.handler.loud _ s rests.idle).imp (fun _ _ no => no) ?_
    rintro e t ⟨rfl | rfl, _⟩
    · exact True.intro
    · exact True.intro

/-- The select leaves a region alone and clears the flag. -/
theorem Region.agree_select {kernel : Kernel} (region : Region kernel) (mem : Memory)
    : region.Agree (storeInt32 mem kernel.swapBranchCondition 0) mem := by
  intro b holds
  rw [storeInt32_zero, if_neg (region.offFlag b holds)]

theorem select_flag (mem : Memory) (a : Address) : storeInt32 mem a 0 a = 0 := by
  rw [storeInt32_zero, if_pos (by simp [Within])]

/-- A clear flag does not invert the branch. -/
theorem branchSelect_clear {kernel : Kernel} {condition : Condition}
    (clear : s.mem kernel.swapBranchCondition = 0)
    : Ends (branchSelect kernel condition)
        (fun taken t =>
          taken = condition.holds
          ∧ t = { s with mem := storeInt32 s.mem kernel.swapBranchCondition 0 })
        (fun _ _ => False) s := by
  have unset : (loadInt32 s.mem kernel.swapBranchCondition == 1) = false := by
    rw [beq_eq_false_iff_ne]
    intro one
    have byte := (loadInt32_eq_one_iff.mp one).1
    rw [clear] at byte
    exact absurd byte (by decide)
  rw [branchSelect, ends_bind, ends_get, ends_bind, ends_modify, ends_pure, unset]
  exact ⟨rfl, rfl⟩

/-- The rest of a branch takes it as its condition says. -/
theorem Program.finishBranch_rests {kernel : Kernel} {region : Region kernel} {mem : Memory}
    {P : Program kernel} {frames : Frames} {task : Task} (rests : s.AtRest region mem)
    (token : Word)
    : Ends (P.finishBranch frames task token)
        (fun taken t =>
          t.AtRest region mem
          ∧ ∃ mem', region.Agree mem' mem ∧ taken = (P.condition s.cpu mem').holds)
        (fun e _ => e.Final) s := by
  refine Ends.bind (@hookLeaveRt_rests ⟨kernel, frames, task⟩ s region mem rests token) ?_
  rintro _ t ⟨rests, cpu⟩
  rw [ends_bind, ends_get, cpu]
  refine (branchSelect_clear (rests.coherent.idleFlag rests.idle)).imp ?_ (fun _ _ no => no.elim)
  rintro taken u ⟨rfl, rfl⟩
  refine ⟨⟨?_, rests.consistent.congr rfl, rests.idle, rests.rested.congr rfl rfl, ?_⟩, t.mem,
    rests.agree, rfl⟩
  · exact rests.coherent.congr rfl rfl rfl rfl rfl (fun _ _ => select_flag t.mem _)
  · exact (region.agree_select t.mem).trans rests.agree

-----------------------------------------------------------------------------------------
-- In speculation
-----------------------------------------------------------------------------------------

/-- The words a hook logs for its write. -/
def WriteHook.Covers (kernel : Kernel) (addr w : Address) : WriteHook → Prop
  | .store => SavedBy addr w ∧ ¬kernel.PassesOver w
  | .memcpy size => Overlapped addr size w ∧ ¬Missed kernel addr size w

/-- A hook that returns has logged the words it covers. -/
theorem WriteHook.run_covers {X : Rider env.kernel} {addr : Address} (hook : WriteHook)
    (spares : X.spares (restartSkips env true 0 0)) (inv : Inv env.kernel X s)
    (inSpec : s.inSpeculativeEmulation = true)
    : Ends (hook.run env addr)
        (fun _ t => Inv env.kernel X t ∧ ∀ w, hook.Covers env.kernel addr w → t.log.Has w)
        (InvExit env.kernel X) s := by
  cases hook with
  | store =>
      refine (hookStore_keeps env.handler spares inv.busy).imp ?_ (fun _ _ exit => exit)
      rintro _ t ⟨⟨inv, busy⟩, saved⟩
      refine ⟨inv, fun w covers => ?_⟩
      rcases saved (busy.inSpec.trans inSpec) w covers.1 with position | enabled | has
      · exact absurd (Or.inl position) covers.2
      · exact absurd (Or.inr enabled) covers.2
      · exact has
  | memcpy size =>
      refine ((hookMemcpy_keeps env.handler spares addr size s inv).and
        (hookMemcpy_records spares inv inSpec)).imp ?_ (fun _ _ exit => exit.1)
      rintro _ t ⟨inv, _, words⟩
      refine ⟨inv, fun w covers => ?_⟩
      rw [← WriteLog.mem_words, words]
      rcases (logged_iff_not_missed covers.1).mpr covers.2 with logged | rfl
      · exact List.mem_append_left _ (List.mem_append_right _ logged)
      · exact List.mem_append_right _ (List.mem_singleton.mpr rfl)

/-- The bytes of a write that an episode needs are those its hook covers. -/
def Region.Covered {kernel : Kernel} (region : Region kernel) (stack : StackLog)
    (hook : Option WriteHook) (target : Address) (length : Nat)
    : Prop :=
  ∀ b,
    region.holds b
    → ¬stack.Holds b
    → Within target length b
    → ∃ found, hook = some found ∧ WriteHook.Covers kernel target (wordOf b) found

/-- A write of an episode over covered bytes keeps the episode undoable. -/
theorem hookedWrite_undoable {start : Memory} {kept : Kept} {hook : Option WriteHook}
    {target : Address} {bytes : List Byte}
    (spares : (Rider.undoable region start kept).spares (restartSkips env true 0 0))
    (placed : (Action.write target bytes).Placed env.kernel)
    (covered : region.Covered kept.stack hook target bytes.length)
    (inv : Inv env.kernel (Rider.undoable region start kept) s)
    : Ends (hookedWrite env hook target bytes)
        (fun _ t => Inv env.kernel (Rider.undoable region start kept) t)
        (InvExit env.kernel (Rider.undoable region start kept)) s := by
  have writes {t : Rt} (inv : Inv env.kernel (Rider.undoable region start kept) t)
      (has
        : ∀ b,
            ¬kept.Free region b → Within target bytes.length b → t.log.Has (wordOf b))
      : Ends (programWrite env.kernel target bytes)
          (fun _ t => Inv env.kernel (Rider.undoable region start kept) t)
          (InvExit env.kernel (Rider.undoable region start kept)) t := by
    by_cases writable
        : ∀ i : Fin bytes.length, env.kernel.writable (target + BitVec.ofNat 64 i) = true
    · refine programWrite_keeps inv placed (fun b bound => ?_)
      by_cases within : Within target bytes.length b
      · refine Or.inr ⟨has b bound within, ?_⟩
        have byte := writable ⟨(b - target).toNat, within⟩
        rw [BitVec.ofNat_toNat, BitVec.setWidth_eq, BitVec.add_comm,
          BitVec.sub_add_cancel] at byte
        exact byte
      · exact Or.inl (writeBytes_outside within)
    · rw [programWrite, if_neg writable, ends_throw]
      refine ⟨inv.consistent, by simp, fun _ _ => ⟨inv.coherent, ?_, fun _ => inv.holds⟩,
        fun final => final.elim⟩
      exact fun _ _ => inv.holds
  have needed {b : Address} (bound : ¬kept.Free region b) (within : Within target bytes.length b)
      : ∃ found, hook = some found ∧ WriteHook.Covers env.kernel target (wordOf b) found := by
    refine covered b ?_ (fun inFrame => bound (Or.inl inFrame)) within
    exact not_not.mp (fun outside => bound (Or.inr outside))
  cases hook with
  | none =>
      refine writes inv (fun b bound within => ?_)
      obtain ⟨_, none, _⟩ := needed bound within
      contradiction
  | some hook =>
      rw [hookedWrite]
      refine Ends.bind (hook.run_covers spares inv inv.holds.inSpec) ?_
      rintro _ t ⟨inv, covers⟩
      refine writes inv (fun b bound within => covers _ ?_)
      obtain ⟨_, same, found⟩ := needed bound within
      obtain rfl := Option.some.inj same
      exact found

/-- So does a select. -/
theorem branchSelect_undoable {kernel : Kernel} {region : Region kernel} {start : Memory}
    {kept : Kept} {condition : Condition} (inv : Inv kernel (Rider.undoable region start kept) s)
    : Ends (branchSelect kernel condition)
        (fun _ t => Inv kernel (Rider.undoable region start kept) t) (fun _ _ => False) s := by
  rw [branchSelect, ends_bind, ends_get, ends_bind, ends_modify, ends_pure]
  refine ⟨?_, inv.consistent.congr rfl, inv.holds.written (fun b bound => Or.inl ?_)⟩
  · exact inv.coherent.congr rfl rfl rfl rfl rfl (fun _ _ => select_flag s.mem _)
  · exact region.agree_select s.mem b (not_not.mp (fun outside => bound (Or.inr outside)))

end

end Kasper
