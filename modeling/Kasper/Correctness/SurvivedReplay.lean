import Kasper.Correctness.LiveFrames
import Kasper.Correctness.StatisticsTables

/-! A restart of a rollback that earlier faults have cut short.
It goes on with the entries left: it finishes the rollback, or is cut short itself with fewer
of them.
-/

namespace Kasper

open ByteMemory Exits UndoLog

/-- Memory after the entries of `s` from the newest down to entry `n` were replayed where
their words can be written, words in `skips` apart: these hold the value of the oldest of
their entries, and nothing else has changed.
-/
structure Survived (kernel : Kernel) (skips : Address → Prop) (s : Rt) (n : Nat) (mem : Memory)
    : Prop where
  untouched
    : ∀ b,
        ¬skips (wordOf b)
        → (∀ i < s.log.position,
            n ≤ i → s.log.addrs.cell i = wordOf b → kernel.writable b = false)
        → mem b = s.mem b
  oldest
    : ∀ w v, s.log.Oldest n w v → ¬skips w → kernel.WritableWord w → readWord mem w = v

section
variable {kernel : Kernel} {skips : Address → Prop} {s : Rt} {n : Nat} {mem : Memory}

theorem Survived.start (kernel : Kernel) (skips : Address → Prop) (s : Rt)
    : Survived kernel skips s s.log.position s.mem where
  untouched := fun _ _ _ => rfl
  oldest := by
    rintro w v ⟨i, below, above, _⟩
    exact absurd below (Nat.not_lt.mpr above)

/-- An entry that is not replayed leaves memory to the entries above it. -/
theorem Survived.pass (h : Survived kernel skips s (n + 1) mem)
    (passed
      : skips (s.log.addrs.cell n) ∨ ¬kernel.WritableWord (s.log.addrs.cell n))
    : Survived kernel skips s n mem where
  untouched := by
    intro b kept blocked
    exact h.untouched b kept (fun i below above => blocked i below (Nat.le_of_succ_le above))
  oldest := by
    rintro w v ⟨i, below, above, rfl, rfl, first⟩ kept writable
    have different : n ≠ i := by
      rintro rfl
      rcases passed with skip | blocked
      · exact kept skip
      · exact blocked writable
    refine h.oldest _ _ ⟨i, below, by omega, rfl, rfl, ?_⟩ kept writable
    exact fun j before later => first j before (Nat.le_of_succ_le later)

/-- A replayed entry is the oldest so far. -/
theorem Survived.replay (h : Survived kernel skips s (n + 1) mem)
    (aligned : ∀ i < s.log.position, wordOf (s.log.addrs.cell i) = s.log.addrs.cell i)
    (bound : n < s.log.position) (writable : kernel.WritableWord (s.log.addrs.cell n))
    : Survived kernel skips s n (writeWord mem (s.log.addrs.cell n) (s.log.data.cell n)) where
  untouched := by
    intro b kept blocked
    have outside : ¬Within (s.log.addrs.cell n) 8 b := by
      intro within
      have same := (within_word_iff (aligned n bound) b).mp within
      have byte := (writableWord_iff (aligned n bound) same).mp writable
      exact absurd (byte.symm.trans (blocked n bound (Nat.le_refl n) same.symm)) (by decide)
    rw [writeWord_outside outside]
    exact h.untouched b kept (fun i below above => blocked i below (Nat.le_of_succ_le above))
  oldest := by
    rintro w v ⟨i, below, above, rfl, rfl, first⟩ kept writable
    rcases Nat.eq_or_lt_of_le above with rfl | later
    · exact readWord_writeWord _ _ _
    · have left := h.oldest _ _ ⟨i, below, later, rfl, rfl,
        fun j before after => first j before (Nat.le_of_succ_le after)⟩ kept writable
      rw [← left]
      refine readWord_congr (fun b inside => writeWord_outside fun within => ?_)
      have same := (within_word_iff (aligned n bound) b).mp within
      have own := (within_word_iff (aligned i below) b).mp inside
      exact first n later (Nat.le_refl n) (same.symm.trans own)

/-- Pushing an interrupt's frame changes skipped words only. -/
theorem Survived.pushed {regs : Address} {after : Memory} (h : Survived kernel skips s n mem)
    (aligned : ∀ i < s.log.position, wordOf (s.log.addrs.cell i) = s.log.addrs.cell i)
    (frame : FrameOnly regs mem after)
    (covered : ∀ b, Within regs sizeofPtregs b → skips (wordOf b))
    : Survived kernel skips s n after where
  untouched := by
    intro b kept blocked
    rw [frame b (fun within => kept (covered b within))]
    exact h.untouched b kept blocked
  oldest := by
    rintro w v ⟨i, below, above, rfl, rfl, first⟩ kept writable
    have left := h.oldest _ _ ⟨i, below, above, rfl, rfl, first⟩ kept writable
    rw [← left]
    refine readWord_congr (fun b inside => frame b fun within => kept ?_)
    rw [← (within_word_iff (aligned i below) b).mp inside]
    exact covered b within

/-- A restored word holds its bytes. -/
theorem Survived.byte {b w : Address} {v : Word} (h : Survived kernel skips s n mem)
    (oldest : s.log.Oldest n w v) (kept : ¬skips w) (writable : kernel.WritableWord w)
    (inWord : wordOf b = w)
    : mem b = wordByte v (b - w).toNat := by
  subst inWord
  have distance : (b - wordOf b).toNat < 8 := (within_word_iff (wordOf_wordOf b) b).mpr rfl
  rw [← h.oldest _ _ oldest kept writable, wordByte_readWord mem _ distance, BitVec.ofNat_toNat,
    BitVec.setWidth_eq, BitVec.add_comm, BitVec.sub_add_cancel]

/-- An unlogged byte is left alone. -/
theorem WriteLog.rollback_unlogged {log : WriteLog} {b : Address} (store : Memory)
    (unlogged : ∀ i < n, log.addrs.cell i ≠ wordOf b)
    : rollback wordOf (log.entries n) store b = store b := by
  induction n generalizing store with
  | zero => rfl
  | succ n ih =>
      rw [WriteLog.entries, rollback, ih _ (fun i below => unlogged i (Nat.lt_succ_of_lt below))]
      exact if_neg (fun same => unlogged n (Nat.lt_succ_self n) same.symm)

/-- The oldest entry of a word decides what a rollback of the first `n` entries leaves in it,
by induction on `n`.
-/
theorem WriteLog.rollback_oldest {log : WriteLog} {b : Address} {i : Nat} (store : Memory)
    (below : i < n) (key : log.addrs.cell i = wordOf b)
    (first : ∀ j < i, log.addrs.cell j ≠ wordOf b)
    : rollback wordOf (log.entries n) store b
      = wordByte (log.data.cell i) (b - wordOf b).toNat := by
  induction n generalizing store with
  | zero => exact absurd below (Nat.not_lt_zero i)
  | succ n ih =>
      rw [WriteLog.entries, rollback]
      rcases Nat.lt_succ_iff_lt_or_eq.mp below with earlier | rfl
      · exact ih _ earlier
      · rw [WriteLog.rollback_unlogged _ first, ← key]
        exact if_pos key.symm

/-- In a sound log the oldest entry of a word holds the checkpoint's bytes. -/
theorem LogSound.oldest {free : Address → Prop} {start : Memory}
    (h : LogSound kernel free start s.log s.mem s.log.position) {b : Address} {v : Word}
    (oldest : s.log.Oldest 0 (wordOf b) v) (bound : ¬free b)
    : start b = wordByte v (b - wordOf b).toNat := by
  obtain ⟨i, below, _, key, rfl, first⟩ := oldest
  rw [← h.undoes b bound]
  exact WriteLog.rollback_oldest s.mem below key (fun j before => first j before (Nat.zero_le j))

end

-----------------------------------------------------------------------------------------
-- A restart among faults
-----------------------------------------------------------------------------------------

/-- `t` is `s` in the middle of its rollback, with memory as the replay has left it. -/
structure Interrupted (kernel : Kernel) (skips : Address → Prop) (s t : Rt) : Prop where
  initDone : t.initDone = true
  inSpec : t.inSpeculativeEmulation = true
  log : t.log = { s.log with position := t.log.position, enabled := true }
  position : t.log.position ≤ s.log.position
  stack : t.stack = s.stack
  registers : t.registers = s.registers
  reports : t.reports = s.reports
  sized : t.stats.Sized
  survived : Survived kernel skips s t.log.position t.mem

/-- A rollback of `s` is over: the log is empty and speculation is off. The logged words that
can be written hold the value of their oldest entry, which is the checkpoint's in a sound
log, and what cannot be written has not changed, skipped words apart.
-/
structure RolledBack (kernel : Kernel) (skips : Address → Prop) (s t : Rt) : Prop where
  position : t.log.position = 0
  idle : t.inSpeculativeEmulation = false
  registers : t.registers = s.registers
  frame
    : ∀ b,
        s.stack.Holds b
        → t.mem b = s.stack.stack.cell (b - (s.stack.baseAddress - s.stack.len)).toNat
  restored
    : ∀ b v,
        s.log.Oldest 0 (wordOf b) v
        → ¬skips (wordOf b)
        → kernel.WritableWord (wordOf b)
        → ¬s.stack.Holds b
        → b ≠ kernel.swapBranchCondition
        → t.mem b = wordByte v (b - wordOf b).toNat
  checkpoint
    : ∀ (free : Address → Prop) (start : Memory),
        LogSound kernel free start s.log s.mem s.log.position
        → ∀ b,
            s.log.Has (wordOf b)
            → ¬free b
            → ¬skips (wordOf b)
            → kernel.WritableWord (wordOf b)
            → ¬s.stack.Holds b
            → b ≠ kernel.swapBranchCondition
            → t.mem b = start b
  readOnly
    : ∀ b,
        kernel.writable b = false
        → ¬skips (wordOf b)
        → ¬s.stack.Holds b
        → b ≠ kernel.swapBranchCondition
        → t.mem b = s.mem b

/-- What a restart of a state that can be rolled back needs. -/
structure Replayable (kernel : Kernel) (s : Rt) : Prop where
  coherent : Coherent kernel s
  inSpec : s.inSpeculativeEmulation = true
  fits : s.stack.len.toNat ≤ s.stack.stack.size
  sized : s.stats.Sized

/-- How a rollback of `s` that is over can leave: for the checkpoint's instruction, or for
good where an assertion had failed, a report was pending, or the saved frame was at null.
-/
def FinishExit (s : Rt) (e : Exit) (t : Rt) : Prop :=
  (e = .resumed ∧ t.cpu .rip = s.registers .rip)
  ∨ e.Final
    ∧ (t.specAssert ≠ none ∨ s.reports.nextBugIndex ≠ 0
      ∨ s.stack.baseAddress - s.stack.len = 0)

section
variable {env : Env} {skips : Address → Prop} {s t : Rt}

/-- Memory with `n` entries of `s` left in a replay that started in `t`: the words this replay
skips are those of `t`.
-/
structure ReplayLeft (kernel : Kernel) (skips : Address → Prop) (skip : Address → Bool)
    (s t : Rt) (n : Nat) (mem : Memory) : Prop where
  bound : n ≤ s.log.position
  survived : Survived kernel skips s n mem
  kept : ∀ b, skip (wordOf b) = true → mem b = t.mem b

theorem survived_rules {skip : Address → Bool} {log : WriteLog}
    (addrs : log.addrs = s.log.addrs) (data : log.data = s.log.data)
    (aligned : ∀ i < s.log.position, wordOf (s.log.addrs.cell i) = s.log.addrs.cell i)
    (range : ∀ w, skip w = true → skips w)
    : ReplayRules env.kernel skip log (ReplayLeft env.kernel skips skip s t) where
  skipped := by
    rintro n mem ⟨bound, survived, kept⟩ skipped
    rw [addrs] at skipped
    exact ⟨Nat.le_of_succ_le bound, survived.pass (Or.inl (range _ skipped)), kept⟩
  replayed := by
    rintro n mem ⟨bound, survived, kept⟩ spared writable
    rw [addrs] at spared writable ⊢
    rw [data]
    refine ⟨Nat.le_of_succ_le bound, survived.replay aligned bound writable, ?_⟩
    intro b skipped
    rw [← kept b skipped]
    refine writeWord_outside (fun within => ?_)
    rw [(within_word_iff (aligned n bound) b).mp within, spared] at skipped
    contradiction
  blocked := by
    rintro n mem ⟨bound, survived, kept⟩ blocked
    rw [addrs] at blocked
    exact ⟨Nat.le_of_succ_le bound, survived.pass (Or.inr blocked), kept⟩

/-- What a finished rollback has left. -/
theorem Survived.rolledBack {u : Rt} (mem : Survived env.kernel skips s 0 u.mem)
    (stack : u.stack = s.stack) (registers : u.registers = s.registers)
    (position : u.log.position = 0)
    : RolledBack env.kernel skips s (u.discarded env.kernel) where
  position := position
  idle := rfl
  registers := registers
  frame := by
    intro b holds
    simp only [Rt.discarded, StackLog.restored, stack, if_pos holds]
  restored := by
    intro b v oldest kept writable outside other
    simp only [Rt.discarded, StackLog.restored, stack, if_neg outside, flag_byte other]
    exact mem.byte oldest kept writable rfl
  checkpoint := by
    intro free start sound b has bound kept writable outside other
    obtain ⟨i, below, key⟩ := has
    obtain ⟨v, oldest⟩ := WriteLog.exists_oldest ⟨i, below, Nat.zero_le i, key⟩
    simp only [Rt.discarded, StackLog.restored, stack, if_neg outside, flag_byte other]
    rw [sound.oldest oldest bound]
    exact mem.byte oldest kept writable rfl
  readOnly := by
    intro b readOnly kept outside other
    simp only [Rt.discarded, StackLog.restored, stack, if_neg outside, flag_byte other]
    exact mem.untouched b kept (fun _ _ _ _ => readOnly)

/-- The end of a rollback leaves the log, the registers and memory as they are. -/
structure SameCheckpoint (v t : Rt) : Prop where
  position : t.log.position = v.log.position
  inSpec : t.inSpeculativeEmulation = v.inSpeculativeEmulation
  registers : t.registers = v.registers
  mem : t.mem = v.mem

theorem RolledBack.congr {kernel : Kernel} {v : Rt} (h : RolledBack kernel skips s v)
    (same : SameCheckpoint v t)
    : RolledBack kernel skips s t where
  position := same.position.trans h.position
  idle := same.inSpec.trans h.idle
  registers := same.registers.trans h.registers
  frame := same.mem ▸ h.frame
  restored := same.mem ▸ h.restored
  checkpoint := same.mem ▸ h.checkpoint
  readOnly := same.mem ▸ h.readOnly

theorem leaveRestart_finishes (direct : Bool) (v : Rt)
    : Ends (leaveRestart env direct)
        (fun _ t => direct = false ∧ SameCheckpoint v t)
        (fun e t =>
          ((e = .resumed ∧ t.cpu .rip = v.registers .rip) ∨ e.Final ∧ t.specAssert ≠ none)
          ∧ SameCheckpoint v t) v := by
  rw [leaveRestart, ends_bind, ends_get]
  cases failed : v.specAssert with
  | some failure =>
      refine ⟨Or.inr ⟨trivial, ?_⟩, rfl, rfl, rfl, rfl⟩
      rw [failed]
      exact Option.some_ne_none failure
  | none =>
      cases direct with
      | false => exact ⟨rfl, rfl, rfl, rfl, rfl⟩
      | true => exact ⟨Or.inl ⟨rfl, rfl⟩, rfl, rfl, rfl, rfl⟩

/-- A finished rollback goes on at the checkpoint unless an assertion had failed or a report
was pending.
-/
theorem finishRestart_finishes {direct : Bool} {restartType : RestartType} {v : Rt}
    {onFail : SpecAssert → RtM Unit} (loud : FailsLoudly onFail)
    (idle : v.inSpeculativeEmulation = false)
    : Ends (finishRestart env onFail direct restartType)
        (fun _ t => direct = false ∧ SameCheckpoint v t)
        (fun e t =>
          ((e = .resumed ∧ t.cpu .rip = v.registers .rip)
            ∨ e.Final ∧ (t.specAssert ≠ none ∨ v.reports.nextBugIndex ≠ 0))
          ∧ SameCheckpoint v t) v := by
  have leave (w : Rt) (same : SameCheckpoint v w)
      : Ends (leaveRestart env direct)
          (fun _ t => direct = false ∧ SameCheckpoint v t)
          (fun e t =>
            ((e = .resumed ∧ t.cpu .rip = v.registers .rip)
              ∨ e.Final ∧ (t.specAssert ≠ none ∨ v.reports.nextBugIndex ≠ 0))
            ∧ SameCheckpoint v t) w := by
    have trans {t : Rt} (later : SameCheckpoint w t) : SameCheckpoint v t :=
      ⟨later.position.trans same.position, later.inSpec.trans same.inSpec,
        later.registers.trans same.registers, later.mem.trans same.mem⟩
    refine (leaveRestart_finishes direct w).imp (fun _ _ left => ⟨left.1, trans left.2⟩) ?_
    rintro e t ⟨exit, later⟩
    refine ⟨?_, trans later⟩
    rcases exit with ⟨resumed, rip⟩ | ⟨final, failed⟩
    · exact Or.inl ⟨resumed, rip.trans (congrFun same.registers .rip)⟩
    · exact Or.inr ⟨final, Or.inl failed⟩
  rw [finishRestart, ends_bind, ends_modify, ends_ite]
  refine ⟨fun _ => ?_, fun _ => leave _ ⟨rfl, rfl, rfl, rfl⟩⟩
  by_cases none : v.reports.nextBugIndex = 0
  · rw [ends_bind, reportPrintAndClear, ends_bind, ends_get, ends_ite]
    exact ⟨fun _ => leave _ ⟨rfl, rfl, rfl, rfl⟩, fun some => absurd none some⟩
  · have idle : ({ v with isInRestart := false } : Rt).inSpeculativeEmulation = false := idle
    refine Ends.bind ((reportPrintAndClear_flushes loud idle restartType.code rfl).imp
      (fun _ _ flushed => flushed.1) ?_) ?_
    · intro e t flushed
      obtain ⟨ours, frame, _, _⟩ := flushed
      rw [frame]
      exact ⟨Or.inr ⟨ours.final, Or.inr none⟩, rfl, rfl, rfl, rfl⟩
    · intro _ t frame
      rw [frame]
      exact leave _ ⟨rfl, rfl, rfl, rfl⟩

/-- A replay that stopped at a word it could not write, with fewer entries left than `t`. -/
structure Cut (kernel : Kernel) (skips : Address → Prop) (s t u : Rt) : Prop where
  interrupted : Interrupted kernel skips s u
  fewer : u.log.position < t.log.position

/-- A rollback that came to its end; the words its replay skipped are those of `t`. -/
structure Finished (kernel : Kernel) (skips : Address → Prop) (skip : Address → Bool)
    (s t u : Rt) : Prop where
  rolledBack : RolledBack kernel skips s u
  kept
    : ∀ b,
        skip (wordOf b) = true
        → ¬s.stack.Holds b
        → b ≠ kernel.swapBranchCondition
        → u.mem b = t.mem b

/-- How a restart in `t`, on the way to roll `s` back, leaves its function. -/
def SurvivedExit (kernel : Kernel) (skips : Address → Prop) (skip : Address → Bool) (s t : Rt)
    (e : Exit) (u : Rt)
    : Prop :=
  e = .fault true ∧ Cut kernel skips s t u
  ∨ FinishExit s e u ∧ Finished kernel skips skip s t u

theorem Interrupted.cut {skip : Address → Bool} {stats : Statistics} {k : Nat} {u : Rt}
    (h : Interrupted env.kernel skips s t) (sized : stats.Sized)
    (replaying : Replaying (ReplayLeft env.kernel skips skip s t) (t.restarting stats) k u)
    (fewer : k < t.log.position)
    : Cut env.kernel skips s t u := by
  have left := replaying.mem
  have frame := replaying.frame
  have position : u.log.position = k := by rw [frame]
  refine ⟨?_, position.symm ▸ fewer⟩
  refine {
    initDone := ?_
    inSpec := ?_
    log := ?_
    position := position.symm ▸ left.bound
    stack := ?_
    registers := ?_
    reports := ?_
    sized := ?_
    survived := position.symm ▸ left.survived
  }
  · rw [frame]
    exact h.initDone
  · rw [frame]
    exact h.inSpec
  · rw [frame]
    simp only [Rt.restarting]
    rw [h.log]
  · rw [frame]
    exact h.stack
  · rw [frame]
    exact h.registers
  · rw [frame]
    exact h.reports
  · rw [frame]
    exact sized

theorem Interrupted.finished {skip : Address → Bool} {stats : Statistics} {u : Rt}
    (h : Interrupted env.kernel skips s t)
    (replayed : Replaying (ReplayLeft env.kernel skips skip s t) (t.restarting stats) 0 u)
    : Finished env.kernel skips skip s t (u.discarded env.kernel) := by
  have left := replayed.mem
  have stack : u.stack = s.stack := by
    rw [replayed.frame]
    exact h.stack
  have registers : u.registers = s.registers := by
    rw [replayed.frame]
    exact h.registers
  refine ⟨left.survived.rolledBack stack registers (by rw [replayed.frame]), ?_⟩
  intro b skipped outside other
  simp only [Rt.discarded, StackLog.restored, stack, if_neg outside, flag_byte other]
  exact left.kept b skipped

theorem Finished.congr {skip : Address → Bool} {v w : Rt}
    (h : Finished env.kernel skips skip s t v) (same : SameCheckpoint v w)
    : Finished env.kernel skips skip s t w :=
  ⟨h.rolledBack.congr same, same.mem ▸ h.kept⟩

/-- A restart replays what is left of the log, or is cut short with fewer entries left. -/
theorem restart_survives {onFail : SpecAssert → RtM Unit} {direct : Bool}
    {restartType : RestartType} {callArg frameaddr regs : Address}
    (replayable : Replayable env.kernel s) (cut : Interrupted env.kernel skips s t)
    (rolls : ¬NestedReturn restartType t)
    (range : ∀ w, restartSkips env direct frameaddr regs w = true → skips w)
    (quiet : FailsQuietly False onFail) (loud : FailsLoudly onFail)
    : Ends (restart env onFail direct restartType callArg frameaddr regs)
        (fun _ u =>
          direct = false
          ∧ Finished env.kernel skips (restartSkips env direct frameaddr regs) s t u)
        (SurvivedExit env.kernel skips (restartSkips env direct frameaddr regs) s t) t := by
  refine restart_rollsBack cut.sized cut.inSpec rolls (fun stats sized => ?_)
  have coherent := replayable.coherent
  have addrs : t.log.addrs = s.log.addrs := by rw [cut.log]
  have data : t.log.data = s.log.data := by rw [cut.log]
  have enabled : t.log.enabled = true := by rw [cut.log]
  have room : t.log.position ≤ logCapacity := Nat.le_trans cut.position coherent.room
  have addrsRoom : t.log.position ≤ t.log.addrs.size := by
    rw [addrs, coherent.allocated.addrsSize]
    exact room
  have dataRoom : t.log.position ≤ t.log.data.size := by
    rw [data, coherent.allocated.dataSize]
    exact room
  have enabled : (t.restarting stats).log.enabled = true := enabled
  refine rollBack_ends quiet enabled cut.inSpec rfl
    (survived_rules (t := t) addrs data coherent.aligned range) addrsRoom dataRoom
    ⟨cut.position, cut.survived, fun _ _ => rfl⟩ ?_ ?_ ?_ ?_
  -- a further fault: cut short again, further down the log
  · rintro e u (⟨rfl, k, fewer, replaying⟩ | ⟨deep, _⟩)
    · exact Or.inl ⟨rfl, cut.cut sized replaying fewer⟩
    · exact deep.elim
  · intro u replayed _
    have finished := cut.finished replayed
    refine (finishRestart_finishes loud rfl).imp ?_ ?_
    · exact fun _ v left => ⟨left.1, finished.congr left.2⟩
    · rintro e v ⟨exit, same⟩
      refine Or.inr ⟨?_, finished.congr same⟩
      rcases exit with ⟨resumed, rip⟩ | ⟨final, failed | pending⟩
      · exact Or.inl ⟨resumed, rip.trans (congrFun finished.rolledBack.registers .rip)⟩
      · exact Or.inr ⟨final, Or.inl failed⟩
      · have reports : u.reports = s.reports := by
          rw [replayed.frame]
          exact cut.reports
        exact Or.inr ⟨final, Or.inr (Or.inl (reports ▸ pending))⟩
  · intro u reason replayed _ null
    rw [show (t.restarting stats).stack = s.stack from cut.stack] at null
    exact Or.inr ⟨Or.inr ⟨trivial, Or.inr (Or.inr null)⟩, cut.finished replayed⟩
  · intro u v _ overflow
    rw [show (t.restarting stats).stack = s.stack from cut.stack] at overflow
    exact absurd replayable.fits overflow

end

end Kasper
