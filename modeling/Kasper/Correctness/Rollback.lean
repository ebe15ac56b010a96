import Kasper.Correctness.Restart
import Kasper.Correctness.WriteLog

/-! A rollback gives back the memory of the checkpoint.
`Recoverable` says that the write log and the saved stack frame still hold everything that
changed; `kspecem_restart` turns it into `Restored`.
-/

namespace Kasper

open ByteMemory Exits UndoLog

/-- In speculation, with everything that changed since `start` in the log or in the saved
frame, words in `skips` apart.
-/
structure Recoverable (kernel : Kernel) (skips : Address → Prop) (start : Memory) (s : Rt)
    : Prop where
  inSpec : s.inSpeculativeEmulation = true
  enabled : s.log.enabled = true
  shallow : s.specCallDepth = 0
  sound
    : LogSound kernel (fun b => s.stack.Holds b ∨ skips (wordOf b)) start s.log s.mem
        s.log.position
  fits : s.stack.len.toNat ≤ s.stack.stack.size
  saved
    : ∀ b,
        s.stack.Holds b
        → s.stack.stack.cell (b - (s.stack.baseAddress - s.stack.len)).toNat = start b

/-- Memory is `start` again, the swap flag and the skipped words outside the frame apart. -/
def Restored (kernel : Kernel) (skips : Address → Prop) (start : Memory) (t : Rt) : Prop :=
  ∀ b,
    b ≠ kernel.swapBranchCondition
    → t.stack.Holds b ∨ ¬skips (wordOf b)
    → t.mem b = start b

theorem Restored.mono {kernel : Kernel} {skips wider : Address → Prop} {start : Memory}
    {t : Rt} (h : Restored kernel skips start t) (wide : ∀ w, skips w → wider w)
    : Restored kernel wider start t :=
  fun b other kept => h b other (kept.imp_right (fun bound skip => bound (wide _ skip)))

/-- How a restart of a recoverable state can leave its function. -/
def RestartExit (kernel : Kernel) (skips : Address → Prop) (start : Memory) (e : Exit)
    (t : Rt)
    : Prop :=
  match e with
  | .resumed | .panicked _ | .stackOverflow => Restored kernel skips start t
  | .fault _ => Recoverable kernel skips start t
  | .outOfBounds table =>
      table.OfStatistics ∨ (Exit.outOfBounds table).OfReports ∧ Restored kernel skips start t
  | .diverged => False

/-- Bytes of one word lie on one page. -/
theorem writable_of_wordOf {kernel : Kernel} {a b : Address} (same : wordOf a = wordOf b)
    : kernel.writable a = kernel.writable b := by
  have rounded := congrArg BitVec.toNat same
  rw [toNat_wordOf, toNat_wordOf] at rounded
  have page : a.toNat / pageSize = b.toNat / pageSize := by
    unfold pageSize
    omega
  rw [Kernel.writable, Kernel.writable, page]

/-- The bytes of an aligned word can be written all together or not at all. -/
theorem writableWord_iff {kernel : Kernel} {w : Address} (aligned : wordOf w = w)
    {a : Address} (inWord : wordOf a = w)
    : kernel.WritableWord w ↔ kernel.writable a = true := by
  have byte (i : Fin 8) : kernel.writable (w + BitVec.ofNat 64 i) = kernel.writable a := by
    apply writable_of_wordOf
    rw [inWord, ← within_word_iff aligned, Within, BitVec.toNat_sub, BitVec.toNat_add,
      BitVec.toNat_ofNat]
    omega
  constructor
  · intro word
    rw [← byte 0]
    exact word 0
  · intro writable i
    rw [byte i]
    exact writable

/-- A sound log stays sound while the replay takes its entries back. -/
theorem LogSound.rules {kernel : Kernel} {free : Address → Prop} {start : Memory}
    {log : WriteLog} {skip : Address → Bool}
    (spare : ∀ b, skip (wordOf b) = true → free b)
    : ReplayRules kernel skip log (fun n mem => LogSound kernel free start log mem n) where
  skipped := by
    intro n mem sound skips
    exact sound.skip (fun b same => spare b (same ▸ skips))
  replayed := by
    intro n mem sound _ writable
    have aligned := sound.aligned n (Nat.lt_succ_self n)
    exact sound.replay (fun b same => (writableWord_iff aligned same).mp writable)
  blocked := by
    intro n mem sound blocked
    have aligned := sound.aligned n (Nat.lt_succ_self n)
    refine sound.blocked (fun b same => ?_)
    rw [← Bool.not_eq_true, ← writableWord_iff aligned same]
    exact blocked

theorem flag_byte {kernel : Kernel} {b : Address} (other : b ≠ kernel.swapBranchCondition)
    (mem : Memory) (value : Byte)
    : writeBytes mem kernel.swapBranchCondition [value] b = mem b := by
  apply writeBytes_outside
  intro within
  apply other
  have zero : (b - kernel.swapBranchCondition).toNat = 0 := Nat.lt_one_iff.mp within
  rw [BitVec.toNat_sub] at zero
  apply BitVec.eq_of_toNat_eq
  omega

/-- The words a restart called with these arguments leaves alone. -/
def restartSkips (env : Env) (direct : Bool) (frameaddr regs w : Address) : Bool :=
  skipped env.frames.rsp (if direct then env.frames.restart else frameaddr + 0x8) regs w

theorem Recoverable.mono {kernel : Kernel} {skips wider : Address → Prop} {start : Memory}
    {s : Rt} (h : Recoverable kernel skips start s) (wide : ∀ w, skips w → wider w)
    : Recoverable kernel wider start s :=
  { h with sound := h.sound.mono (fun b free => free.imp_right (wide (wordOf b))) }

theorem RestartExit.mono {kernel : Kernel} {skips wider : Address → Prop} {start : Memory}
    {e : Exit} {t : Rt} (h : RestartExit kernel skips start e t)
    (wide : ∀ w, skips w → wider w)
    : RestartExit kernel wider start e t := by
  have restored (h : Restored kernel skips start t) : Restored kernel wider start t :=
    h.mono wide
  cases e with
  | resumed => exact restored h
  | panicked reason => exact restored h
  | fault isWrite => exact Recoverable.mono h wide
  | outOfBounds table => exact Or.imp_right (And.imp_right restored) h
  | stackOverflow => exact restored h
  | diverged => exact h

section
variable {env : Env} {onFail : SpecAssert → RtM Unit} {skips wider : Address → Prop}
  {start : Memory} {s base : Rt}

theorem Recoverable.replaying (h : Recoverable env.kernel skips start base) {k : Nat} {u : Rt}
    (replaying
      : Replaying
          (fun n mem =>
            LogSound env.kernel (fun b => base.stack.Holds b ∨ wider (wordOf b)) start base.log
              mem n) base k u)
    : Recoverable env.kernel wider start u := by
  have sound := replaying.mem
  rw [replaying.frame]
  exact {
    inSpec := h.inSpec
    enabled := h.enabled
    shallow := h.shallow
    sound :=
      sound.congr (sound.allocated.congr ⟨rfl, rfl⟩ ⟨rfl, rfl⟩ rfl) (fun _ _ => rfl)
        (fun _ _ => rfl)
    fits := h.fits
    saved := h.saved
  }

/-- Once the log is replayed, copying the stack back restores the rest. -/
theorem Recoverable.discarded (h : Recoverable env.kernel skips start base) {u : Rt}
    (replayed
      : Replaying
          (fun n mem =>
            LogSound env.kernel (fun b => base.stack.Holds b ∨ wider (wordOf b)) start base.log
              mem n) base 0 u)
    : Restored env.kernel wider start (u.discarded env.kernel) := by
  intro b other kept
  have stack : u.stack = base.stack := by rw [replayed.frame]
  have same : (u.discarded env.kernel).stack = base.stack := stack
  rw [same] at kept
  simp only [Rt.discarded, StackLog.restored, stack]
  by_cases holds : base.stack.Holds b
  · rw [if_pos holds]
    exact h.saved b holds
  · rw [if_neg holds, flag_byte other]
    refine replayed.mem.restored b (fun free => ?_)
    rcases free with inFrame | skip
    · exact holds inFrame
    · exact (kept.resolve_left holds) skip

/-- A restart of a recoverable state restores memory on every way out of the rollback. -/
theorem restart_recovers {direct : Bool} {restartType : RestartType}
    {callArg frameaddr regs : Address} (h : Recoverable env.kernel skips start s)
    (wide : ∀ w, skips w → wider w)
    (range : ∀ w, restartSkips env direct frameaddr regs w = true → wider w)
    (quiet : FailsQuietly False onFail)
    (loud : FailsLoudly onFail)
    : Ends (restart env onFail direct restartType callArg frameaddr regs)
        (fun r t => direct = false ∧ r = 0 ∧ Restored env.kernel wider start t)
        (RestartExit env.kernel wider start) s := by
  refine restart_ends ?_ ?_ ?_ ?_
  · intro idle
    rw [h.inSpec] at idle
    contradiction
  · intro _ e t ⟨⟨table, ours, exit⟩, _⟩
    subst exit
    exact Or.inl ours
  · intro _ nested _
    have deep := nested.2.2
    rw [h.shallow] at deep
    exact absurd deep (by decide)
  intro _ _ stats
  have base : Recoverable env.kernel skips start { s with isInRestart := true, stats } :=
    ⟨h.inSpec, h.enabled, h.shallow, h.sound, h.fits, h.saved⟩
  have sound := h.sound.mono (fun b free => free.imp_right (wide (wordOf b)))
  have allocated := sound.allocated
  refine rollBack_ends quiet h.enabled h.inSpec rfl
    (LogSound.rules (fun b skip => Or.inr (range _ skip))) (allocated.addrsSize ▸ sound.room)
    (allocated.dataSize ▸ sound.room) sound ?_ ?_ ?_ ?_
  -- cut short by a fault the log still covers what was written since the checkpoint
  · rintro e u (⟨rfl, k, _, replaying⟩ | ⟨deep, _⟩)
    · exact base.replaying replaying
    · exact deep.elim
  · intro u replayed _
    have restored := base.discarded replayed
    -- after the replay only reports, registers and the section variables change
    have kept {t : Rt} (stack : t.stack = u.stack) (mem : t.mem = (u.discarded env.kernel).mem)
        : Restored env.kernel wider start t := by
      intro b other
      rw [stack, mem]
      exact restored b other
    refine finishRestart_ends loud rfl ?_ ?_ ?_
    · intro e t ⟨ours, frame, _, _⟩
      have restored := kept (t := t) (by rw [frame]; rfl) (by rw [frame])
      match e, ours with
      | .panicked _, _ => exact restored
      | .outOfBounds .bugs, ours => exact Or.inr ⟨ours, restored⟩
      | .outOfBounds .previousBugsMap, ours => exact Or.inr ⟨ours, restored⟩
      | .outOfBounds .previousBugsBlock, ours => exact Or.inr ⟨ours, restored⟩
      | .stackOverflow, _ => exact restored
    · intro indirect _ t landed
      exact ⟨indirect, rfl, kept (by rw [landed.frame]; rfl) (by rw [landed.frame])⟩
    · intro _ _ t landed
      exact kept (by rw [landed.frame]; rfl) (by rw [landed.frame]; rfl)
  · intro u reason replayed _ _
    exact base.discarded replayed
  · intro u _ _ overflow
    exact absurd h.fits overflow

end

end Kasper
