import Kasper.Correctness.Bookkeeping

/-! The replay of the write log, for any reading of memory its rules keep.
A rollback replays the log, resets the speculation variables and copies the stack back.
-/

namespace Kasper

open ByteMemory Exits

/-- The assertions of `kspecem_restore_writelog`. -/
def SpecAssert.OfReplay (failed : SpecAssert) : Prop :=
  failed.file = "kspecem_undolog.c" ∧ 125 ≤ failed.line

/-- What a replay keeps true of the memory while `n` entries are left. -/
structure ReplayRules (kernel : Kernel) (skip : Address → Bool) (log : WriteLog)
    (P : Nat → Memory → Prop)
    : Prop where
  skipped : ∀ n mem, P (n + 1) mem → skip (log.addrs.cell n) = true → P n mem
  replayed
    : ∀ n mem,
        P (n + 1) mem
        → skip (log.addrs.cell n) = false
        → kernel.WritableWord (log.addrs.cell n)
        → P n (writeWord mem (log.addrs.cell n) (log.data.cell n))
  blocked
    : ∀ n mem, P (n + 1) mem → ¬kernel.WritableWord (log.addrs.cell n) → P n mem

theorem ReplayRules.vacuous (kernel : Kernel) (skip : Address → Bool) (s : Rt)
    : ReplayRules kernel skip s.log fun _ _ => True :=
  ⟨fun _ _ _ _ => True.intro, fun _ _ _ _ _ => True.intro, fun _ _ _ _ => True.intro⟩

/-- The same with a reading `B` of the memory at a word that cannot be written. -/
structure ReplaySteps (kernel : Kernel) (skip : Address → Bool) (log : WriteLog)
    (P B : Nat → Memory → Prop)
    : Prop where
  skipped : ∀ n mem, P (n + 1) mem → skip (log.addrs.cell n) = true → P n mem
  replayed
    : ∀ n mem,
        P (n + 1) mem
        → skip (log.addrs.cell n) = false
        → kernel.WritableWord (log.addrs.cell n)
        → P n (writeWord mem (log.addrs.cell n) (log.data.cell n))
  blocked
    : ∀ n mem,
        P (n + 1) mem
        → skip (log.addrs.cell n) = false
        → ¬kernel.WritableWord (log.addrs.cell n)
        → B n mem

theorem ReplayRules.steps {kernel : Kernel} {skip : Address → Bool} {log : WriteLog}
    {P : Nat → Memory → Prop} (rules : ReplayRules kernel skip log P)
    : ReplaySteps kernel skip log P P :=
  ⟨rules.skipped, rules.replayed, fun n mem left _ blocked => rules.blocked n mem left blocked⟩

/-- `t` is `base` with `n` entries left to replay and failures recorded on the way. -/
structure Replaying (P : Nat → Memory → Prop) (base : Rt) (n : Nat) (t : Rt) : Prop where
  frame
    : t
      = { base with
          log := { base.log with position := n }
          mem := t.mem
          specAssert := t.specAssert
          asserted := t.asserted }
  mem : P n t.mem
  failures : ∀ failed ∈ t.asserted, failed ∈ base.asserted ∨ failed.OfReplay
  kept : t.specAssert = none → base.specAssert = none ∧ t.asserted = base.asserted

namespace Replaying

variable {P : Nat → Memory → Prop} {base t : Rt} {n : Nat}

theorem start (position : base.log.position = n) (mem : P n base.mem)
    : Replaying P base n base where
  frame := by subst position; rfl
  mem := mem
  failures := fun _ member => Or.inl member
  kept := fun passed => ⟨passed, rfl⟩

theorem recordFailure (h : Replaying P base n t) {failed : SpecAssert}
    (ofReplay : failed.OfReplay)
    : Replaying P base n (t.recordFailure failed) where
  frame := by
    have frame := h.frame
    cases t
    simp_all [Rt.recordFailure]
  mem := h.mem
  failures := by
    intro other member
    rcases List.mem_cons.mp member with rfl | older
    · exact Or.inr ofReplay
    · exact h.failures other older
  kept := fun none => by simp [Rt.recordFailure] at none

/-- Counting an entry off leaves its word to decide on. -/
theorem next (h : Replaying P base (n + 1) t)
    : Replaying (fun _ => P (n + 1)) base n { t with log := { t.log with position := n } } where
  frame := by
    have frame := h.frame
    cases t
    simp_all
  mem := h.mem
  failures := h.failures
  kept := h.kept

theorem done {left : Memory → Prop} (h : Replaying (fun _ => left) base n t) {mem : Memory}
    (decided : left t.mem → P n mem)
    : Replaying P base n { t with mem } where
  frame := by
    have frame := h.frame
    cases t
    simp_all
  mem := decided h.mem
  failures := h.failures
  kept := h.kept

theorem inSpec (h : Replaying P base n t)
    : t.inSpeculativeEmulation = base.inSpeculativeEmulation := by
  rw [h.frame]

theorem inRestart (h : Replaying P base n t) : t.isInRestart = base.isInRestart := by
  rw [h.frame]

theorem reports (h : Replaying P base n t) : t.reports = base.reports := by
  rw [h.frame]

theorem imp {R : Nat → Memory → Prop} (h : Replaying P base n t)
    (weaker : P n t.mem → R n t.mem)
    : Replaying R base n t :=
  ⟨h.frame, weaker h.mem, h.failures, h.kept⟩

end Replaying

/-- How a replay of `base` can stop: at a word that cannot be written, or at a failed
assertion with the stack full.
-/
def ReplayExit (overflows : Prop) (P : Nat → Memory → Prop) (base : Rt) (e : Exit) (u : Rt)
    : Prop :=
  (e = .fault true ∧ ∃ k < base.log.position, Replaying P base k u)
  ∨ (overflows
    ∧ e = .stackOverflow
    ∧ u.reports = base.reports
    ∧ ∀ failed ∈ u.asserted, failed ∈ base.asserted ∨ failed.OfReplay)

section
variable {env : Env} {overflows : Prop} {onFail : SpecAssert → RtM Unit}
  {frameaddr regs : Address} {P B : Nat → Memory → Prop} {E : Exit → Rt → Prop} {base t : Rt}

/-- An assertion of the replay lets it go on. -/
theorem Replaying.ltAssert {R : Nat → Memory → Prop} {n : Nat} {holds : Prop}
    [Decidable holds] {condition : String} {line : Nat} (h : Replaying R base n t)
    (quiet : FailsQuietly overflows onFail)
    (speculates : base.inSpeculativeEmulation = true) (restarts : base.isInRestart = true)
    (ofReplay : 125 ≤ line)
    : Ends (ltAssert onFail holds "kspecem_undolog.c" line condition)
        (fun _ u => Replaying R base n u) (ReplayExit overflows P base) t :=
  quiet.ends_ltAssert (h.inSpec.trans speculates) (h.inRestart.trans restarts) h
    (h.recordFailure ⟨rfl, ofReplay⟩)
    (fun deep => Or.inr ⟨deep, rfl, h.reports, (h.recordFailure ⟨rfl, ofReplay⟩).failures⟩)

/-- The loop replays or skips every entry, or stops at one whose word cannot be written, by
induction on the entries left.
-/
theorem restoreLoop_ends (quiet : FailsQuietly overflows onFail)
    (speculates : base.inSpeculativeEmulation = true) (restarts : base.isInRestart = true)
    (rules
      : ReplaySteps env.kernel (skipped env.frames.rsp frameaddr regs) base.log P B)
    (addrsBound : base.log.position ≤ base.log.addrs.size)
    (dataBound : base.log.position ≤ base.log.data.size) {n : Nat}
    (bound : n ≤ base.log.position) (i : Nat) (start : Replaying P base n t)
    : Ends (restoreLoop env onFail frameaddr regs n i)
        (fun r u => r = some (i + n) ∧ Replaying P base 0 u) (ReplayExit overflows B base)
        t := by
  induction n generalizing i t with
  | zero => exact ⟨rfl, start⟩
  | succ n ih =>
      have earlier {u : Rt} (next : Replaying P base n u)
          : Ends (restoreLoop env onFail frameaddr regs n (i + 1))
              (fun r u => r = some (i + (n + 1)) ∧ Replaying P base 0 u)
              (ReplayExit overflows B base) u := by
        refine (ih (Nat.le_of_succ_le bound) (i + 1) next).imp ?_ (fun _ _ exit => exit)
        rintro r u ⟨rfl, replayed⟩
        exact ⟨by rw [Nat.add_right_comm, Nat.add_assoc], replayed⟩
      have counted := start.next
      rw [restoreLoop, ends_bind, ends_modify]
      generalize { t with log := { t.log with position := n } } = u at counted ⊢
      have addrs : u.log.addrs = base.log.addrs := by rw [counted.frame]
      rw [if_neg env.frames.addrSlot_ne]
      rw [ends_bind, ends_get, ends_bind, ends_fetch, addrs]
      refine ⟨fun _ => ?_, fun past => absurd (Nat.lt_of_lt_of_le bound addrsBound) past⟩
      generalize word : base.log.addrs.cell n = addr
      -- two kinds of entry are passed over: the live stack and the interrupt frame
      by_cases frame : env.frames.rsp < addr ∧ addr ≤ frameaddr
      · rw [if_pos frame]
        refine earlier (counted.done (fun left => rules.skipped n _ left ?_))
        simp [skipped, word, frame]
      rw [if_neg frame]
      refine Ends.bind (counted.ltAssert quiet speculates restarts (by decide))
        (fun _ u counted => ?_)
      by_cases interrupt : regs ≠ 0 ∧ addr ≥ regs ∧ addr < regs + BitVec.ofNat 64 sizeofPtregs
      · rw [if_pos interrupt]
        refine earlier (counted.done (fun left => rules.skipped n _ left ?_))
        simpa [skipped, word, interrupt.2] using Or.inr interrupt.1
      rw [if_neg interrupt, ends_bind, ends_get]
      -- a failed assertion is only recorded here: the replay is inside a restart
      refine Ends.bind (counted.ltAssert quiet speculates restarts (by decide))
        (fun _ u counted => ?_)
      refine Ends.bind (counted.ltAssert quiet speculates restarts (by decide))
        (fun _ u counted => ?_)
      refine Ends.bind (counted.ltAssert quiet speculates restarts (by decide))
        (fun _ u counted => ?_)
      have data : u.log.data = base.log.data := by rw [counted.frame]
      simp only [ends_bind, ends_get, ends_fetch, data]
      refine ⟨fun _ => ?_, fun past => absurd (Nat.lt_of_lt_of_le bound dataBound) past⟩
      have kept : skipped env.frames.rsp frameaddr regs (base.log.addrs.cell n) = false := by
        rw [word, skipped, Bool.or_eq_false_iff]
        refine ⟨?_, ?_⟩
        · simpa using frame
        · simpa using interrupt
      refine ends_storeWord (fun writable => ?_) (fun blocked => ?_)
      · have replayed := counted.done (P := P)
          (fun left => rules.replayed n _ left kept (word ▸ writable))
        rw [word] at replayed
        exact Ends.imp (replayed.ltAssert quiet speculates restarts (by decide))
          (fun _ _ replayed => earlier replayed) (fun _ _ exit => exit)
      · exact Or.inl ⟨rfl, n, bound,
          counted.done (fun left => rules.blocked n _ left kept (word ▸ blocked))⟩

/-- A replay reaches the empty log or stops. -/
theorem restoreWritelog_ends (quiet : FailsQuietly overflows onFail)
    (speculates : base.inSpeculativeEmulation = true) (restarts : base.isInRestart = true)
    (rules
      : ReplaySteps env.kernel (skipped env.frames.rsp frameaddr regs) base.log P B)
    (addrsBound : base.log.position ≤ base.log.addrs.size)
    (dataBound : base.log.position ≤ base.log.data.size)
    (start : P base.log.position base.mem)
    : Ends (restoreWritelog env onFail frameaddr regs)
        (fun r u => r = 0 ∧ Replaying P base 0 u) (ReplayExit overflows B base) base := by
  have started := Replaying.start rfl start
  rw [restoreWritelog, ends_bind, ends_get]
  refine Ends.bind (started.ltAssert quiet speculates restarts (by decide))
    (fun _ t started => ?_)
  refine Ends.bind (restoreLoop_ends quiet speculates restarts rules addrsBound dataBound
    (Nat.le_refl _) 0 started) ?_
  rintro r u ⟨rfl, replayed⟩
  refine Ends.bind (replayed.ltAssert quiet speculates restarts (by decide))
    (fun _ u replayed => ?_)
  rw [ends_bind, ends_get]
  refine Ends.bind (replayed.ltAssert quiet speculates restarts (by decide))
    (fun _ u replayed => ?_)
  exact ⟨rfl, replayed⟩

/-- A byte of the saved stack frame. -/
def StackLog.Holds (stack : StackLog) (b : Address) : Prop :=
  Within (stack.baseAddress - stack.len) stack.len.toNat b

instance (stack : StackLog) (b : Address) : Decidable (stack.Holds b) :=
  inferInstanceAs (Decidable (Within _ _ _))

/-- Memory after the saved stack frame was copied back. -/
def StackLog.restored (stack : StackLog) (mem : Memory) : Memory :=
  fun b =>
    if stack.Holds b then
      stack.stack.cell (b - (stack.baseAddress - stack.len)).toNat
    else mem b

/-- The state after a rollback reset the speculation variables and the stack. -/
def Rt.discarded (kernel : Kernel) (s : Rt) : Rt :=
  { s with
    log := { s.log with enabled := false }
    inSpeculativeEmulation := false
    mem := s.stack.restored (writeBytes s.mem kernel.swapBranchCondition [0])
    specCallDepth := 0
    callDepth := 0 }

/-- A rollback from `base` replays the log, then discards the episode and finishes. -/
theorem rollBack_ends {direct : Bool} {restartType : RestartType} {Q : Int → Rt → Prop}
    (quiet : FailsQuietly overflows onFail) (enabled : base.log.enabled = true)
    (speculates : base.inSpeculativeEmulation = true) (restarts : base.isInRestart = true)
    (rules
      : ReplayRules env.kernel
          (skipped env.frames.rsp (if direct then env.frames.restart else frameaddr + 0x8) regs)
          base.log P)
    (addrsBound : base.log.position ≤ base.log.addrs.size)
    (dataBound : base.log.position ≤ base.log.data.size)
    (start : P base.log.position base.mem)
    (stopped : ∀ e u, ReplayExit overflows P base e u → E e u)
    (finish
      : ∀ u,
          Replaying P base 0 u
          → base.stack.len.toNat ≤ base.stack.stack.size
          → Ends (finishRestart env onFail direct restartType) Q E (u.discarded env.kernel))
    (null
      : ∀ u reason,
          Replaying P base 0 u
          → base.stack.len.toNat ≤ base.stack.stack.size
          → base.stack.baseAddress - base.stack.len = 0
          → E (.panicked reason) (u.discarded env.kernel))
    (past
      : ∀ u v,
          Replaying P base 0 u
          → ¬base.stack.len.toNat ≤ base.stack.stack.size
          → v.asserted = u.asserted
          → v.reports = u.reports
          → E (.outOfBounds .wlStack) v)
    : Ends (rollBack env onFail direct restartType frameaddr regs) Q E base := by
  have replay :=
    restoreWritelog_ends quiet speculates restarts rules.steps addrsBound dataBound start
  rw [rollBack, ends_bind, ends_get, ends_bind]
  refine ends_ltAssert (fun _ => ?_) (fun disabled => absurd enabled disabled)
  rw [ends_bind]
  refine replay.imp ?_ ?_
  · rintro r u ⟨rfl, replayed⟩
    have stack : u.stack = base.stack := by rw [replayed.frame]
    rw [if_neg (by decide)]
    simp only [setSwapBranchCondition, copyFromStackLog, ends_bind, ends_get, ends_modify,
      ends_ite, ends_throw]
    refine ⟨fun fits => ⟨fun isNull => ?_, fun _ => ?_⟩, fun overflows => ?_⟩
    · exact null u _ replayed (stack ▸ fits) (stack ▸ isNull)
    · exact finish u replayed (stack ▸ fits)
    · exact past u _ replayed (stack ▸ overflows) rfl rfl
  · exact stopped

end

end Kasper
