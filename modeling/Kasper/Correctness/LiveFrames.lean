import Kasper.Correctness.StateMachine

/-! Which words a replay leaves alone, and what it puts into the others.
The replay spares the words above its own stack pointer up to the frame it returns to, and
the interrupted registers; the word its stack pointer points at is replayed like any other.
-/

namespace Kasper

open ByteMemory Exits

/-- A byte of the stack frames live during the replay, or of the interrupted registers. -/
def Live (rsp frameaddr regs b : Address) : Prop :=
  (rsp ≤ wordOf b ∧ wordOf b ≤ frameaddr) ∨ (regs ≠ 0 ∧ Within regs sizeofPtregs b)

/-- A live word that the replay does not skip: the one at the stack pointer, or a register
slot where the end of `struct pt_regs` is past the last address.
-/
def Exposed (rsp frameaddr regs w : Address) : Prop :=
  skipped rsp frameaddr regs w = false
  ∧ (w = rsp
    ∨ (regs ≠ 0 ∧ Within regs sizeofPtregs w ∧ 2 ^ 64 ≤ regs.toNat + sizeofPtregs))

section
variable {rsp frameaddr regs b w : Address}

theorem skipped_iff
    : skipped rsp frameaddr regs w = true
      ↔ (rsp < w ∧ w ≤ frameaddr)
        ∨ (regs ≠ 0 ∧ regs ≤ w ∧ w < regs + BitVec.ofNat 64 sizeofPtregs) := by
  simp only [skipped, Bool.or_eq_true, Bool.and_eq_true, decide_eq_true_eq, and_assoc]

/-- The registers are whole words. -/
theorem within_ptregs_word (aligned : wordOf regs = regs)
    : Within regs sizeofPtregs b ↔ Within regs sizeofPtregs (wordOf b) := by
  have base := congrArg BitVec.toNat aligned
  have bound := b.isLt
  rw [toNat_wordOf] at base
  rw [Within, Within, BitVec.toNat_sub, BitVec.toNat_sub, toNat_wordOf, sizeofPtregs]
  omega

/-- A skipped word is live. -/
theorem live_of_skipped (aligned : wordOf w = w)
    (skip : skipped rsp frameaddr regs w = true)
    : Live rsp frameaddr regs w := by
  rcases skipped_iff.mp skip with ⟨above, below⟩ | ⟨some_, low, high⟩
  · refine Or.inl ?_
    rw [aligned]
    exact ⟨BitVec.le_of_lt above, below⟩
  · refine Or.inr ⟨some_, ?_⟩
    rw [BitVec.le_def] at low
    rw [BitVec.lt_def, BitVec.toNat_add, BitVec.toNat_ofNat, sizeofPtregs] at high
    rw [Within, BitVec.toNat_sub, sizeofPtregs]
    omega

/-- The live words that are not skipped are exposed. -/
theorem exposed_of_live (alignedRegs : wordOf regs = regs)
    (live : Live rsp frameaddr regs b)
    (unskipped : skipped rsp frameaddr regs (wordOf b) = false)
    : Exposed rsp frameaddr regs (wordOf b) := by
  refine ⟨unskipped, ?_⟩
  rw [← Bool.not_eq_true, skipped_iff] at unskipped
  rcases live with ⟨low, high⟩ | ⟨some_, inside⟩
  · by_cases pointer : wordOf b = rsp
    · exact Or.inl pointer
    · refine absurd (Or.inl ⟨?_, high⟩) unskipped
      rw [BitVec.le_def] at low
      rw [BitVec.lt_def]
      have different : (wordOf b).toNat ≠ rsp.toNat :=
        fun same => pointer (BitVec.eq_of_toNat_eq same)
      omega
  · refine Or.inr ⟨some_, (within_ptregs_word alignedRegs).mp inside, ?_⟩
    by_contra fits
    refine unskipped (Or.inr ⟨some_, ?_⟩)
    have inside := (within_ptregs_word alignedRegs).mp inside
    rw [Within, BitVec.toNat_sub, sizeofPtregs] at inside
    rw [sizeofPtregs] at fits
    have bound := (wordOf b).isLt
    rw [BitVec.le_def, BitVec.lt_def, BitVec.toNat_add, BitVec.toNat_ofNat, sizeofPtregs]
    omega

/-- Every byte of an exposed word is live. -/
theorem live_of_exposed (above : rsp ≤ frameaddr) (alignedRegs : wordOf regs = regs)
    (exposed : Exposed rsp frameaddr regs (wordOf b))
    : Live rsp frameaddr regs b := by
  rcases exposed.2 with pointer | ⟨some_, inside, _⟩
  · refine Or.inl ?_
    rw [pointer]
    exact ⟨BitVec.le_refl _, above⟩
  · exact Or.inr ⟨some_, (within_ptregs_word alignedRegs).mpr inside⟩

end

/-- Among the entries from `n` on, the oldest one of the word keeps this value. -/
def WriteLog.Oldest (log : WriteLog) (n : Nat) (w : Address) (v : Word) : Prop :=
  ∃ i < log.position,
    n ≤ i
    ∧ log.addrs.cell i = w
    ∧ log.data.cell i = v
    ∧ ∀ j < i, n ≤ j → log.addrs.cell j ≠ w

/-- A word with an entry has an oldest one. -/
theorem WriteLog.exists_oldest {log : WriteLog} {n : Nat} {w : Address}
    (has : ∃ i < log.position, n ≤ i ∧ log.addrs.cell i = w)
    : ∃ v, log.Oldest n w v := by
  classical
  have first := Nat.find_spec has
  refine ⟨log.data.cell (Nat.find has), Nat.find has, first.1, first.2.1, first.2.2, rfl, ?_⟩
  intro j below later same
  exact Nat.find_min has below ⟨Nat.lt_trans below first.1, later, same⟩

/-- The memory of `s` after a replay of its entries from the newest down to entry `n`: each
word that was not skipped has the value of the oldest entry among them.
-/
structure Replayed (skips : Address → Bool) (s : Rt) (n : Nat) (mem : Memory) : Prop where
  untouched
    : ∀ b,
        (∀ i < s.log.position, n ≤ i → s.log.addrs.cell i = wordOf b → skips (wordOf b) = true)
        → mem b = s.mem b
  oldest : ∀ w v, s.log.Oldest n w v → skips w = false → readWord mem w = v

section
variable {skips : Address → Bool} {s : Rt} {n : Nat} {mem : Memory}

theorem Replayed.start (skips : Address → Bool) (s : Rt)
    : Replayed skips s s.log.position s.mem where
  untouched := fun _ _ => rfl
  oldest := by
    rintro w v ⟨i, below, above, _⟩
    exact absurd below (Nat.not_lt.mpr above)

/-- A skipped entry changes nothing. -/
theorem Replayed.skip (h : Replayed skips s (n + 1) mem)
    (skipped : skips (s.log.addrs.cell n) = true)
    : Replayed skips s n mem where
  untouched := by
    intro b spared
    exact h.untouched b (fun i below above => spared i below (Nat.le_of_succ_le above))
  oldest := by
    rintro w v ⟨i, below, above, rfl, rfl, first⟩ kept
    have different : n ≠ i := by
      rintro rfl
      rw [skipped] at kept
      contradiction
    refine h.oldest _ _ ⟨i, below, by omega, rfl, rfl, ?_⟩ kept
    exact fun j before later => first j before (Nat.le_of_succ_le later)

/-- A replayed entry is the oldest so far. -/
theorem Replayed.replay (h : Replayed skips s (n + 1) mem)
    (aligned : ∀ i < s.log.position, wordOf (s.log.addrs.cell i) = s.log.addrs.cell i)
    (bound : n < s.log.position) (spared : skips (s.log.addrs.cell n) = false)
    : Replayed skips s n (writeWord mem (s.log.addrs.cell n) (s.log.data.cell n)) where
  untouched := by
    intro b kept
    have outside : ¬Within (s.log.addrs.cell n) 8 b := by
      intro within
      have same := (within_word_iff (aligned n bound) b).mp within
      have skipped := kept n bound (Nat.le_refl n) same.symm
      rw [same, spared] at skipped
      contradiction
    rw [writeWord_outside outside]
    exact h.untouched b (fun i below above => kept i below (Nat.le_of_succ_le above))
  oldest := by
    rintro w v ⟨i, below, above, rfl, rfl, first⟩ kept
    rcases Nat.eq_or_lt_of_le above with rfl | later
    · exact readWord_writeWord _ _ _
    · have left := h.oldest _ _ ⟨i, below, later, rfl, rfl,
        fun j before after => first j before (Nat.le_of_succ_le after)⟩ kept
      rw [← left]
      refine readWord_congr (fun b inside => writeWord_outside fun within => ?_)
      have same := (within_word_iff (aligned n bound) b).mp within
      have own := (within_word_iff (aligned i below) b).mp inside
      exact first n later (Nat.le_refl n) (same.symm.trans own)

/-- A byte agrees with its word. -/
theorem byte_of_readWord {m m' : Memory} {b : Address}
    (same : readWord m (wordOf b) = readWord m' (wordOf b))
    : m b = m' b := by
  have distance : (b - wordOf b).toNat < 8 :=
    (within_word_iff (wordOf_wordOf b) b).mpr rfl
  have byte := congrArg (fun v => wordByte v (b - wordOf b).toNat) same
  rw [wordByte_readWord m _ distance, wordByte_readWord m' _ distance, BitVec.ofNat_toNat,
    BitVec.setWidth_eq, BitVec.add_comm, BitVec.sub_add_cancel] at byte
  exact byte

/-- Every exposed word with an entry among those from `n` on still has the value of the
oldest of them.
-/
def Harmless (rsp frameaddr regs : Address) (s : Rt) (n : Nat) : Prop :=
  ∀ w v, Exposed rsp frameaddr regs w → s.log.Oldest n w v → readWord s.mem w = v

variable {rsp frameaddr regs : Address}

/-- A replay leaves the live bytes unchanged exactly where it was harmless. -/
theorem Replayed.live_iff (h : Replayed (skipped rsp frameaddr regs) s n mem)
    (aligned : ∀ i < s.log.position, wordOf (s.log.addrs.cell i) = s.log.addrs.cell i)
    (above : rsp ≤ frameaddr) (alignedRegs : wordOf regs = regs)
    : (∀ b, Live rsp frameaddr regs b → mem b = s.mem b)
      ↔ Harmless rsp frameaddr regs s n := by
  constructor
  · intro unchanged w v exposed oldest
    rw [← h.oldest w v oldest exposed.1]
    obtain ⟨i, below, _, rfl, _⟩ := oldest
    refine readWord_congr (fun b inside => (unchanged b ?_).symm)
    have own := (within_word_iff (aligned i below) b).mp inside
    exact live_of_exposed above alignedRegs (own ▸ exposed)
  · intro harmless b live
    by_cases skip : skipped rsp frameaddr regs (wordOf b) = true
    · exact h.untouched b (fun _ _ _ _ => skip)
    · by_cases has : ∃ i < s.log.position, n ≤ i ∧ s.log.addrs.cell i = wordOf b
      · obtain ⟨v, oldest⟩ := WriteLog.exists_oldest has
        rw [Bool.not_eq_true] at skip
        have exposed := exposed_of_live alignedRegs live skip
        apply byte_of_readWord
        rw [h.oldest _ v oldest skip, harmless _ v exposed oldest]
      · exact h.untouched b (fun i below later key => absurd ⟨i, below, later, key⟩ has)

/-- What a replay does word by word, and how it stops at a word that cannot be written. -/
theorem replayed_steps {kernel : Kernel} (coherent : Coherent kernel s)
    : ReplaySteps kernel skips s.log
        (fun n mem => n ≤ s.log.position ∧ Replayed skips s n mem)
        (fun n mem => n < s.log.position ∧ Replayed skips s (n + 1) mem) where
  skipped := fun _ _ left skipped => ⟨Nat.le_of_succ_le left.1, left.2.skip skipped⟩
  replayed := fun _ _ left spared _ =>
    ⟨Nat.le_of_succ_le left.1, left.2.replay coherent.aligned left.1 spared⟩
  blocked := fun _ _ left _ _ => left

end

/-- In every reachable speculative state, a replay that returns has put back every logged
word that is not live, and has left the live bytes unchanged exactly if it was harmless. One
that stops at a word it cannot write has left them unchanged exactly if the entries replayed
so far were.
-/
theorem restoreWritelog_spares_iff {env : Env} {m : Machine} (reached : Reached env.kernel m)
    (alive : m.phase ≠ .stopped) (inSpec : m.rt.inSpeculativeEmulation = true)
    (stats : Statistics) {frameaddr regs : Address}
    (above : env.frames.rsp ≤ frameaddr) (alignedRegs : wordOf regs = regs)
    : Ends (restoreWritelog env env.onFail frameaddr regs)
        (fun r t =>
          r = 0
          ∧ (∀ w v,
              m.rt.log.Oldest 0 w v →
              ¬Live env.frames.rsp frameaddr regs w →
              readWord t.mem w = v)
          ∧ ((∀ b, Live env.frames.rsp frameaddr regs b → t.mem b = m.rt.mem b)
            ↔ Harmless env.frames.rsp frameaddr regs m.rt 0))
        (fun e t =>
          e = .fault true
          ∧ ((∀ b, Live env.frames.rsp frameaddr regs b → t.mem b = m.rt.mem b)
            ↔ Harmless env.frames.rsp frameaddr regs m.rt (t.log.position + 1)))
        (m.rt.restarting stats) := by
  have coherent := reached.inv.coherent alive
  have aligned := coherent.aligned
  have quiet := kspecemPanic_quiet env env.kernel.panicDepth_pos
  have steps :=
    @replayed_steps (skipped env.frames.rsp frameaddr regs) m.rt env.kernel coherent
  have restarts : (m.rt.restarting stats).isInRestart = true := rfl
  refine (restoreWritelog_ends quiet (by exact inSpec) restarts steps ?_ ?_
    ⟨Nat.le_refl _, .start _ m.rt⟩).imp ?_ ?_
  · exact coherent.allocated.addrsSize ▸ coherent.room
  · exact coherent.allocated.dataSize ▸ coherent.room
  · intro r t done
    obtain ⟨zero, replaying⟩ := done
    obtain ⟨_, replayed⟩ := replaying.mem
    refine ⟨zero, ?_, replayed.live_iff aligned above alignedRegs⟩
    intro w v oldest dead
    -- a logged word that the replay skips is live, so a dead one is written back
    refine replayed.oldest w v oldest ?_
    rw [← Bool.not_eq_true]
    obtain ⟨i, below, _, rfl, _⟩ := oldest
    exact fun skip => dead (live_of_skipped (aligned i below) skip)
  · intro e t exit
    rcases exit with ⟨fault, k, _, replaying⟩ | ⟨no, _⟩
    · obtain ⟨_, replayed⟩ := replaying.mem
      have position : t.log.position = k := by rw [replaying.frame]
      rw [position]
      exact ⟨fault, replayed.live_iff aligned above alignedRegs⟩
    · exact no.elim

/-- The open episode after a callee stored at `0x70000`, where the replay's stack pointer
will point.
-/
def sampleCallee : Machine :=
  machineAfter [sampleEvent (.store 0x70000), sampleEvent (.write 0x70000 [1])] sampleOpen

theorem sampleCallee_reached : Reached sampleKernel sampleCallee := by
  refine (sampleOpen_reached.after (sampleEvent (.store 0x70000)) True.intro ?_).after
    (sampleEvent (.write 0x70000 [1])) ?_ ?_
  · decide
  · have far : ([1] : List Byte)[(sampleKernel.swapBranchCondition - 0x70000).toNat]? = none := by
      decide
    intro byte found
    exact absurd (far.symm.trans found) nofun
  · decide

theorem restoreWritelog_spares_iff_sample
    : Ends (restoreWritelog sampleEnv sampleEnv.onFail 0x70040 0)
        (fun r t =>
          r = 0
          ∧ (∀ w v,
              sampleCallee.rt.log.Oldest 0 w v →
              ¬Live 0x70000 0x70040 0 w →
              readWord t.mem w = v)
          ∧ ((∀ b, Live 0x70000 0x70040 0 b → t.mem b = sampleCallee.rt.mem b)
            ↔ Harmless 0x70000 0x70040 0 sampleCallee.rt 0))
        (fun e t =>
          e = .fault true
          ∧ ((∀ b, Live 0x70000 0x70040 0 b → t.mem b = sampleCallee.rt.mem b)
            ↔ Harmless 0x70000 0x70040 0 sampleCallee.rt (t.log.position + 1)))
        (sampleCallee.rt.restarting sampleCallee.rt.stats) :=
  @restoreWritelog_spares_iff sampleEnv sampleCallee sampleCallee_reached (by decide) rfl _
    0x70040 0 (by decide) (by decide)

/-- The state after the replay of that episode. -/
def sampleReplayed : Rt :=
  endState (restoreWritelog sampleEnv sampleEnv.onFail 0x70040 0)
    (sampleCallee.rt.restarting sampleCallee.rt.stats)

/-- The replay overwrites the word its own stack pointer points at. -/
theorem restoreWritelog_overwrites_top
    : Reached sampleKernel sampleCallee
      ∧ sampleCallee.phase = .running
      ∧ sampleEnv.frames.rsp = 0x70000
      ∧ restoreWritelog sampleEnv sampleEnv.onFail 0x70040 0
          (sampleCallee.rt.restarting sampleCallee.rt.stats)
        = .ok 0 sampleReplayed
      ∧ Live 0x70000 0x70040 0 0x70000
      ∧ sampleReplayed.mem 0x70000 ≠ sampleCallee.rt.mem 0x70000 := by
  refine ⟨sampleCallee_reached, by decide, rfl, rfl, Or.inl (by decide), ?_⟩
  decide

end Kasper
