import Kasper.Correctness.FrameCounting
import Kasper.Correctness.LogEntries
import Kasper.Passes.WriteHooks

/-! Which words of an instrumented write are in the log before it, for every kind of
instruction, every size and every address.
-/

namespace Kasper

open ByteMemory Exits

/-- The log keeps the word with its contents in `mem`. -/
def WriteLog.Keeps (log : WriteLog) (mem : Memory) (w : Address) : Prop :=
  (w, readWord mem w) ∈ log.kept

/-- Every byte the instruction modifies lies in a word whose contents are in the log. -/
def Undoable (inst : WriteInst) (addr : Address) (t : Rt) : Prop :=
  ∀ b, Within addr inst.size b → t.log.Keeps t.mem (wordOf b)

/-- The range of a block instruction does not wrap. -/
def WriteInst.Fits (inst : WriteInst) (addr : Address) : Prop :=
  match inst with
  | .memIntrinsic length => addr.toNat + length.toNat ≤ 2 ^ 64
  | _ => True

/-- No hook before the instruction logs the word: the store hook logs the word of the
address, and the next one for an unaligned address, whatever the size; atomic operations
have no hook; and no hook logs the two words that are passed over.
-/
def Unhooked (kernel : Kernel) (inst : WriteInst) (addr w : Address) : Prop :=
  match inst with
  | .store _ => ¬SavedBy addr w ∨ kernel.PassesOver w
  | .memIntrinsic length => Missed kernel addr length w
  | .atomicRmw _ | .cmpxchg _ => True

theorem mem_contents {mem : Memory} {words : List Address} {w : Address} {v : Word}
    : (w, v) ∈ contents mem words ↔ w ∈ words ∧ v = readWord mem w := by
  simp only [contents, List.mem_map, Prod.mk.injEq]
  constructor
  · rintro ⟨_, member, rfl, rfl⟩
    exact ⟨member, rfl⟩
  · rintro ⟨member, rfl⟩
    exact ⟨w, member, rfl, rfl⟩

section
variable {env : Env} {s : Rt} {addr : Address}

/-- Words logged without a change of memory are kept, the others as far as they were. -/
theorem Fills.keeps_iff {words : List Address} {t : Rt} (filled : Fills env.kernel words s t)
    (w : Address)
    : t.log.Keeps t.mem w
      ↔ s.log.Keeps s.mem w ∨ (w ∈ words ∧ ¬env.kernel.PassesOver w) := by
  rw [WriteLog.Keeps, filled.kept, filled.mem, List.mem_append, mem_contents,
    Kernel.mem_recorded, WriteLog.Keeps]
  simp only [and_true]

/-- Adding to the counter changes no other aligned word. -/
theorem readWord_counted {kernel : Kernel} {delta : Word} {w : Address}
    (aligned : wordOf w = w) (other : w ≠ kernel.nmiCount)
    : readWord (s.counted kernel delta).mem w = readWord s.mem w := by
  refine readWord_congr (fun b within => ?_)
  refine writeWord_outside (fun inside => other ?_)
  rw [← (within_word_iff aligned b).mp within]
  exact (within_word_iff kernel.nmiCount_aligned b).mp inside

/-- The block hook keeps the words of its loop and the counter's. -/
theorem BlockFills.keeps_iff {size : Word} {t : Rt}
    (filled : BlockFills env.kernel addr size s t) {w : Address} (aligned : wordOf w = w)
    : t.log.Keeps t.mem w
      ↔ s.log.Keeps s.mem w
        ∨ w ∈ env.kernel.recorded
            (memcpyWords (addr + size) (memcpyRounds + 1) (alignDown 2 addr))
        ∨ w = env.kernel.nmiCount := by
  rw [WriteLog.Keeps, filled.kept, filled.mem]
  simp only [List.mem_append, mem_contents, List.mem_singleton, and_true]
  by_cases counter : w = env.kernel.nmiCount
  · simp [counter]
  · have same : readWord (s.counted env.kernel 1).mem w = readWord s.mem w :=
      readWord_counted aligned counter
    rw [WriteLog.Keeps, same]
    simp [counter]

/-- The words of a block that does not wrap are overlapped by it. -/
theorem overlapped_of_within {length : Word} {b : Address}
    (fits : addr.toNat + length.toNat ≤ 2 ^ 64) (within : Within addr length.toNat b)
    : Overlapped addr length (wordOf b) := by
  rw [Within, BitVec.toNat_sub] at within
  refine ⟨b, ?_, ?_, rfl⟩
  · rw [BitVec.le_def]
    omega
  · omega

end

/-- What is kept before the instruction was kept already or is logged by its hook. -/
theorem beforeWrite_keeps {env : Env} {s : Rt} {f : ListedFunction} {inst : WriteInst}
    {addr : Address} (speculating : Speculating env.kernel s)
    (visited : KSpecEm.visits f = true)
    (named : StringRef.startswith f.name "kspecem_" = false) (fits : inst.Fits addr)
    : Ends (beforeWrite env f inst addr)
        (fun _ t =>
          ∀ b,
            Within addr inst.size b
            → (t.log.Keeps t.mem (wordOf b)
              ↔ s.log.Keeps s.mem (wordOf b) ∨ ¬Unhooked env.kernel inst addr (wordOf b)))
        (fun _ _ => True) s := by
  rw [beforeWrite, if_pos visited]
  cases inst with
  | store size =>
      simp only [KSpecEmPassVisitor.visit, visitStoreInst, named]
      refine (hookStore_fills speculating addr).imp ?_ (fun _ _ _ => trivial)
      intro _ t filled b _
      rw [filled.keeps_iff, mem_savedWords, Unhooked, not_or, not_not]
  | memIntrinsic length =>
      simp only [KSpecEmPassVisitor.visit, visitMemIntrinsic, named]
      refine (hookMemcpy_fills speculating addr length).imp ?_ (fun _ _ _ => trivial)
      intro _ t filled b within
      have overlapped := overlapped_of_within fits within
      rw [filled.keeps_iff (wordOf_wordOf b), logged_iff_not_missed overlapped, Unhooked]
  | atomicRmw size =>
      intro b _
      simp only [Unhooked, not_true_eq_false, or_false]
  | cmpxchg size =>
      intro b _
      simp only [Unhooked, not_true_eq_false, or_false]

/-- In every reachable speculative state, for every visited function and every instruction
that writes memory itself, at every address: when its hook returns, every byte it modifies
can be undone exactly if the words no hook logs were kept before.
-/
theorem beforeWrite_undoable_iff {env : Env} {m : Machine} (reached : Reached env.kernel m)
    (running : m.phase = .running) (inSpec : m.rt.inSpeculativeEmulation = true)
    {f : ListedFunction} (visited : KSpecEm.visits f = true)
    (named : StringRef.startswith f.name "kspecem_" = false) (inst : WriteInst)
    (addr : Address) (fits : inst.Fits addr)
    : Ends (beforeWrite env f inst addr)
        (fun _ t =>
          Undoable inst addr t
          ↔ ∀ b,
              Within addr inst.size b
              → Unhooked env.kernel inst addr (wordOf b)
              → m.rt.log.Keeps m.rt.mem (wordOf b))
        (fun _ _ => True) m.rt := by
  have speculating : Speculating env.kernel m.rt := ⟨reached.inv.running running, inSpec⟩
  refine (beforeWrite_keeps speculating visited named fits).imp ?_ (fun _ _ _ => trivial)
  intro _ t keeps
  constructor
  · intro undoable b within unhooked
    have kept := (keeps b within).mp (undoable b within)
    exact kept.resolve_right (fun hooked => hooked unhooked)
  · intro before b within
    rw [keeps b within]
    by_cases unhooked : Unhooked env.kernel inst addr (wordOf b)
    · exact Or.inl (before b within unhooked)
    · exact Or.inr unhooked

theorem beforeWrite_undoable_iff_sample
    : Ends (beforeWrite sampleEnv (sampleFunction "vfs_read") (.store 16) 0x600000)
        (fun _ t =>
          Undoable (.store 16) 0x600000 t
          ↔ ∀ b,
              Within 0x600000 16 b
              → Unhooked sampleKernel (.store 16) 0x600000 (wordOf b)
              → sampleOpen.rt.log.Keeps sampleOpen.rt.mem (wordOf b))
        (fun _ _ => True) sampleOpen.rt :=
  @beforeWrite_undoable_iff sampleEnv sampleOpen sampleOpen_reached rfl rfl
    (sampleFunction "vfs_read") rfl (by decide) (.store 16) 0x600000 trivial

/-- Before a store of 16 bytes at `0x600000` the second word is not in the log, and before
an atomic operation nothing is.
-/
theorem beforeWrite_misses
    : Reached sampleKernel sampleOpen
      ∧ sampleOpen.rt.inSpeculativeEmulation = true
      ∧ (∃ t,
          beforeWrite sampleEnv (sampleFunction "vfs_read") (.store 16) 0x600000 sampleOpen.rt
            = .ok () t
          ∧ ¬Undoable (.store 16) 0x600000 t)
      ∧ ∃ t,
          beforeWrite sampleEnv (sampleFunction "vfs_read") (.atomicRmw 8) 0x600000 sampleOpen.rt
            = .ok () t
          ∧ ¬Undoable (.atomicRmw 8) 0x600000 t := by
  refine ⟨sampleOpen_reached, rfl, ⟨_, rfl, fun undoable => ?_⟩, ⟨_, rfl, fun undoable => ?_⟩⟩
  · have kept := undoable 0x600008 (by decide)
    revert kept
    rw [WriteLog.Keeps]
    decide
  · have kept := undoable 0x600000 (by decide)
    revert kept
    rw [WriteLog.Keeps]
    decide

end Kasper
