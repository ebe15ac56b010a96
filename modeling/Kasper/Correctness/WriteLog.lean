import Kasper.Library.UndoLog
import Kasper.Runtime.Interface

/-! The write log as an undo log over memory bytes, and its replay.
Cells are aligned words. Addresses the replay may leave alone are `free`; everywhere else
replaying the log gives the memory of the checkpoint.
-/

namespace Kasper

open ByteMemory Exits UndoLog

/-- The number of entries the log arrays hold. -/
def logCapacity : Nat := writelogMaxlen * 2

def WriteLog.entry (log : WriteLog) (i : Nat) : Entry Address Address Byte where
  key := log.addrs.cell i
  old := fun a => wordByte (log.data.cell i) (a - log.addrs.cell i).toNat

/-- The first `n` entries, newest first. -/
def WriteLog.entries (log : WriteLog) : Nat → List (Entry Address Address Byte)
  | 0 => []
  | n + 1 => log.entry n :: log.entries n

/-- Putting an aligned entry back is the word store the replay makes. -/
theorem revert_entry {log : WriteLog} {i : Nat} (mem : Memory)
    (aligned : wordOf (log.addrs.cell i) = log.addrs.cell i)
    : revert wordOf (log.entry i) mem
      = writeWord mem (log.addrs.cell i) (log.data.cell i) := by
  funext a
  by_cases hit : Within (log.addrs.cell i) 8 a
  · rw [writeWord_within hit, revert]
    exact if_pos ((within_word_iff aligned a).mp hit)
  · rw [writeWord_outside hit, revert]
    exact if_neg (fun same => hit ((within_word_iff aligned a).mpr same))

/-- Entries below `n` do not see stores to later slots. -/
theorem WriteLog.entries_congr {log other : WriteLog} {n : Nat}
    (same : ∀ i < n, other.entry i = log.entry i)
    : other.entries n = log.entries n := by
  induction n with
  | zero => rfl
  | succ n ih =>
      simp only [WriteLog.entries, same n (Nat.lt_succ_self n),
        ih (fun i below => same i (Nat.lt_succ_of_lt below))]

theorem WriteLog.mem_entries {log : WriteLog} {n : Nat} {entry : Entry Address Address Byte}
    : entry ∈ log.entries n ↔ ∃ i < n, log.entry i = entry := by
  induction n with
  | zero => simp [WriteLog.entries]
  | succ n ih =>
      simp only [WriteLog.entries, List.mem_cons, ih, Nat.lt_succ_iff]
      constructor
      · rintro (rfl | ⟨i, below, rfl⟩)
        · exact ⟨n, Nat.le_refl n, rfl⟩
        · exact ⟨i, Nat.le_of_lt below, rfl⟩
      · rintro ⟨i, below, rfl⟩
        rcases Nat.lt_or_eq_of_le below with earlier | rfl
        · exact Or.inr ⟨i, earlier, rfl⟩
        · exact Or.inl rfl

/-- The log arrays as `kspecem_writelog_init` allocates them. -/
structure WriteLog.Allocated (log : WriteLog) : Prop where
  addrsSize : log.addrs.size = logCapacity
  dataSize : log.data.size = logCapacity
  metasSize : log.metas.size = logCapacity
  addrsBase : log.addrs.base ≠ 0
  dataBase : log.data.base ≠ 0
  addrsEnd : log.addrs.base.toNat + writelogBytes < 2 ^ 64

/-- Storing to cells leaves the arrays allocated. -/
theorem WriteLog.Allocated.congr {log other : WriteLog} (h : log.Allocated)
    (addrs : other.addrs.size = log.addrs.size ∧ other.addrs.base = log.addrs.base)
    (data : other.data.size = log.data.size ∧ other.data.base = log.data.base)
    (metas : other.metas.size = log.metas.size)
    : other.Allocated where
  addrsSize := addrs.1.trans h.addrsSize
  dataSize := data.1.trans h.dataSize
  metasSize := metas.trans h.metasSize
  addrsBase := by
    rw [addrs.2]
    exact h.addrsBase
  dataBase := by
    rw [data.2]
    exact h.dataBase
  addrsEnd := by
    rw [addrs.2]
    exact h.addrsEnd

/-- The first `n` log entries undo what happened to memory since `start`. Bound bytes that
are not writable never changed, and no entry says otherwise.
-/
structure LogSound (kernel : Kernel) (free : Address → Prop) (start : Memory)
    (log : WriteLog) (mem : Memory) (n : Nat)
    : Prop where
  allocated : log.Allocated
  room : n ≤ logCapacity
  aligned : ∀ i < n, wordOf (log.addrs.cell i) = log.addrs.cell i
  undoes : Undoes wordOf free (log.entries n) mem start
  steady : ∀ a, ¬free a → kernel.writable a = false → mem a = start a
  steadyEntries
    : ∀ i < n,
        ∀ a,
          ¬free a
          → wordOf a = log.addrs.cell i
          → kernel.writable a = false
          → (log.entry i).old a = start a

namespace LogSound

variable {kernel : Kernel} {free : Address → Prop} {start : Memory} {log : WriteLog}
  {mem : Memory} {n : Nat}

/-- An empty log is sound at the checkpoint. -/
theorem empty (allocated : log.Allocated) : LogSound kernel free mem log mem 0 where
  allocated := allocated
  room := Nat.zero_le _
  aligned := fun _ below => absurd below (Nat.not_lt_zero _)
  undoes := .nil free mem
  steady := fun _ _ _ => rfl
  steadyEntries := fun _ below => absurd below (Nat.not_lt_zero _)

theorem mono {wider : Address → Prop} (h : LogSound kernel free start log mem n)
    (wide : ∀ a, free a → wider a)
    : LogSound kernel wider start log mem n where
  allocated := h.allocated
  room := h.room
  aligned := h.aligned
  undoes := h.undoes.mono wide
  steady := fun a bound => h.steady a (fun free => bound (wide a free))
  steadyEntries := fun i below a bound =>
    h.steadyEntries i below a (fun free => bound (wide a free))

/-- Only the entries that count decide whether a log is sound. -/
theorem congr {other : WriteLog} (h : LogSound kernel free start log mem n)
    (allocated : other.Allocated)
    (addrs : ∀ i < n, other.addrs.cell i = log.addrs.cell i)
    (data : ∀ i < n, other.data.cell i = log.data.cell i)
    : LogSound kernel free start other mem n := by
  have entry (i : Nat) (below : i < n) : other.entry i = log.entry i := by
    simp only [WriteLog.entry, addrs i below, data i below]
  refine {
    allocated := allocated
    room := h.room
    aligned := ?_
    undoes := ?_
    steady := h.steady
    steadyEntries := ?_
  }
  · intro i below
    rw [addrs i below]
    exact h.aligned i below
  · rw [WriteLog.entries_congr entry]
    exact h.undoes
  · intro i below
    rw [entry i below, addrs i below]
    exact h.steadyEntries i below

/-- A skipped entry lies on free addresses only. -/
theorem skip (h : LogSound kernel free start log mem (n + 1))
    (spare : ∀ a, wordOf a = log.addrs.cell n → free a)
    : LogSound kernel free start log mem n where
  allocated := h.allocated
  room := Nat.le_of_succ_le h.room
  aligned := fun i below => h.aligned i (Nat.lt_succ_of_lt below)
  undoes := h.undoes.drop (fun a bound same => absurd (spare a same) bound)
  steady := h.steady
  steadyEntries := fun i below => h.steadyEntries i (Nat.lt_succ_of_lt below)

/-- A replayed entry leaves the older ones to replay. -/
theorem replay (h : LogSound kernel free start log mem (n + 1))
    (writable : ∀ a, wordOf a = log.addrs.cell n → kernel.writable a = true)
    : LogSound kernel free start log
        (writeWord mem (log.addrs.cell n) (log.data.cell n)) n where
  allocated := h.allocated
  room := Nat.le_of_succ_le h.room
  aligned := fun i below => h.aligned i (Nat.lt_succ_of_lt below)
  undoes := by
    rw [← revert_entry mem (h.aligned n (Nat.lt_succ_self n))]
    exact h.undoes.pop
  steady := by
    intro a bound readOnly
    have outside : ¬Within (log.addrs.cell n) 8 a := by
      intro inside
      have same := (within_word_iff (h.aligned n (Nat.lt_succ_self n)) a).mp inside
      rw [writable a same] at readOnly
      contradiction
    rw [writeWord_outside outside]
    exact h.steady a bound readOnly
  steadyEntries := fun i below => h.steadyEntries i (Nat.lt_succ_of_lt below)

/-- An entry whose word cannot be written may be dropped: the word never changed. -/
theorem blocked (h : LogSound kernel free start log mem (n + 1))
    (readOnly : ∀ a, wordOf a = log.addrs.cell n → kernel.writable a = false)
    : LogSound kernel free start log mem n where
  allocated := h.allocated
  room := Nat.le_of_succ_le h.room
  aligned := fun i below => h.aligned i (Nat.lt_succ_of_lt below)
  undoes := by
    refine h.undoes.drop (fun a bound same => ?_)
    rw [h.steadyEntries n (Nat.lt_succ_self n) a bound same (readOnly a same),
      h.steady a bound (readOnly a same)]
  steady := h.steady
  steadyEntries := fun i below => h.steadyEntries i (Nat.lt_succ_of_lt below)

/-- With nothing left to replay, memory is back outside the free addresses. -/
theorem restored (h : LogSound kernel free start log mem 0) (a : Address) (bound : ¬free a)
    : mem a = start a :=
  h.undoes.restored a bound

/-- Writing writable bytes of logged words, and free bytes, keeps the log sound. -/
theorem write {mem' : Memory} (h : LogSound kernel free start log mem n)
    (covered : ∀ a, ¬free a → mem' a = mem a ∨ Logged (log.entries n) (wordOf a))
    (writable : ∀ a, ¬free a → kernel.writable a = false → mem' a = mem a)
    : LogSound kernel free start log mem' n :=
  { h with
    undoes := h.undoes.write covered
    steady := fun a bound readOnly =>
      (writable a bound readOnly).trans (h.steady a bound readOnly) }

/-- Logging the present contents of an aligned word keeps the log sound. -/
theorem push {log' : WriteLog} {w : Address} (h : LogSound kernel free start log mem n)
    (room : n < logCapacity) (aligned : wordOf w = w) (allocated : log'.Allocated)
    (older : ∀ i < n, log'.addrs.cell i = log.addrs.cell i ∧ log'.data.cell i = log.data.cell i)
    (key : log'.addrs.cell n = w) (old : log'.data.cell n = readWord mem w)
    : LogSound kernel free start log' mem (n + 1) := by
  have same (i : Nat) (below : i < n) : log'.entry i = log.entry i := by
    simp only [WriteLog.entry, (older i below).1, (older i below).2]
  have present (a : Address) (hit : wordOf a = w) : (log'.entry n).old a = mem a := by
    have distance : (a - w).toNat < 8 := (within_word_iff aligned a).mpr hit
    simp only [WriteLog.entry, key, old]
    rw [wordByte_readWord mem w distance, BitVec.ofNat_toNat, BitVec.setWidth_eq,
      BitVec.add_comm, BitVec.sub_add_cancel]
  refine {
    allocated := allocated
    room := room
    aligned := ?_
    undoes := ?_
    steady := h.steady
    steadyEntries := ?_
  }
  · intro i below
    rcases Nat.lt_succ_iff_lt_or_eq.mp below with earlier | rfl
    · rw [(older i earlier).1]
      exact h.aligned i earlier
    · rw [key, aligned]
  · simp only [WriteLog.entries, WriteLog.entries_congr same]
    refine h.undoes.push (fun a hit => present a ?_)
    simpa only [WriteLog.entry, key] using hit
  · intro i below a bound hit readOnly
    rcases Nat.lt_succ_iff_lt_or_eq.mp below with earlier | rfl
    · rw [same i earlier]
      exact h.steadyEntries i earlier a bound ((older i earlier).1 ▸ hit) readOnly
    · rw [present a (key ▸ hit)]
      exact h.steady a bound readOnly

end LogSound

end Kasper
