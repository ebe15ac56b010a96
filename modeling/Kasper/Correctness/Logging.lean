import Kasper.Correctness.Rollback

/-! Logging a write before it happens.
A hooked word that lies clear of the runtime's own memory is in the log when its hook
returns; a full log rolls back instead.
-/

namespace Kasper

open ByteMemory Exits UndoLog

/-- A word outside the log arrays and the two variables the log passes over. -/
structure WriteLog.Clear (kernel : Kernel) (log : WriteLog) (w : Address) : Prop where
  addrs
    : w < log.addrs.base ∨ w ≥ log.addrs.base + BitVec.ofNat 64 writelogBytes
  data : w < log.data.base ∨ w ≥ log.data.base + BitVec.ofNat 64 writelogBytes
  position : w ≠ kernel.wlPosition
  enabled : w ≠ kernel.writelogEnabled

/-- The assertions on the log arrays pass for the word. -/
def WriteLog.Outside (log : WriteLog) (w : Address) : Prop :=
  (w < log.addrs.base ∨ w ≥ log.addrs.base + BitVec.ofNat 64 writelogBytes)
  ∧ (w < log.data.base ∨ w ≥ log.data.base + BitVec.ofNat 64 writelogBytes)

/-- Some log entry keeps the word. -/
def WriteLog.Has (log : WriteLog) (w : Address) : Prop :=
  ∃ i < log.position, log.addrs.cell i = w

/-- `t` is `s` with entries added to its log. -/
structure Grown (s t : Rt) : Prop where
  frame : t = { s with log := t.log }
  addrsBase : t.log.addrs.base = s.log.addrs.base
  dataBase : t.log.data.base = s.log.data.base
  older : ∀ i < s.log.position, t.log.addrs.cell i = s.log.addrs.cell i
  position : s.log.position ≤ t.log.position

namespace Grown

variable {s t u : Rt}

theorem refl (s : Rt) : Grown s s :=
  ⟨rfl, rfl, rfl, fun _ _ => rfl, Nat.le_refl _⟩

theorem trans (first : Grown s t) (second : Grown t u) : Grown s u where
  frame := by
    rw [second.frame, first.frame]
  addrsBase := second.addrsBase.trans first.addrsBase
  dataBase := second.dataBase.trans first.dataBase
  older := by
    intro i below
    rw [second.older i (Nat.lt_of_lt_of_le below first.position), first.older i below]
  position := Nat.le_trans first.position second.position

theorem has (h : Grown s t) {w : Address} (found : s.log.Has w) : t.log.Has w := by
  obtain ⟨i, below, key⟩ := found
  exact ⟨i, Nat.lt_of_lt_of_le below h.position, (h.older i below).trans key⟩

theorem clear {kernel : Kernel} (h : Grown s t) {w : Address} (clear : s.log.Clear kernel w)
    : t.log.Clear kernel w where
  addrs := by
    rw [h.addrsBase]
    exact clear.addrs
  data := by
    rw [h.dataBase]
    exact clear.data
  position := clear.position
  enabled := clear.enabled

theorem stack (h : Grown s t) : t.stack = s.stack := by rw [h.frame]

end Grown

/-- The words the log keeps, in the order of its entries. -/
def WriteLog.words (log : WriteLog) : List Address :=
  (List.range log.position).map log.addrs.cell

theorem WriteLog.length_words (log : WriteLog) : log.words.length = log.position := by
  rw [words, List.length_map, List.length_range]

theorem WriteLog.mem_words {log : WriteLog} {w : Address} : w ∈ log.words ↔ log.Has w := by
  simp only [words, List.mem_map, List.mem_range, Has]

/-- The two variables whose words the log passes over. -/
def Kernel.PassesOver (kernel : Kernel) (w : Address) : Prop :=
  w = kernel.wlPosition ∨ w = kernel.writelogEnabled

instance (kernel : Kernel) (w : Address) : Decidable (kernel.PassesOver w) :=
  inferInstanceAs (Decidable (_ ∨ _))

/-- The words of a list that get an entry. -/
def Kernel.recorded (kernel : Kernel) (words : List Address) : List Address :=
  words.filter (fun w => ¬kernel.PassesOver w)

theorem Kernel.recorded_passed (kernel : Kernel) {w : Address} (passes : kernel.PassesOver w)
    : kernel.recorded [w] = [] := by
  simp [recorded, passes]

theorem Kernel.recorded_logged (kernel : Kernel) {w : Address}
    (logged : ¬kernel.PassesOver w)
    : kernel.recorded [w] = [w] := by
  simp [recorded, logged]

theorem Kernel.recorded_append (kernel : Kernel) (words more : List Address)
    : kernel.recorded (words ++ more) = kernel.recorded words ++ kernel.recorded more :=
  List.filter_append words more

theorem Kernel.mem_recorded {kernel : Kernel} {words : List Address} {w : Address}
    : w ∈ kernel.recorded words ↔ w ∈ words ∧ ¬kernel.PassesOver w := by
  simp [recorded]

theorem WriteLog.Has.logged {log : WriteLog} {w : Address} (h : log.Has w)
    : Logged (log.entries log.position) w := by
  obtain ⟨i, below, key⟩ := h
  exact ⟨log.entry i, WriteLog.mem_entries.mpr ⟨i, below, rfl⟩, key⟩

/-- The state after an entry for the word `w` was filled. -/
def Rt.appended (s : Rt) (w returnAddress : Address) : Rt :=
  { s with
    log :=
      { s.log with
        addrs := s.log.addrs.put s.log.position w
        data := s.log.data.put s.log.position (readWord s.mem w)
        metas := s.log.metas.put s.log.position returnAddress
        position := s.log.position + 1 } }

/-- The state in which reading the word `w` for its entry faults. -/
def Rt.scratched (s : Rt) (w : Address) : Rt :=
  { s with log := { s.log with addrs := s.log.addrs.put s.log.position w } }

/-- Every log array has a cell at the log's position. -/
def WriteLog.HasRoom (log : WriteLog) : Prop :=
  log.position < log.addrs.size ∧ log.position < log.data.size ∧ log.position < log.metas.size

section
variable {env : Env} {onFail : SpecAssert → RtM Unit} {skips wider : Address → Prop}
  {start : Memory} {s : Rt}

/-- Filling an entry: done, passed over at a null slot, a fault on the load, or an access
past the end of an array.
-/
theorem appendEntry_ends {w : Address} {Q : Unit → Rt → Prop} {E : Exit → Rt → Prop}
    (filled : Q () (s.appended w env.frames.returnAddress))
    (null : s.log.addrs.base + BitVec.ofNat 64 (s.log.position * 8) = 0 → Q () s)
    (fault : E (.fault false) (s.scratched w))
    (past
      : ¬s.log.HasRoom → ∀ table t, t.asserted = s.asserted → E (.outOfBounds table) t)
    : Ends (appendEntry env w) Q E s := by
  simp only [appendEntry, ends_bind, ends_get]
  by_cases slot : s.log.addrs.base + BitVec.ofNat 64 (s.log.position * 8) ≠ 0
  · rw [if_pos slot]
    simp only [ends_bind, ends_get, ends_checkBounds, ends_modify]
    refine ⟨fun addrs => ⟨fun data => ?_, fun out => ?_⟩, fun out => ?_⟩
    · refine ends_loadWord (fun _ => ⟨fun metas => filled, fun out => ?_⟩) (fun _ => fault)
      exact past (fun room => out room.2.2) _ _ rfl
    · exact past (fun room => out room.2.1) _ _ rfl
    · exact past (fun room => out room.1) _ _ rfl
  · rw [if_neg slot]
    exact null (not_not.mp slot)

/-- A slot of an allocated array is never at address zero. -/
theorem WriteLog.Allocated.slot_ne {log : WriteLog} (h : log.Allocated) {i : Nat}
    (below : i < logCapacity)
    : log.addrs.base + BitVec.ofNat 64 (i * 8) ≠ 0 := by
  intro zero
  have sum := congrArg BitVec.toNat zero
  have base : log.addrs.base.toNat ≠ 0 := fun same =>
    h.addrsBase (BitVec.eq_of_toNat_eq same)
  have fits := h.addrsEnd
  rw [BitVec.toNat_add, BitVec.toNat_ofNat] at sum
  simp only [logCapacity, writelogBytes, writelogMaxlen, writelogGranularity] at below fits
  simp only [BitVec.ofNat_eq_ofNat, BitVec.toNat_ofNat, Nat.zero_mod] at sum
  omega

theorem Recoverable.appended {w returnAddress : Address}
    (h : Recoverable env.kernel skips start s) (aligned : wordOf w = w)
    (room : s.log.position < logCapacity)
    : Recoverable env.kernel skips start (s.appended w returnAddress) where
  inSpec := h.inSpec
  enabled := h.enabled
  shallow := h.shallow
  sound := by
    have allocated : (s.appended w returnAddress).log.Allocated :=
      h.sound.allocated.congr ⟨rfl, rfl⟩ ⟨rfl, rfl⟩ rfl
    refine h.sound.push room aligned allocated ?_ ?_ ?_
    · intro i below
      have different := Nat.ne_of_lt below
      exact ⟨Table.put_cell_other _ _ different, Table.put_cell_other _ _ different⟩
    · exact Table.put_cell_same _ _ _
    · exact Table.put_cell_same _ _ _
  fits := h.fits
  saved := h.saved

theorem Recoverable.scratched {w : Address} (h : Recoverable env.kernel skips start s)
    : Recoverable env.kernel skips start (s.scratched w) where
  inSpec := h.inSpec
  enabled := h.enabled
  shallow := h.shallow
  sound := by
    have allocated : (s.scratched w).log.Allocated :=
      h.sound.allocated.congr ⟨rfl, rfl⟩ ⟨rfl, rfl⟩ rfl
    refine h.sound.congr allocated ?_ (fun _ _ => rfl)
    exact fun i below => Table.put_cell_other _ _ (Nat.ne_of_lt below)
  fits := h.fits
  saved := h.saved

theorem grown_appended (s : Rt) (w returnAddress : Address)
    : Grown s (s.appended w returnAddress) where
  frame := rfl
  addrsBase := rfl
  dataBase := rfl
  older := fun _ below => Table.put_cell_other _ _ (Nat.ne_of_lt below)
  position := Nat.le_succ _

/-- A filled entry comes behind the older ones. -/
theorem appended_words (s : Rt) (w returnAddress : Address)
    : (s.appended w returnAddress).log.words = s.log.words ++ [w] := by
  have grown := grown_appended s w returnAddress
  have last : (s.appended w returnAddress).log.addrs.cell s.log.position = w :=
    Table.put_cell_same _ _ _
  have next : (s.appended w returnAddress).log.position = s.log.position + 1 := rfl
  simp only [WriteLog.words, next, List.range_succ, List.map_append, List.map_cons,
    List.map_nil, last]
  congr 1
  apply List.map_congr_left
  intro i member
  exact grown.older i (List.mem_range.mp member)

/-- Logging one aligned word adds its entry, faults on reading it, or rolls back. -/
theorem writeWlAligned_recovers {w : Address} (h : Recoverable env.kernel skips start s)
    (wide : ∀ w, skips w → wider w)
    (range : ∀ w, restartSkips env true 0 0 w = true → wider w)
    (quiet : FailsQuietly False onFail)
    (loud : FailsLoudly onFail) (aligned : wordOf w = w)
    (clear : s.log.position < logCapacity → s.log.Clear env.kernel w)
    : Ends (writeWlAligned env onFail w)
        (fun _ t =>
          Recoverable env.kernel skips start t
          ∧ Grown s t
          ∧ t.log.Has w
          ∧ s.log.position < t.log.position)
        (RestartExit env.kernel wider start) s := by
  have allocated := h.sound.allocated
  simp only [writeWlAligned, ends_bind, ends_get]
  refine ends_ltAssert_pos (h.enabled.trans h.inSpec.symm) ?_
  refine ends_ltAssert_pos allocated.addrsBase (ends_ltAssert_pos allocated.dataBase ?_)
  by_cases full : s.log.position ≥ writelogMaxlen * 2
  · rw [if_pos full]
    refine Ends.bind (restart_recovers h wide range quiet loud) (fun _ t returned => ?_)
    exact absurd returned.1 (by decide)
  rw [if_neg full]
  have room : s.log.position < logCapacity := Nat.lt_of_not_le full
  have clear := clear room
  simp only [ends_bind, ends_get]
  refine ends_ltAssert_pos room (ends_ltAssert_pos room ?_)
  refine ends_ltAssert_pos clear.addrs (ends_ltAssert_pos clear.data ?_)
  rw [if_neg clear.position, if_neg clear.enabled]
  have grown := grown_appended s w env.frames.returnAddress
  refine appendEntry_ends ?_ ?_ ?_ ?_
  · refine ⟨h.appended aligned room, grown, ⟨s.log.position, Nat.lt_succ_self _, ?_⟩,
      Nat.lt_succ_self _⟩
    exact Table.put_cell_same _ _ _
  · exact fun null => absurd null (allocated.slot_ne room)
  · exact (h.mono wide).scratched
  · refine fun out => absurd ⟨?_, ?_, ?_⟩ out
    · exact allocated.addrsSize ▸ room
    · exact allocated.dataSize ▸ room
    · exact allocated.metasSize ▸ room

/-- The aligned words `kspecem_write_wl` logs for an address. -/
def SavedBy (a w : Address) : Prop :=
  w = wordOf a ∨ (a ≠ wordOf a ∧ w = wordOf a + 8)

/-- The same words in the order they are logged in. -/
def savedWords (a : Address) : List Address :=
  if a = wordOf a then [wordOf a] else [wordOf a + 8, wordOf a]

theorem savedWords_aligned {a : Address} (aligned : a = wordOf a)
    : savedWords a = [wordOf a] :=
  if_pos aligned

theorem savedWords_unaligned {a : Address} (unaligned : a ≠ wordOf a)
    : savedWords a = [wordOf a + 8, wordOf a] :=
  if_neg unaligned

theorem mem_savedWords {a w : Address} : w ∈ savedWords a ↔ SavedBy a w := by
  by_cases aligned : a = wordOf a
  · rw [savedWords_aligned aligned, List.mem_singleton, SavedBy]
    exact ⟨Or.inl, fun saved => saved.resolve_right (fun second => second.1 aligned)⟩
  · simp only [savedWords_unaligned aligned, List.mem_cons, List.not_mem_nil, or_false, SavedBy,
      ne_eq, aligned, not_false_eq_true, true_and]
    exact or_comm

/-- Eight bytes from an address on lie in the words logged for it. -/
theorem savedBy_of_within {a b : Address} {n : Nat} (within : Within a n b) (small : n ≤ 8)
    : SavedBy a (wordOf b) :=
  wordOf_of_within within small

/-- What logging one address or one range does to a recoverable state. -/
def LogsWords (env : Env) (skips : Address → Prop) (start : Memory) (words : Address → Prop)
    (s t : Rt)
    : Prop :=
  Recoverable env.kernel skips start t ∧ Grown s t ∧ ∀ w, words w → t.log.Has w

/-- Logging an address logs the one or two words its eight bytes lie in. -/
theorem writeWl_recovers {a : Address} (h : Recoverable env.kernel skips start s)
    (wide : ∀ w, skips w → wider w)
    (range : ∀ w, restartSkips env true 0 0 w = true → wider w)
    (quiet : FailsQuietly False onFail)
    (loud : FailsLoudly onFail)
    (clear : s.log.position < logCapacity → ∀ w, SavedBy a w → s.log.Clear env.kernel w)
    : Ends (writeWl env onFail a)
        (fun _ t =>
          LogsWords env skips start (SavedBy a) s t ∧ s.log.position < t.log.position)
        (RestartExit env.kernel wider start) s := by
  have first (t : Rt) (kept : Recoverable env.kernel skips start t) (grown : Grown s t)
      (second : a ≠ wordOf a → t.log.Has (wordOf a + 8))
      : Ends (writeWlAligned env onFail (wordOf a))
          (fun _ t =>
            LogsWords env skips start (SavedBy a) s t ∧ s.log.position < t.log.position)
          (RestartExit env.kernel wider start) t := by
    refine (writeWlAligned_recovers kept wide range quiet loud (wordOf_wordOf a) ?_).imp ?_
      (fun _ _ exit => exit)
    · intro room
      have room := Nat.lt_of_le_of_lt grown.position room
      exact grown.clear (clear room _ (Or.inl rfl))
    · rintro _ u ⟨kept, later, has, longer⟩
      refine ⟨⟨kept, grown.trans later, ?_⟩, Nat.lt_of_le_of_lt grown.position longer⟩
      rintro w (rfl | ⟨unaligned, rfl⟩)
      · exact has
      · exact later.has (second unaligned)
  rw [writeWl]
  by_cases aligned : a = wordOf a
  · rw [if_neg (fun unaligned => unaligned aligned)]
    exact first s h (.refl s) (fun unaligned => absurd aligned unaligned)
  · rw [if_pos (show a ≠ alignDown 3 a from aligned)]
    refine Ends.bind (writeWlAligned_recovers h wide range quiet loud (wordOf_add_eight a) ?_) ?_
    · exact fun room => clear room _ (Or.inr ⟨aligned, rfl⟩)
    · rintro _ t ⟨kept, grown, has, _⟩
      exact first t kept grown (fun _ => has)

/-- The cursor of `kspecem_memcpy` after `k` rounds. -/
def memcpyCursor (reg : Address) (k : Nat) : Address :=
  reg + BitVec.ofNat 64 (8 * k)

theorem memcpyCursor_succ (reg : Address) (k : Nat)
    : memcpyCursor (reg + 8) k = memcpyCursor reg (k + 1) := by
  apply BitVec.eq_of_toNat_eq
  simp only [memcpyCursor, BitVec.toNat_add, BitVec.toNat_ofNat, BitVec.ofNat_eq_ofNat]
  omega

/-- The words a logging loop from `reg` passes to `kspecem_write_wl` before the log is full. -/
def LoopHooks (reg stop w : Address) : Prop :=
  ∃ k < logCapacity, (∀ j ≤ k, memcpyCursor reg j < stop) ∧ SavedBy (memcpyCursor reg k) w

/-- The loop ends before its fuel does: every round fills an entry, and a full log rolls
back. It logs every word from its cursor up to the end, by induction on the fuel.
-/
theorem memcpyLoop_recovers {fuel : Nat} {stop reg : Address}
    (h : Recoverable env.kernel skips start s) (wide : ∀ w, skips w → wider w)
    (range : ∀ w, restartSkips env true 0 0 w = true → wider w)
    (quiet : FailsQuietly False onFail)
    (loud : FailsLoudly onFail) (enough : logCapacity < s.log.position + fuel)
    (clear
      : ∀ k,
          s.log.position + k < logCapacity
          → (∀ j ≤ k, memcpyCursor reg j < stop)
          → ∀ w, SavedBy (memcpyCursor reg k) w → s.log.Clear env.kernel w)
    : Ends (memcpyLoop env onFail stop fuel reg)
        (fun _ t =>
          LogsWords env skips start (fun w => ∃ b, reg ≤ b ∧ b < stop ∧ wordOf b = w) s t)
        (RestartExit env.kernel wider start) s := by
  induction fuel generalizing s reg with
  | zero => exact absurd h.sound.room (Nat.not_le_of_lt enough)
  | succ fuel ih =>
      have here : memcpyCursor reg 0 = reg := BitVec.add_zero reg
      rw [memcpyLoop]
      by_cases more : reg < stop
      · rw [if_pos more]
        have first (room : s.log.position < logCapacity) (w : Address) (saved : SavedBy reg w)
            : s.log.Clear env.kernel w := by
          refine clear 0 room (fun j zero => ?_) w (by rw [here]; exact saved)
          rw [Nat.le_zero.mp zero, here]
          exact more
        refine Ends.bind (writeWl_recovers h wide range quiet loud first) ?_
        rintro _ t ⟨⟨kept, grown, saved⟩, longer⟩
        refine (ih kept ?_ ?_).imp ?_ (fun _ _ exit => exit)
        · omega
        · intro k room before w hooked
          rw [memcpyCursor_succ] at hooked
          refine grown.clear (clear (k + 1) ?_ ?_ w hooked)
          · omega
          · intro j bound
            cases j with
            | zero => exact here.symm ▸ more
            | succ j => exact memcpyCursor_succ reg j ▸ before j (Nat.le_of_succ_le_succ bound)
        · rintro _ u ⟨kept, later, rest⟩
          refine ⟨kept, grown.trans later, ?_⟩
          rintro w ⟨b, low, high, rfl⟩
          by_cases near : Within reg 8 b
          -- a byte next to the cursor was logged now, one further on by the rest of the loop
          · exact later.has (saved _ (savedBy_of_within near (Nat.le_refl 8)))
          · refine rest _ ⟨b, ?_, high, rfl⟩
            rw [Within, BitVec.toNat_sub] at near
            rw [BitVec.le_def] at low ⊢
            rw [BitVec.toNat_add]
            simp only [BitVec.ofNat_eq_ofNat, BitVec.toNat_ofNat]
            omega
      · rw [if_neg more]
        refine ⟨h, .refl s, ?_⟩
        rintro w ⟨b, low, high, rfl⟩
        rw [BitVec.le_def] at low
        rw [BitVec.lt_def] at high more
        exact absurd (Nat.lt_of_le_of_lt low high) more

end

end Kasper
