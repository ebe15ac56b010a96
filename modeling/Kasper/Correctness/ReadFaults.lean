import Kasper.Correctness.BlockLogging

/-! When the logging hooks read memory that the write itself would not touch.
The store hook logs the next word for every unaligned start, and the block loop moves in
steps of eight from a multiple of four.
-/

namespace Kasper

open ByteMemory Exits

/-- The log reads the word without a fault, or passes over it. -/
def Kernel.Loadable (kernel : Kernel) (w : Address) : Prop :=
  kernel.PassesOver w ∨ kernel.ReadableWord w

/-- Pages hold whole words: a word with one readable byte is readable. -/
theorem Kernel.readableWord_of_byte {kernel : Kernel} {b : Address}
    (readable : kernel.readable b = true)
    : kernel.ReadableWord (wordOf b) := by
  intro i
  have page : (wordOf b + BitVec.ofNat 64 i).toNat / pageSize = b.toNat / pageSize := by
    have bound := b.isLt
    have small := i.isLt
    rw [BitVec.toNat_add, toNat_wordOf, BitVec.toNat_ofNat, pageSize]
    omega
  rw [Kernel.readable, page]
  exact readable

theorem Kernel.Loadable.of_byte {kernel : Kernel} {b : Address}
    (readable : kernel.readable b = true)
    : kernel.Loadable (wordOf b) :=
  Or.inr (kernel.readableWord_of_byte readable)

/-- The log has room for the words, and none of them lies in the log arrays. -/
def WriteLog.Takes (log : WriteLog) (words : List Address) : Prop :=
  log.position + words.length ≤ logCapacity ∧ ∀ w ∈ words, log.Outside w

theorem WriteLog.Takes.left {log : WriteLog} {words more : List Address}
    (takes : log.Takes (words ++ more))
    : log.Takes words := by
  obtain ⟨room, outside⟩ := takes
  rw [List.length_append] at room
  exact ⟨by omega, fun w member => outside w (List.mem_append_left _ member)⟩

/-- `t` is what `s` became by logging some of the words. -/
structure Follows (kernel : Kernel) (words : List Address) (s t : Rt) : Prop where
  coherent : Coherent kernel t
  inSpec : t.inSpeculativeEmulation = true
  irqs : t.irqsEnabled = s.irqsEnabled
  addrsBase : t.log.addrs.base = s.log.addrs.base
  dataBase : t.log.data.base = s.log.data.base
  position : t.log.position ≤ s.log.position + words.length

namespace Follows

variable {kernel : Kernel} {words more : List Address} {s t u : Rt}

theorem refl (coherent : Coherent kernel s) (inSpec : s.inSpeculativeEmulation = true)
    : Follows kernel [] s s :=
  ⟨coherent, inSpec, rfl, rfl, rfl, Nat.le_refl _⟩

theorem trans (first : Follows kernel words s t) (second : Follows kernel more t u)
    : Follows kernel (words ++ more) s u where
  coherent := second.coherent
  inSpec := second.inSpec
  irqs := second.irqs.trans first.irqs
  addrsBase := second.addrsBase.trans first.addrsBase
  dataBase := second.dataBase.trans first.dataBase
  position := by
    have earlier := first.position
    have later := second.position
    rw [List.length_append]
    omega

/-- What the log took before leaves it room for the rest. -/
theorem takes (h : Follows kernel words s t) (takes : s.log.Takes (words ++ more))
    : t.log.Takes more := by
  obtain ⟨room, outside⟩ := takes
  refine ⟨?_, ?_⟩
  · have position := h.position
    rw [List.length_append] at room
    omega
  · intro w member
    rw [WriteLog.Outside, h.addrsBase, h.dataBase]
    exact outside w (List.mem_append_right _ member)

end Follows

/-- Every word can be loaded. -/
def Kernel.AllLoadable (kernel : Kernel) (words : List Address) : Prop :=
  ∀ w ∈ words, kernel.Loadable w

theorem Kernel.allLoadable_append {kernel : Kernel} {words more : List Address}
    : kernel.AllLoadable (words ++ more)
      ↔ kernel.AllLoadable words ∧ kernel.AllLoadable more :=
  List.forall_mem_append

section
variable {env : Env} {onFail : SpecAssert → RtM Unit} {s t : Rt}

/-- Where the log takes a word, it is appended unless it cannot be read. -/
theorem writeWlAligned_takes {w : Address} (coherent : Coherent env.kernel t)
    (room : t.log.position < logCapacity) (outside : t.log.Outside w)
    : Ends (writeWlAligned env onFail w)
        (fun _ v =>
          env.kernel.Loadable w ∧ (v = t ∨ v = t.appended w env.frames.returnAddress))
        (fun e _ => e = .fault false ∧ ¬env.kernel.Loadable w) t := by
  have allocated := coherent.allocated
  have free : ¬t.log.position ≥ writelogMaxlen * 2 := Nat.not_le_of_lt room
  simp only [writeWlAligned, ends_bind, ends_get]
  refine ends_ltAssert_pos coherent.coupled ?_
  refine ends_ltAssert_pos allocated.addrsBase (ends_ltAssert_pos allocated.dataBase ?_)
  rw [if_neg free]
  simp only [ends_bind, ends_get]
  refine ends_ltAssert_pos room (ends_ltAssert_pos room ?_)
  refine ends_ltAssert_pos outside.1 (ends_ltAssert_pos outside.2 ?_)
  by_cases passes : env.kernel.PassesOver w
  · have passed : Ends (pure () : RtM Unit)
        (fun _ v =>
          env.kernel.Loadable w ∧ (v = t ∨ v = t.appended w env.frames.returnAddress))
        (fun e _ => e = .fault false ∧ ¬env.kernel.Loadable w) t :=
      ⟨Or.inl passes, Or.inl rfl⟩
    rcases passes with position | enabled
    · rw [if_pos position]
      exact passed
    · rw [ends_ite, if_pos enabled]
      exact ⟨fun _ => passed, fun _ => passed⟩
  · rw [if_neg (fun position => passes (Or.inl position)),
      if_neg (fun enabled => passes (Or.inr enabled))]
    simp only [appendEntry, ends_bind, ends_get]
    rw [if_pos (allocated.slot_ne room)]
    simp only [ends_bind, ends_get, ends_checkBounds, ends_modify]
    refine ⟨fun _ => ⟨fun _ => ?_, fun out => ?_⟩, fun out => ?_⟩
    · refine ends_loadWord (fun readable => ⟨fun _ => ?_, fun out => ?_⟩) (fun unreadable => ?_)
      · exact ⟨Or.inr readable, Or.inr rfl⟩
      · exact absurd (allocated.metasSize ▸ room) out
      · exact ⟨rfl, fun loadable => loadable.elim passes unreadable⟩
    · exact absurd (allocated.dataSize ▸ room) out
    · exact absurd (allocated.addrsSize ▸ room) out

/-- Where the log takes the words, `c` logs them or faults on reading one. -/
def ReadsAll (env : Env) (words : List Address) (c : RtM Unit) : Prop :=
  ∀ t,
    Coherent env.kernel t →
    t.inSpeculativeEmulation = true →
    t.log.Takes words →
    Ends c (fun _ v => env.kernel.AllLoadable words ∧ Follows env.kernel words t v)
      (fun e _ => e = .fault false ∧ ¬env.kernel.AllLoadable words) t

theorem ReadsAll.bind {words more : List Address} {c d : RtM Unit}
    (first : ReadsAll env words c) (second : ReadsAll env more d)
    : ReadsAll env (words ++ more) (do c; d) := by
  intro t coherent inSpec takes
  refine Ends.bind ((first t coherent inSpec takes.left).imp (fun _ _ kept => kept) ?_) ?_
  · intro e u exit
    exact ⟨exit.1, fun loadable => exit.2 (Kernel.allLoadable_append.mp loadable).1⟩
  · intro _ u kept
    obtain ⟨loadable, follows⟩ := kept
    refine (second u follows.coherent follows.inSpec (follows.takes takes)).imp ?_ ?_
    · intro _ v rest
      exact ⟨Kernel.allLoadable_append.mpr ⟨loadable, rest.1⟩, follows.trans rest.2⟩
    · intro e v exit
      exact ⟨exit.1, fun loadable => exit.2 (Kernel.allLoadable_append.mp loadable).2⟩

theorem writeWlAligned_readsAll {w : Address} (aligned : wordOf w = w)
    : ReadsAll env [w] (writeWlAligned env onFail w) := by
  intro t coherent inSpec takes
  obtain ⟨room, outside⟩ := takes
  have room : t.log.position < logCapacity := room
  have outside := outside w (List.mem_singleton_self w)
  refine (writeWlAligned_takes coherent room outside).imp ?_ ?_
  · intro _ v kept
    obtain ⟨loadable, same | appended⟩ := kept
    · refine ⟨by simpa [Kernel.AllLoadable] using loadable, ?_⟩
      rw [same]
      exact ⟨coherent, inSpec, rfl, rfl, rfl, Nat.le_succ _⟩
    · refine ⟨by simpa [Kernel.AllLoadable] using loadable, ?_⟩
      rw [appended]
      exact ⟨coherent.appended inSpec aligned room _, inSpec, rfl, rfl, rfl, Nat.le_refl _⟩
  · intro e v exit
    exact ⟨exit.1, by simpa [Kernel.AllLoadable] using exit.2⟩

theorem store_readsAll (a : Address)
    : ReadsAll env (savedWords a) (store env onFail a) := by
  have first := @writeWlAligned_readsAll env onFail (wordOf a) (wordOf_wordOf a)
  by_cases aligned : a = wordOf a
  · rw [store, writeWl, if_neg (fun unaligned => unaligned aligned), savedWords_aligned aligned]
    exact first
  · rw [store, writeWl, if_pos (show a ≠ alignDown 3 a from aligned),
      savedWords_unaligned aligned]
    exact (writeWlAligned_readsAll (wordOf_add_eight a)).bind first

/-- The loop reads its words in order, by induction on the fuel. -/
theorem memcpyLoop_readsAll {stop : Address} {fuel : Nat} {reg : Address}
    (ended : (memcpyWords stop fuel reg).length < fuel)
    : ReadsAll env (memcpyWords stop fuel reg) (memcpyLoop env onFail stop fuel reg) := by
  induction fuel generalizing reg with
  | zero => exact absurd ended (Nat.not_lt_zero _)
  | succ fuel ih =>
      by_cases more : reg < stop
      · rw [memcpyWords, if_pos more, List.length_append] at ended
        have saved : 0 < (savedWords reg).length :=
          List.length_pos_of_mem (mem_savedWords.mpr (Or.inl rfl))
        rw [memcpyWords, if_pos more, memcpyLoop, if_pos more]
        exact (store_readsAll reg).bind (ih (by omega))
      · rw [memcpyWords, if_neg more, memcpyLoop, if_neg more]
        intro t coherent inSpec _
        exact ⟨fun _ mem => absurd mem List.not_mem_nil, .refl coherent inSpec⟩

/-- In an episode the section of the store hook adds no read of its own. -/
theorem hookStore_readsAll (a : Address)
    : ReadsAll env (savedWords a) (hookStore env onFail a) := by
  intro t coherent inSpec takes
  have enabled : t.log.enabled = true := coherent.coupled.trans inSpec
  rw [hookStore, ends_bind, ends_get, if_neg (by simp [enabled]), ends_bind, ends_get,
    if_neg (by simp [coherent.initDone])]
  simp only [enterKspecemNonmiRt, setRt, localIrqSave, ends_bind, ends_get, ends_modify,
    ends_pure]
  have entered : Coherent env.kernel { t with isInRt := true, irqsEnabled := false } :=
    coherent.congr rfl rfl rfl rfl rfl (fun _ same => same)
  refine (store_readsAll a _ entered inSpec takes).imp ?_ (fun _ _ exit => exit)
  intro _ v kept
  obtain ⟨loadable, follows⟩ := kept
  simp only [leaveKspecemNonmiRt, localIrqRestore, unsetRt, ends_bind, ends_get]
  refine ends_ltAssert_pos follows.irqs ?_
  simp only [ends_modify]
  refine ⟨loadable, ?_, follows.inSpec, ?_, follows.addrsBase, follows.dataBase,
    follows.position⟩
  · exact follows.coherent.congr rfl rfl rfl rfl rfl (fun _ same => same)
  · exact irqsEnabledIn_irqFlags _

/-- `stop_nmi` and `restart_nmi` read their counter's word. -/
theorem countNmi_readsAll (delta : Word)
    : ReadsAll env (savedWords env.kernel.nmiCount) (countNmi env onFail delta) := by
  intro t coherent inSpec takes
  refine Ends.bind (hookStore_readsAll env.kernel.nmiCount t coherent inSpec takes) ?_
  intro _ v kept
  obtain ⟨loadable, follows⟩ := kept
  refine ⟨loadable, follows.coherent.counted delta, follows.inSpec, follows.irqs,
    follows.addrsBase, follows.dataBase, follows.position⟩

/-- Entering the block hook's section reads the counter's word, and nothing else. -/
theorem hookMemcpy_readsAll {addr : Address} {size : Word} (coherent : Coherent env.kernel t)
    (inSpec : t.inSpeculativeEmulation = true)
    (takes
      : t.log.Takes
          (savedWords env.kernel.nmiCount
            ++ memcpyWords (addr + size) (memcpyRounds + 1) (alignDown 2 addr)))
    : Ends (hookMemcpy env onFail addr size)
        (fun _ _ =>
          env.kernel.AllLoadable
            (memcpyWords (addr + size) (memcpyRounds + 1) (alignDown 2 addr)))
        (fun e _ =>
          e = .fault false
          ∨ env.kernel.AllLoadable
              (memcpyWords (addr + size) (memcpyRounds + 1) (alignDown 2 addr)))
        t := by
  have enabled : t.log.enabled = true := coherent.coupled.trans inSpec
  have ended
      : (memcpyWords (addr + size) (memcpyRounds + 1) (alignDown 2 addr)).length
        < memcpyRounds + 1 := by
    have room := takes.1
    rw [List.length_append] at room
    simp only [logCapacity, writelogMaxlen, memcpyRounds] at room ⊢
    omega
  rw [hookMemcpy, ends_bind, ends_get, if_neg (by simp [enabled]), ends_bind, ends_get,
    if_neg (by simp [coherent.initDone])]
  simp only [enterKspecemRt, stopNmi, setRt, localIrqSave, ends_bind, ends_get, ends_modify,
    ends_pure]
  have entered : Coherent env.kernel { t with isInRt := true, irqsEnabled := false } :=
    coherent.congr rfl rfl rfl rfl rfl (fun _ same => same)
  have reads := (@countNmi_readsAll env onFail 1).bind (@memcpyLoop_readsAll env onFail _ _ _ ended)
  have run := reads _ entered inSpec takes
  rw [ends_bind] at run
  refine run.imp ?_ (fun _ _ exit => Or.inl exit.1)
  intro _ u counted
  refine counted.imp ?_ (fun _ _ exit => Or.inl exit.1)
  intro _ v kept
  have loadable := (Kernel.allLoadable_append.mp kept.1).2
  exact (Ends.trivial _).imp (fun _ _ _ => loadable) (fun _ _ _ => Or.inr loadable)

end

-----------------------------------------------------------------------------------------
-- The words of a mapped range
-----------------------------------------------------------------------------------------

/-- Every byte of `[a, a + n)` is mapped. -/
def Kernel.Mapped (kernel : Kernel) (a : Address) (n : Nat) : Prop :=
  ∀ b, Within a n b → kernel.readable b = true

/-- The cursor of the block loop runs past the top of memory and starts over. -/
def CursorWraps (addr : Address) (size : Word) : Prop :=
  2 ^ 64 - 8 + (alignDown 2 addr).toNat % 8 < (addr + size).toNat

/-- The store hook reads no word beyond those of its store: the address is aligned, or the
next word can be read too.
-/
def StoreReads (kernel : Kernel) (a : Address) : Prop :=
  a = wordOf a ∨ kernel.Loadable (wordOf a + 8)

/-- The block hook reads no word it cannot: an empty range is not read unless it starts
between two multiples of four; any other range is left at its end only, where it both starts
and ends in the upper half of a word.
-/
structure BlockReads (kernel : Kernel) (addr : Address) (size : Word) : Prop where
  wrapped : CursorWraps addr size → ∀ w, wordOf w = w → kernel.Loadable w
  empty
    : ¬CursorWraps addr size
      → size = 0
      → addr.toNat % 4 = 0
        ∨ (kernel.Loadable (wordOf addr)
          ∧ (addr.toNat % 8 < 4 ∨ kernel.Loadable (wordOf addr + 8)))
  last
    : ¬CursorWraps addr size
      → size ≠ 0
      → addr.toNat % 8 < 4
        ∨ (addr + size - 1).toNat % 8 < 4
        ∨ kernel.Loadable (wordOf (addr + size - 1) + 8)

section
variable {kernel : Kernel} {addr stop reg r a w : Address} {size : Word} {n : Nat}

theorem SavedBy.aligned (saved : SavedBy r w) : wordOf w = w := by
  rcases saved with rfl | ⟨_, rfl⟩
  · exact wordOf_wordOf r
  · exact wordOf_add_eight r

/-- Where a store is mapped, its hook's words can be loaded if the next one can. -/
theorem allLoadable_savedWords (mapped : kernel.Mapped a n) (positive : 1 ≤ n)
    : kernel.AllLoadable (savedWords a) ↔ StoreReads kernel a := by
  have own : kernel.Loadable (wordOf a) := by
    refine .of_byte (mapped a ?_)
    rw [Within, BitVec.sub_self]
    exact positive
  by_cases aligned : a = wordOf a
  · rw [savedWords_aligned aligned, StoreReads]
    exact ⟨fun _ => Or.inl aligned, fun _ => by simpa [Kernel.AllLoadable] using own⟩
  · rw [savedWords_unaligned aligned, StoreReads]
    simp [Kernel.AllLoadable, own, aligned]

theorem toNat_cursor_add (small : reg.toNat + 8 < 2 ^ 64) : (reg + 8).toNat = reg.toNat + 8 := by
  rw [BitVec.toNat_add]
  exact Nat.mod_eq_of_lt small

/-- A word of the loop is saved by a cursor between its start and its end. -/
theorem exists_cursor {fuel : Nat} (member : w ∈ memcpyWords stop fuel reg)
    (below : stop.toNat ≤ 2 ^ 64 - 8 + reg.toNat % 8)
    : ∃ r : Address,
        reg.toNat ≤ r.toNat
        ∧ r.toNat < stop.toNat
        ∧ r.toNat % 8 = reg.toNat % 8
        ∧ SavedBy r w := by
  induction fuel generalizing reg with
  | zero => exact absurd member List.not_mem_nil
  | succ fuel ih =>
      by_cases more : reg < stop
      · rw [memcpyWords, if_pos more, List.mem_append, mem_savedWords] at member
        rw [BitVec.lt_def] at more
        rcases member with here | later
        · exact ⟨reg, Nat.le_refl _, more, rfl, here⟩
        · have bound := reg.isLt
          have next := @toNat_cursor_add reg (by omega)
          obtain ⟨r, low, high, phase, saved⟩ := ih later (by rw [next]; omega)
          exact ⟨r, by omega, high, by omega, saved⟩
      · rw [memcpyWords, if_neg more] at member
        exact absurd member List.not_mem_nil

/-- The loop saves the words of every cursor up to its end. -/
theorem mem_memcpyWords_of_cursor {fuel : Nat} (low : reg.toNat ≤ r.toNat)
    (high : r.toNat < stop.toNat) (phase : r.toNat % 8 = reg.toNat % 8)
    (enough : (r.toNat - reg.toNat) / 8 < fuel) (saved : SavedBy r w)
    : w ∈ memcpyWords stop fuel reg := by
  induction fuel generalizing reg with
  | zero => exact absurd enough (Nat.not_lt_zero _)
  | succ fuel ih =>
      have more : reg < stop := BitVec.lt_def.mpr (Nat.lt_of_le_of_lt low high)
      rw [memcpyWords, if_pos more, List.mem_append, mem_savedWords]
      by_cases here : reg.toNat = r.toNat
      · rw [BitVec.eq_of_toNat_eq here]
        exact Or.inl saved
      · have bound := r.isLt
        have next := @toNat_cursor_add reg (by omega)
        exact Or.inr (ih (by omega) (by omega) (by omega))

/-- A cursor that passes the top of memory never meets its end. -/
theorem length_memcpyWords_of_wraps {fuel : Nat}
    (above : 2 ^ 64 - 8 + reg.toNat % 8 < stop.toNat)
    : fuel ≤ (memcpyWords stop fuel reg).length := by
  induction fuel generalizing reg with
  | zero => exact Nat.zero_le _
  | succ fuel ih =>
      have bound := reg.isLt
      have more : reg < stop := BitVec.lt_def.mpr (by omega)
      have saved : 0 < (savedWords reg).length :=
        List.length_pos_of_mem (mem_savedWords.mpr (Or.inl rfl))
      have phase : (reg + 8).toNat % 8 = reg.toNat % 8 := by
        rw [BitVec.toNat_add]
        simp only [BitVec.ofNat_eq_ofNat, BitVec.toNat_ofNat]
        omega
      have rest := ih (phase ▸ above)
      rw [memcpyWords, if_pos more, List.length_append]
      omega

/-- The words the block hook passes to the log. -/
def blockWords (addr : Address) (size : Word) : List Address :=
  memcpyWords (addr + size) (memcpyRounds + 1) (alignDown 2 addr)

/-- Cursors below the end reach exactly the words of the block hook. -/
theorem mem_blockWords (below : ¬CursorWraps addr size)
    : w ∈ blockWords addr size
      ↔ ∃ r : Address,
          (alignDown 2 addr).toNat ≤ r.toNat
          ∧ r.toNat < (addr + size).toNat
          ∧ r.toNat % 8 = (alignDown 2 addr).toNat % 8
          ∧ SavedBy r w := by
  rw [CursorWraps] at below
  constructor
  · exact fun member => exists_cursor member (by omega)
  · rintro ⟨r, low, high, phase, saved⟩
    refine mem_memcpyWords_of_cursor low high phase ?_ saved
    have bound := r.isLt
    simp only [memcpyRounds]
    omega

/-- A byte between the start and the end of a mapped range can be read with its word. -/
theorem Kernel.Mapped.loadable {b : Address} (mapped : kernel.Mapped addr size.toNat)
    (low : addr.toNat ≤ b.toNat) (high : b.toNat < addr.toNat + size.toNat)
    : kernel.Loadable (wordOf b) := by
  refine .of_byte (mapped b ?_)
  have bound := b.isLt
  rw [Within, BitVec.toNat_sub]
  omega

/-- For an empty range the loop reads where its cursor was rounded down. -/
theorem blockReads_empty (below : ¬CursorWraps addr size) (empty : size = 0)
    : kernel.AllLoadable (blockWords addr size)
      ↔ addr.toNat % 4 = 0
        ∨ (kernel.Loadable (wordOf addr)
          ∧ (addr.toNat % 8 < 4 ∨ kernel.Loadable (wordOf addr + 8))) := by
  have start := toNat_alignDown_two addr
  have stop : (addr + size).toNat = addr.toNat := by
    rw [empty]
    exact congrArg _ (BitVec.add_zero addr)
  have same : wordOf (alignDown 2 addr) = wordOf addr := by
    apply BitVec.eq_of_toNat_eq
    rw [toNat_wordOf, toNat_wordOf, start]
    omega
  have cursor : alignDown 2 addr = wordOf (alignDown 2 addr) ↔ addr.toNat % 8 < 4 := by
    rw [← BitVec.toNat_inj, toNat_wordOf, start]
    omega
  constructor
  · intro loadable
    by_cases rounded : addr.toNat % 4 = 0
    · exact Or.inl rounded
    · have reads {w : Address} (saved : SavedBy (alignDown 2 addr) w) : kernel.Loadable w := by
        refine loadable w ((mem_blockWords below).mpr ⟨_, Nat.le_refl _, ?_, rfl, saved⟩)
        omega
      refine Or.inr ⟨same ▸ reads (Or.inl rfl), ?_⟩
      by_cases lower : addr.toNat % 8 < 4
      · exact Or.inl lower
      · exact Or.inr (same ▸ reads (Or.inr ⟨fun whole => lower (cursor.mp whole), rfl⟩))
  · intro reads w member
    obtain ⟨r, low, high, phase, saved⟩ := (mem_blockWords below).mp member
    have here : r = alignDown 2 addr := BitVec.eq_of_toNat_eq (by omega)
    rw [here] at saved high
    rcases reads with rounded | ⟨own, next⟩
    · omega
    · rcases saved with rfl | ⟨unaligned, rfl⟩
      · exact same ▸ own
      · have upper := next.resolve_left (fun lower => unaligned (cursor.mpr lower))
        exact same ▸ upper

/-- Any other range is left at its end only, by a cursor in the upper half of the last
word.
-/
theorem blockReads_last (mapped : kernel.Mapped addr size.toNat) (fits : ¬Wraps addr size)
    (below : ¬CursorWraps addr size) (filled : size ≠ 0)
    : kernel.AllLoadable (blockWords addr size)
      ↔ addr.toNat % 8 < 4
        ∨ (addr + size - 1).toNat % 8 < 4
        ∨ kernel.Loadable (wordOf (addr + size - 1) + 8) := by
  rw [Wraps] at fits
  have start := toNat_alignDown_two addr
  have positive : 0 < size.toNat := by
    refine Nat.pos_of_ne_zero fun zero => filled (BitVec.eq_of_toNat_eq zero)
  have stop : (addr + size).toNat = addr.toNat + size.toNat := by
    rw [BitVec.toNat_add]
    omega
  have last : (addr + size - 1).toNat = addr.toNat + size.toNat - 1 := by
    rw [BitVec.toNat_sub, stop]
    simp only [BitVec.ofNat_eq_ofNat, BitVec.toNat_ofNat]
    omega
  constructor
  · intro loadable
    by_cases halves : addr.toNat % 8 < 4 ∨ (addr + size - 1).toNat % 8 < 4
    · tauto
    -- both ends lie in upper halves: the last cursor is there too and saves the next word
    · have cursor : (wordOf (addr + size - 1) + 4).toNat = (addr + size - 1).toNat / 8 * 8 + 4 := by
        have bound := (addr + size - 1).isLt
        rw [BitVec.toNat_add, toNat_wordOf]
        simp only [BitVec.ofNat_eq_ofNat, BitVec.toNat_ofNat]
        omega
      have same : wordOf (wordOf (addr + size - 1) + 4) = wordOf (addr + size - 1) := by
        apply BitVec.eq_of_toNat_eq
        rw [toNat_wordOf, toNat_wordOf, cursor]
        omega
      refine Or.inr (Or.inr (same ▸ loadable _ ((mem_blockWords below).mpr
        ⟨wordOf (addr + size - 1) + 4, ?_, ?_, ?_, Or.inr ⟨?_, rfl⟩⟩)))
      · omega
      · omega
      · omega
      · rw [ne_eq, ← BitVec.toNat_inj, toNat_wordOf, cursor]
        omega
  · intro reads w member
    obtain ⟨r, low, high, phase, saved⟩ := (mem_blockWords below).mp member
    rcases saved with rfl | ⟨unaligned, rfl⟩
    · by_cases inside : addr.toNat ≤ r.toNat
      · exact mapped.loadable inside (by omega)
      · have first : wordOf r = wordOf addr := by
          apply BitVec.eq_of_toNat_eq
          rw [toNat_wordOf, toNat_wordOf]
          omega
        exact first ▸ mapped.loadable (Nat.le_refl _) (by omega)
    · rw [ne_eq, ← BitVec.toNat_inj, toNat_wordOf] at unaligned
      have next : wordOf (r + 8) = wordOf r + 8 := wordOf_add r
      by_cases inside : r.toNat / 8 * 8 + 8 < addr.toNat + size.toNat
      · have byte : (wordOf r + 8).toNat = r.toNat / 8 * 8 + 8 := by
          rw [BitVec.toNat_add, toNat_wordOf]
          simp only [BitVec.ofNat_eq_ofNat, BitVec.toNat_ofNat]
          omega
        rw [← wordOf_add_eight r]
        exact mapped.loadable (by omega) (by omega)
      -- past the range there is only the word after the last one
      · have final : wordOf r = wordOf (addr + size - 1) := by
          apply BitVec.eq_of_toNat_eq
          rw [toNat_wordOf, toNat_wordOf]
          omega
        rw [final]
        rcases reads with lower | lower | loadable
        · omega
        · omega
        · exact loadable

theorem aligned_of_mem_memcpyWords {fuel : Nat} (member : w ∈ memcpyWords stop fuel reg)
    : wordOf w = w := by
  induction fuel generalizing reg with
  | zero => exact absurd member List.not_mem_nil
  | succ fuel ih =>
      by_cases more : reg < stop
      · rw [memcpyWords, if_pos more, List.mem_append, mem_savedWords] at member
        exact member.elim SavedBy.aligned ih
      · rw [memcpyWords, if_neg more] at member
        exact absurd member List.not_mem_nil

/-- Under its condition the block hook can load all its words. -/
theorem BlockReads.allLoadable (reads : BlockReads kernel addr size)
    (mapped : kernel.Mapped addr size.toNat) (fits : ¬Wraps addr size)
    : kernel.AllLoadable (blockWords addr size) := by
  by_cases above : CursorWraps addr size
  · exact fun w member => reads.wrapped above w (aligned_of_mem_memcpyWords member)
  · by_cases empty : size = 0
    · exact (blockReads_empty above empty).mpr (reads.empty above empty)
    · exact (blockReads_last mapped fits above empty).mpr (reads.last above empty)

/-- Where the cursor stops, the condition is needed. -/
theorem blockReads_of_allLoadable (loadable : kernel.AllLoadable (blockWords addr size))
    (mapped : kernel.Mapped addr size.toNat) (fits : ¬Wraps addr size)
    (below : ¬CursorWraps addr size)
    : BlockReads kernel addr size where
  wrapped := fun above => absurd above below
  empty := fun below empty => (blockReads_empty below empty).mp loadable
  last := fun below filled => (blockReads_last mapped fits below filled).mp loadable

end

-----------------------------------------------------------------------------------------
-- The hooks
-----------------------------------------------------------------------------------------

/-- However the hook ends, it does not end in a read fault. -/
def OnlyMapped {α : Type} (hook : RtM α) (s : Rt) : Prop :=
  Ends hook (fun _ _ => True) (fun e _ => e ≠ .fault false) s

section
variable {env : Env}

theorem Kernel.AllLoadable.mayLoad {kernel : Kernel} {words : List Address}
    (loadable : kernel.AllLoadable words) (allowed : Exit → Prop)
    : MayLoad allowed kernel words := by
  intro w member logged
  exact Or.inl ((loadable w member).resolve_left logged)

/-- The kernel's own counter can be read. -/
theorem allLoadable_nmiCount {kernel : Kernel} (counter : kernel.ReadableWord kernel.nmiCount)
    : kernel.AllLoadable (savedWords kernel.nmiCount) := by
  intro w member
  rw [savedWords_aligned kernel.nmiCount_aligned.symm, kernel.nmiCount_aligned,
    List.mem_singleton] at member
  exact Or.inr (member ▸ counter)

/-- Every exit but a read fault. -/
theorem allowsCommon_noReadFault : AllowsCommon (fun e : Exit => e ≠ .fault false) :=
  fun _ exit => exit.1

theorem onFail_onlyMapped (counter : env.kernel.ReadableWord env.kernel.nmiCount)
    (failed : SpecAssert)
    : LeavesBy (fun e : Exit => e ≠ .fault false) (env.onFail failed) :=
  onFail_leavesBy allowsCommon_noReadFault ((allLoadable_nmiCount counter).mayLoad _) failed

theorem memcpyLoop_leavesBy {allowed : Exit → Prop} {onFail : SpecAssert → RtM Unit}
    (common : AllowsCommon allowed) (diverges : allowed .diverged)
    (handled : ∀ failed, LeavesBy allowed (onFail failed)) {stop : Address} {fuel : Nat}
    {reg : Address} (load : MayLoad allowed env.kernel (memcpyWords stop fuel reg))
    : LeavesBy allowed (memcpyLoop env onFail stop fuel reg) := by
  induction fuel generalizing reg with
  | zero => exact leavesBy_throw diverges
  | succ fuel ih =>
      by_cases more : reg < stop
      · rw [memcpyWords, if_pos more] at load
        rw [memcpyLoop, if_pos more]
        refine leavesBy_bind (store_leavesBy common handled fun w member => ?_) fun _ => ih ?_
        · exact load w (List.mem_append_left _ member)
        · exact fun w member => load w (List.mem_append_right _ member)
      · rw [memcpyLoop, if_neg more]
        exact leavesBy_pure _

/-- A block hook whose words can be loaded does not fault on a read, whatever the state. -/
theorem hookMemcpy_onlyMapped {addr : Address} {size : Word}
    (counter : env.kernel.ReadableWord env.kernel.nmiCount)
    (loadable : env.kernel.AllLoadable (blockWords addr size))
    : LeavesBy (fun e : Exit => e ≠ .fault false) (hookMemcpy env env.onFail addr size) := by
  have common := allowsCommon_noReadFault
  have handled := @onFail_onlyMapped env counter
  have load := (allLoadable_nmiCount counter).mayLoad (fun e : Exit => e ≠ .fault false)
  refine leavesBy_get_bind fun s => leavesBy_ite (leavesBy_pure _) ?_
  refine leavesBy_get_bind fun s => leavesBy_ite (leavesBy_pure _) ?_
  refine leavesBy_bind (enterKspecemRt_leavesBy common handled load) fun irqFlags => ?_
  refine leavesBy_bind (memcpyLoop_leavesBy common nofun handled (loadable.mayLoad _)) fun _ => ?_
  exact leaveKspecemRt_leavesBy common handled load 134 irqFlags

/-- A mapped store or block is hooked without a read fault from any state if the words past
it can be read. In reachable states whose log takes the hook's words, only then.
-/
theorem writeHooks_onlyMapped_iff (counter : env.kernel.ReadableWord env.kernel.nmiCount)
    : (∀ a n,
        1 ≤ n →
        n ≤ 8 →
        env.kernel.Mapped a n →
        (StoreReads env.kernel a → ∀ s, OnlyMapped (hookStore env env.onFail a) s)
        ∧ ∀ m,
            Reached env.kernel m →
            m.phase = .running →
            m.rt.inSpeculativeEmulation = true →
            m.rt.log.Takes (savedWords a) →
            (OnlyMapped (hookStore env env.onFail a) m.rt ↔ StoreReads env.kernel a))
      ∧ ∀ addr size,
          env.kernel.Mapped addr size.toNat →
          ¬Wraps addr size →
          (BlockReads env.kernel addr size →
            ∀ s, OnlyMapped (hookMemcpy env env.onFail addr size) s)
          ∧ ∀ m,
              Reached env.kernel m →
              m.phase = .running →
              m.rt.inSpeculativeEmulation = true →
              m.rt.log.Takes (savedWords env.kernel.nmiCount ++ blockWords addr size) →
              (OnlyMapped (hookMemcpy env env.onFail addr size) m.rt
                ↔ BlockReads env.kernel addr size) := by
  constructor
  · intro a n positive _ mapped
    have sufficient (reads : StoreReads env.kernel a) (s : Rt)
        : OnlyMapped (hookStore env env.onFail a) s := by
      have loadable := (allLoadable_savedWords mapped positive).mpr reads
      exact hookStore_leavesBy allowsCommon_noReadFault (onFail_onlyMapped counter)
        (loadable.mayLoad _) s True.intro
    refine ⟨sufficient, ?_⟩
    intro m reached running inSpec takes
    refine ⟨?_, fun reads => sufficient reads m.rt⟩
    intro only
    rw [← allLoadable_savedWords mapped positive]
    have coherent := (reached.inv.running running).coherent
    -- every word is read before anything else can end the hook
    have run := @hookStore_readsAll env env.onFail a m.rt coherent inSpec takes
    exact ((run.and only).imp (fun _ _ kept => kept.1.1)
      (fun _ _ exit => absurd exit.1.1 exit.2)).const
  · intro addr size mapped fits
    have sufficient (reads : BlockReads env.kernel addr size) (s : Rt)
        : OnlyMapped (hookMemcpy env env.onFail addr size) s :=
      hookMemcpy_onlyMapped counter (reads.allLoadable mapped fits) s True.intro
    refine ⟨sufficient, ?_⟩
    intro m reached running inSpec takes
    refine ⟨?_, fun reads => sufficient reads m.rt⟩
    intro only
    -- a cursor that wraps reads more words than a log has room for
    have below : ¬CursorWraps addr size := by
      intro above
      have long : memcpyRounds + 1 ≤ (blockWords addr size).length :=
        length_memcpyWords_of_wraps above
      have room := takes.1
      rw [List.length_append] at room
      simp only [logCapacity, writelogMaxlen, memcpyRounds] at room long
      omega
    have coherent := (reached.inv.running running).coherent
    have run := @hookMemcpy_readsAll env env.onFail m.rt addr size coherent inSpec takes
    have loadable : env.kernel.AllLoadable (blockWords addr size) :=
      ((run.and only).imp (fun _ _ kept => kept.1)
        (fun _ _ exit => exit.1.resolve_left exit.2)).const
    exact blockReads_of_allLoadable loadable mapped fits below

end

/-- The sample kernel without the page at `0x601000`. -/
def sparseKernel : Kernel := { sampleKernel with readablePage := fun page => page ≠ 0x601 }

def sparseEnv : Env := { sampleEnv with kernel := sparseKernel }

theorem sparse_counter : sparseKernel.ReadableWord sparseKernel.nmiCount := fun i =>
  (by decide : ∀ i : Fin 8, sparseKernel.readable (0x8800 + BitVec.ofNat 64 i) = true) i

/-- The kernel without that page, booted and with an open episode. -/
def sparseRt : Rt := endState (commonLateInit sparseEnv sparseEnv.onFail sampleHeap) sampleStatic

def sparseOpen : Machine := .after (sampleBranch.run sparseKernel sparseRt)

theorem sparseOpen_reached : Reached sparseKernel sparseOpen := by
  have booted : Reached sparseKernel ⟨sparseRt, .running⟩ :=
    ⟨sparseEnv, sampleHeap, sampleSwitches, fun _ => 0, fun _ => 0, true, sparseRt, rfl,
      by decide, rfl, .refl⟩
  refine booted.after sampleBranch ?_ ?_
  · exact (by decide : ¬Within 0x70100 0x100 sparseKernel.swapBranchCondition)
  · decide

/-- The log of the open episode takes a few words below its arrays. -/
theorem sparse_takes {words : List Address} (few : words.length ≤ 2)
    (low : words.all (· < 0x3000000) = true)
    : sparseOpen.rt.log.Takes words := by
  have position : sparseOpen.rt.log.position = 1 := rfl
  refine ⟨?_, fun w member => ?_⟩
  · rw [position, logCapacity, writelogMaxlen]
    omega
  · have below : w < 0x3000000 := of_decide_eq_true (List.all_eq_true.mp low w member)
    exact ⟨Or.inl below, Or.inl (BitVec.lt_trans below (by decide))⟩

/-- The pages around the one that is not mapped are. -/
theorem sparse_mapped {start : Address} {length : Nat}
    (other : ∀ i : Fin length, sparseKernel.readable (start + BitVec.ofNat 64 i) = true)
    : sparseKernel.Mapped start length := by
  intro b within
  have byte := other ⟨(b - start).toNat, within⟩
  rwa [BitVec.ofNat_toNat, BitVec.setWidth_eq, BitVec.add_comm, BitVec.sub_add_cancel] at byte

/-- A store and a block that end at a page's last byte, hooked in every state; and in the open
episode a store of that byte alone and an empty block behind it.
-/
theorem writeHooks_onlyMapped_iff_sparse
    : sparseKernel.ReadableWord sparseKernel.nmiCount
      ∧ (∀ s, OnlyMapped (hookStore sparseEnv sparseEnv.onFail 0x600ff8) s)
      ∧ (OnlyMapped (hookStore sparseEnv sparseEnv.onFail 0x600fff) sparseOpen.rt
        ↔ StoreReads sparseKernel 0x600fff)
      ∧ (∀ s, OnlyMapped (hookMemcpy sparseEnv sparseEnv.onFail 0x600ff8 8) s)
      ∧ (OnlyMapped (hookMemcpy sparseEnv sparseEnv.onFail 0x601001 0) sparseOpen.rt
        ↔ BlockReads sparseKernel 0x601001 0) := by
  obtain ⟨stores, blocks⟩ := @writeHooks_onlyMapped_iff sparseEnv sparse_counter
  have fits : ¬Wraps 0x600ff8 8 ∧ ¬Wraps 0x601001 0 := by
    unfold Wraps
    decide
  have reads : BlockReads sparseKernel 0x600ff8 8 := by
    refine ⟨fun wraps => ?_, fun _ empty => ?_, fun _ _ => Or.inl (by decide)⟩
    · exact absurd wraps (by unfold CursorWraps; decide)
    · exact absurd empty (by decide)
  refine ⟨sparse_counter, ?_, ?_, ?_, ?_⟩
  · exact (stores 0x600ff8 1 (by decide) (by decide) (sparse_mapped (by decide))).1
      (Or.inl (by decide))
  · refine (stores 0x600fff 1 (by decide) (by decide) (sparse_mapped (by decide))).2 sparseOpen
      sparseOpen_reached (by decide) (by decide) ?_
    exact sparse_takes (by decide) (by decide)
  · exact (blocks 0x600ff8 8 (sparse_mapped (by decide)) fits.1).1 reads
  · refine (blocks 0x601001 0 (sparse_mapped (by decide)) fits.2).2 sparseOpen
      sparseOpen_reached (by decide) (by decide) ?_
    exact sparse_takes (by decide) (by decide)

/-- What the two hooks leave behind. -/
def sparseStored : Rt :=
  endState (hookStore sparseEnv sparseEnv.onFail 0x600fff) sparseOpen.rt

def sparseCopied : Rt :=
  endState (hookMemcpy sparseEnv sparseEnv.onFail 0x601001 0) sparseOpen.rt

/-- A store of the last byte of a page, and a block of length zero one byte into a page,
fault on reading the page that is not mapped.
-/
theorem writeHooks_read_unmapped
    : Reached sparseKernel sparseOpen
      ∧ sparseOpen.phase = .running
      ∧ sparseKernel.ReadableWord sparseKernel.nmiCount
      ∧ sparseKernel.Mapped 0x600fff 1
      ∧ ¬OnlyMapped (hookStore sparseEnv sparseEnv.onFail 0x600fff) sparseOpen.rt
      ∧ sparseKernel.Mapped 0x601001 0
      ∧ ¬OnlyMapped (hookMemcpy sparseEnv sparseEnv.onFail 0x601001 0) sparseOpen.rt := by
  refine ⟨sparseOpen_reached, by decide, sparse_counter, ?_, ?_, ?_, ?_⟩
  · intro b within
    have here : b = 0x600fff := by
      rw [Within, BitVec.toNat_sub] at within
      exact BitVec.eq_of_toNat_eq (by simp at within ⊢; omega)
    rw [here]
    decide
  · intro only
    exact only.of_error (e := .fault false) (t := sparseStored) rfl rfl
  · exact fun _ within => absurd within (Nat.not_lt_zero _)
  · intro only
    exact only.of_error (e := .fault false) (t := sparseCopied) rfl rfl

end Kasper
