import Kasper.Correctness.ExitKinds
import Kasper.Correctness.StateMachine

/-! Which words the block hook logs, for every start and every length.
The cursor and the end of `kspecem_memcpy` are 64-bit sums, so a range that ends at or above
the top of memory is logged at its start only.
-/

namespace Kasper

open ByteMemory Exits

/-- The words the loop passes to the log, in order. -/
def memcpyWords (stop : Address) : (fuel : Nat) → (reg : Address) → List Address
  | 0, _ => []
  | fuel + 1, reg => if reg < stop then savedWords reg ++ memcpyWords stop fuel (reg + 8) else []

theorem wordOf_add (a : Address) : wordOf (a + 8) = wordOf a + 8 := by
  apply BitVec.eq_of_toNat_eq
  simp only [toNat_wordOf, BitVec.toNat_add, BitVec.ofNat_eq_ofNat, BitVec.toNat_ofNat]
  omega

/-- The rounds from the cursor on that may pass without an entry. -/
def Kernel.slack (kernel : Kernel) (reg : Address) : Nat :=
  if kernel.PassesOver (wordOf reg) then
    if kernel.PassesOver (wordOf reg + 8) then 2 else 1
  else 0

/-- Two words are passed over, so a third in a row is logged. -/
theorem Kernel.slack_next {kernel : Kernel} {reg : Address}
    (passes : kernel.PassesOver (wordOf reg))
    : kernel.slack (reg + 8) + 1 ≤ kernel.slack reg := by
  by_cases second : kernel.PassesOver (wordOf reg + 8)
  · have third : ¬kernel.PassesOver (wordOf reg + 8 + 8) := by
      intro third
      rcases passes with first | first <;> rcases second with second | second <;>
        rcases third with third | third <;> bv_omega
    rw [slack, slack, wordOf_add, if_pos passes, if_pos second, if_neg third, if_pos second]
  · rw [slack, slack, wordOf_add, if_pos passes, if_neg second, if_neg second]

theorem Kernel.slack_le (kernel : Kernel) (reg : Address) : kernel.slack reg ≤ 2 := by
  unfold slack
  split <;> [split; skip] <;> omega

section
variable {env : Env} {X : Rider env.kernel} {u t : Rt}

/-- The loop ends before its fuel does and logs its words: of three rounds in a row one
fills an entry, and a full log rolls back. By induction on the fuel.
-/
theorem memcpyLoop_records {stop : Address} {fuel : Nat} {reg : Address}
    (spares : X.spares (restartSkips env true 0 0)) (inv : InvBusy env.kernel X u t)
    (inSpec : t.inSpeculativeEmulation = true)
    (enough : 3 * (logCapacity - t.log.position) + env.kernel.slack reg < fuel)
    : Ends (memcpyLoop env env.onFail stop fuel reg)
        (fun _ v =>
          InvBusy env.kernel X u v
          ∧ v.log.words = t.log.words ++ env.kernel.recorded (memcpyWords stop fuel reg))
        (fun e _ => e ≠ .diverged) t := by
  induction fuel generalizing t reg with
  | zero => exact absurd enough (Nat.not_lt_zero _)
  | succ fuel ih =>
      have common : AllowsCommon (fun e : Exit => e ≠ .diverged) := fun _ exit => exit.2
      have load (words : List Address)
          : MayLoad (fun e : Exit => e ≠ .diverged) env.kernel words :=
        fun _ _ _ => Or.inr (by simp)
      have handled := onFail_leavesBy common (load (savedWords env.kernel.nmiCount))
      by_cases more : reg < stop
      · rw [memcpyLoop, if_pos more, memcpyWords, if_pos more]
        have logged := @store_keeps env X env.onFail t reg t env.handler spares inv.1.busy inSpec
        have leaves := store_leavesBy common handled (load (savedWords reg)) t True.intro
        refine Ends.bind ((logged.and leaves).imp (fun _ _ kept => kept.1)
          (fun _ _ exit => exit.2)) ?_
        intro _ v kept
        obtain ⟨kept, admitted⟩ := kept
        have words := admitted.logged
        have length := congrArg List.length words
        rw [List.length_append, WriteLog.length_words, WriteLog.length_words] at length
        have room := kept.1.coherent.room
        refine (ih (kept.trans inv.2) (kept.2.inSpec.trans inSpec) ?_).imp ?_
          (fun _ _ exit => exit)
        -- the counter's word fills no entry, but its successor does
        · by_cases passes : env.kernel.PassesOver (wordOf reg)
          · have next := env.kernel.slack_next passes
            omega
          · have entry : wordOf reg ∈ env.kernel.recorded (savedWords reg) :=
              Kernel.mem_recorded.mpr ⟨mem_savedWords.mpr (Or.inl rfl), passes⟩
            have filled := List.length_pos_of_mem entry
            have small := env.kernel.slack_le (reg + 8)
            omega
        · intro _ w rest
          obtain ⟨kept, rest⟩ := rest
          refine ⟨kept, ?_⟩
          rw [rest, words, List.append_assoc, ← Kernel.recorded_append]
      · rw [memcpyLoop, if_neg more, memcpyWords, if_neg more]
        exact ⟨inv, by simp [Kernel.recorded]⟩

end

/-- The counter of `stop_nmi` is one aligned word that the log does not pass over. -/
theorem Kernel.recorded_nmiCount (kernel : Kernel)
    : kernel.recorded (savedWords kernel.nmiCount) = [kernel.nmiCount] := by
  have logged : ¬kernel.PassesOver kernel.nmiCount := fun passes =>
    passes.elim kernel.nmiCount_ne_wlPosition kernel.nmiCount_ne_writelogEnabled
  rw [savedWords_aligned kernel.nmiCount_aligned.symm, kernel.nmiCount_aligned,
    kernel.recorded_logged logged]

section
variable {env : Env} {X : Rider env.kernel} {onFail : SpecAssert → RtM Unit} {s : Rt}

/-- `InvBusy` with the words of the log. -/
def InvWords (X : Rider env.kernel) (s : Rt) (words : List Address) (t : Rt) : Prop :=
  InvBusy env.kernel X s t ∧ t.log.words = words

variable {words : List Address}

theorem InvWords.section_ {t : Rt} (h : InvWords X s words t) (isInRt irqsEnabled : Bool)
    : InvWords X s words { t with isInRt, irqsEnabled } :=
  ⟨h.1.section_ isInRt irqsEnabled, h.2⟩

theorem InvWords.inSpec {t : Rt} (h : InvWords X s words t)
    (inSpec : s.inSpeculativeEmulation = true)
    : t.inSpeculativeEmulation = true :=
  h.1.2.inSpec.trans inSpec

/-- An assertion that fails records the failure and leaves the log alone. -/
theorem ltAssert_words (handler : Handler env.kernel onFail) {holds : Prop}
    [Decidable holds] {file condition : String} {line : Nat}
    (other : ¬SpecAssert.OfStateMachine { file, line, condition })
    : Keeps (InvWords X s words) (InvExit env.kernel X)
        (ltAssert onFail holds file line condition) := by
  intro t inv
  refine (handler.ltAssert inv.1 other).imp ?_ (fun _ _ exit => exit)
  intro _ v kept
  obtain ⟨kept, same⟩ := kept
  rcases same with ⟨_, rfl⟩ | ⟨_, _, _, rfl⟩
  · exact ⟨kept, inv.2⟩
  · exact ⟨kept, inv.2⟩

theorem localIrqSave_words
    : Keeps (InvWords X s words) (InvExit env.kernel X) localIrqSave :=
  keeps_get_bind fun t inv =>
    keeps_bind (keeps_modify fun t inv => inv.section_ t.isInRt false)
      (fun _ => keeps_pure _) t inv

/-- The store hook logs its words in speculation. -/
theorem hookStore_records {a : Address} {t : Rt} (handler : Handler env.kernel onFail)
    (spares : X.spares (restartSkips env true 0 0)) (inv : InvWords X s words t)
    (inSpec : s.inSpeculativeEmulation = true)
    : Ends (hookStore env onFail a)
        (fun _ v => InvWords X s (words ++ env.kernel.recorded (savedWords a)) v)
        (InvExit env.kernel X) t := by
  have coherent := inv.1.1.coherent
  have enabled : t.log.enabled = true := coherent.coupled.trans (inv.inSpec inSpec)
  rw [hookStore, ends_bind, ends_get, if_neg (by simp [enabled]), ends_bind, ends_get,
    if_neg (by simp [coherent.initDone])]
  have enters : Keeps (InvWords X s words) (InvExit env.kernel X) enterKspecemNonmiRt :=
    keeps_bind (keeps_modify fun t inv => inv.section_ true t.irqsEnabled)
      fun _ => localIrqSave_words
  refine Ends.bind (enters t inv) ?_
  intro irqFlags v entered
  refine Ends.bind (store_keeps handler spares entered.1 (entered.inSpec inSpec)) ?_
  intro _ v' stored
  obtain ⟨stored, admitted⟩ := stored
  have logged := admitted.logged
  rw [entered.2] at logged
  exact
    keeps_get_bind
      (fun t inv =>
        keeps_bind (ltAssert_words handler (by decide))
          (fun _ =>
            keeps_bind (keeps_modify fun t inv => inv.section_ t.isInRt (irqsEnabledIn irqFlags))
              fun _ => keeps_modify fun t inv => inv.section_ false t.irqsEnabled)
          t inv)
      v' ⟨stored, logged⟩

/-- `stop_nmi` and `restart_nmi` log the counter's word. -/
theorem countNmi_records {t : Rt} (handler : Handler env.kernel onFail)
    (spares : X.spares (restartSkips env true 0 0)) (inv : InvWords X s words t)
    (inSpec : s.inSpeculativeEmulation = true) (delta : Word)
    : Ends (countNmi env onFail delta)
        (fun _ v => InvWords X s (words ++ [env.kernel.nmiCount]) v)
        (InvExit env.kernel X) t := by
  have stored :=
    @hookStore_records env X onFail s words env.kernel.nmiCount t handler spares inv inSpec
  refine Ends.bind (stored.and (hookStore_keeps handler spares inv.1)
    |>.imp (fun _ _ kept => kept) (fun _ _ exit => exit.1)) ?_
  intro _ v kept
  obtain ⟨⟨_, logged⟩, kept, saved⟩ := kept
  rw [env.kernel.recorded_nmiCount] at logged
  refine ⟨⟨⟨kept.1.coherent.counted delta, kept.1.consistent.congr rfl, ?_⟩, ?_⟩, logged⟩
  · exact X.counted v delta kept.1.coherent kept.1.holds saved
  · exact kept.2.trans ⟨rfl, id, fun _ => id⟩

theorem enterKspecemRt_records {t : Rt} (handler : Handler env.kernel onFail)
    (spares : X.spares (restartSkips env true 0 0)) (inv : InvWords X s words t)
    (inSpec : s.inSpeculativeEmulation = true)
    : Ends (enterKspecemRt env onFail)
        (fun _ v => InvWords X s (words ++ [env.kernel.nmiCount]) v)
        (InvExit env.kernel X) t := by
  rw [enterKspecemRt, setRt, ends_bind, ends_modify]
  refine Ends.bind (localIrqSave_words _ (inv.section_ true t.irqsEnabled)) ?_
  intro irqFlags v saved
  exact Ends.bind (countNmi_records handler spares saved inSpec 1) (fun _ _ kept => kept)

theorem leaveKspecemRt_records {t : Rt} (handler : Handler env.kernel onFail)
    (spares : X.spares (restartSkips env true 0 0)) (inv : InvWords X s words t)
    (inSpec : s.inSpeculativeEmulation = true) (line : Nat) (irqFlags : Word)
    (other
      : ¬SpecAssert.OfStateMachine ⟨"kspecem_interface.c", line, "irqs_disabled()"⟩)
    : Ends (leaveKspecemRt env onFail line irqFlags)
        (fun _ v => InvWords X s (words ++ [env.kernel.nmiCount]) v)
        (InvExit env.kernel X) t := by
  rw [leaveKspecemRt, ends_bind, ends_get]
  refine Ends.bind (ltAssert_words handler other t inv) ?_
  intro _ v kept
  refine Ends.bind (countNmi_records handler spares kept inSpec (-1)) ?_
  intro _ v' counted
  exact (counted.section_ v'.isInRt (irqsEnabledIn irqFlags)).section_ false _

/-- In speculation the block hook ends; when it returns, it has logged the counter's word,
the words of its loop, and the counter's word again.
-/
theorem hookMemcpy_records {addr : Address} {size : Word}
    (spares : X.spares (restartSkips env true 0 0)) (inv : Inv env.kernel X s)
    (inSpec : s.inSpeculativeEmulation = true)
    : Ends (hookMemcpy env env.onFail addr size)
        (fun _ t =>
          InvWords X s
            (s.log.words ++ [env.kernel.nmiCount]
              ++ env.kernel.recorded
                (memcpyWords (addr + size) (memcpyRounds + 1) (alignDown 2 addr))
              ++ [env.kernel.nmiCount])
            t)
        (fun e _ => e ≠ .diverged) s := by
  have common : AllowsCommon (fun e : Exit => e ≠ .diverged) := fun _ exit => exit.2
  have load : MayLoad (fun e : Exit => e ≠ .diverged) env.kernel (savedWords env.kernel.nmiCount) :=
    fun _ _ _ => Or.inr (by simp)
  have handled := onFail_leavesBy common load
  have enabled : s.log.enabled = true := inv.coherent.coupled.trans inSpec
  rw [hookMemcpy, ends_bind, ends_get, if_neg (by simp [enabled]), ends_bind, ends_get,
    if_neg (by simp [inv.coherent.initDone])]
  have enters := (@enterKspecemRt_records env X env.onFail s s.log.words s env.handler spares
    ⟨inv.busy, rfl⟩ inSpec).and (enterKspecemRt_leavesBy common handled load s True.intro)
  refine Ends.bind (enters.imp (fun _ _ kept => kept.1) (fun _ _ exit => exit.2)) ?_
  intro irqFlags t entered
  have enough
      : 3 * (logCapacity - t.log.position) + env.kernel.slack (alignDown 2 addr)
        < memcpyRounds + 1 := by
    have small := env.kernel.slack_le (alignDown 2 addr)
    simp only [logCapacity, writelogMaxlen, memcpyRounds]
    omega
  refine Ends.bind (memcpyLoop_records spares entered.1 (entered.inSpec inSpec) enough) ?_
  intro _ v looped
  obtain ⟨kept, logged⟩ := looped
  rw [entered.2] at logged
  have leaves := (@leaveKspecemRt_records env X env.onFail s _ v env.handler spares
    ⟨kept, logged⟩ inSpec 134 irqFlags (by decide)).and
      (leaveKspecemRt_leavesBy common handled load 134 irqFlags v True.intro)
  exact leaves.imp (fun _ _ kept => kept.1) (fun _ _ exit => exit.2)

end

/-- The aligned word holds a byte of `[addr, addr + size)` below the top of memory. -/
def Overlapped (addr : Address) (size : Word) (w : Address) : Prop :=
  ∃ b : Address, addr ≤ b ∧ b.toNat < addr.toNat + size.toNat ∧ wordOf b = w

/-- The range ends at the top of memory or above. -/
def Wraps (addr : Address) (size : Word) : Prop :=
  2 ^ 64 ≤ addr.toNat + size.toNat

/-- The block hook does not log the word: it is one of the two that are passed over, or the
range reaches the top of memory and the word is not where the loop starts. The counter's
word is logged in any case.
-/
def Missed (kernel : Kernel) (addr : Address) (size : Word) (w : Address) : Prop :=
  w ≠ kernel.nmiCount
  ∧ (kernel.PassesOver w
    ∨ (Wraps addr size ∧ ¬(alignDown 2 addr < addr + size ∧ SavedBy (alignDown 2 addr) w)))

variable {addr stop reg b w : Address} {size : Word}

theorem memcpyWords_done (past : ¬reg < stop) (fuel : Nat) : memcpyWords stop fuel reg = [] := by
  cases fuel with
  | zero => rfl
  | succ fuel => exact if_neg past

theorem toNat_alignDown_two (a : Address) : (alignDown 2 a).toNat = a.toNat / 4 * 4 :=
  toNat_alignDown 2 a

/-- The loop reaches the words of every byte from its cursor up to its end, by induction on
the fuel.
-/
theorem mem_memcpyWords {fuel : Nat} (low : reg ≤ b) (high : b < stop)
    (enough : (b.toNat - reg.toNat) / 8 < fuel)
    : wordOf b ∈ memcpyWords stop fuel reg := by
  induction fuel generalizing reg with
  | zero => exact absurd enough (Nat.not_lt_zero _)
  | succ fuel ih =>
      rw [BitVec.le_def] at low
      rw [BitVec.lt_def] at high
      have more : reg < stop := BitVec.lt_def.mpr (Nat.lt_of_le_of_lt low high)
      rw [memcpyWords, if_pos more, List.mem_append]
      by_cases near : Within reg 8 b
      · exact Or.inl (mem_savedWords.mpr (savedBy_of_within near (Nat.le_refl 8)))
      · rw [Within, BitVec.toNat_sub] at near
        have far : reg.toNat + 8 ≤ b.toNat := by omega
        have next : (reg + 8).toNat = reg.toNat + 8 := by
          rw [BitVec.toNat_add]
          simp only [BitVec.ofNat_eq_ofNat, BitVec.toNat_ofNat]
          omega
        refine Or.inr (ih ?_ ?_)
        · rw [BitVec.le_def, next]
          exact far
        · omega

/-- Below the top of memory the loop reaches every word of its range. -/
theorem mem_memcpyWords_of_overlapped (overlapped : Overlapped addr size w)
    (fits : ¬Wraps addr size)
    : w ∈ memcpyWords (addr + size) (memcpyRounds + 1) (alignDown 2 addr) := by
  obtain ⟨b, low, high, rfl⟩ := overlapped
  rw [Wraps] at fits
  rw [BitVec.le_def] at low
  have start := toNat_alignDown_two addr
  refine mem_memcpyWords ?_ ?_ ?_
  · rw [BitVec.le_def]
    omega
  · rw [BitVec.lt_def, BitVec.toNat_add]
    omega
  · have bound := b.isLt
    simp only [memcpyRounds]
    omega

/-- Where the range reaches the top of memory, the loop goes no further than its start. -/
theorem mem_memcpyWords_wraps_iff (overlapped : Overlapped addr size w)
    (wraps : Wraps addr size)
    : w ∈ memcpyWords (addr + size) (memcpyRounds + 1) (alignDown 2 addr)
      ↔ alignDown 2 addr < addr + size ∧ SavedBy (alignDown 2 addr) w := by
  obtain ⟨b, low, high, rfl⟩ := overlapped
  rw [Wraps] at wraps
  rw [BitVec.le_def] at low
  have start := toNat_alignDown_two addr
  have stop : (addr + size).toNat + 2 ^ 64 = addr.toNat + size.toNat := by
    have small := addr.isLt
    have bounded := size.isLt
    rw [BitVec.toNat_add]
    omega
  rw [memcpyWords]
  by_cases more : alignDown 2 addr < addr + size
  · rw [if_pos more, List.mem_append, mem_savedWords]
    have bounded := size.isLt
    have top := b.isLt
    by_cases last : (alignDown 2 addr).toNat + 8 < 2 ^ 64
    · have next : (alignDown 2 addr + 8).toNat = (alignDown 2 addr).toNat + 8 := by
        rw [BitVec.toNat_add]
        simp only [BitVec.ofNat_eq_ofNat, BitVec.toNat_ofNat]
        omega
      have past : ¬alignDown 2 addr + 8 < addr + size := by
        rw [BitVec.lt_def, next]
        omega
      rw [memcpyWords_done past memcpyRounds]
      simp [more]
    · have saved : SavedBy (alignDown 2 addr) (wordOf b) := by
        refine savedBy_of_within ?_ (Nat.le_refl 8)
        rw [Within, BitVec.toNat_sub]
        omega
      exact ⟨fun _ => ⟨more, saved⟩, fun _ => Or.inl saved⟩
  · rw [if_neg more]
    simp [more]

/-- Among the words of the range, the loop reaches and the log takes those not missed. -/
theorem logged_iff_not_missed {kernel : Kernel} (overlapped : Overlapped addr size w)
    : w ∈ kernel.recorded (memcpyWords (addr + size) (memcpyRounds + 1) (alignDown 2 addr))
        ∨ w = kernel.nmiCount
      ↔ ¬Missed kernel addr size w := by
  rw [Kernel.mem_recorded]
  by_cases wraps : Wraps addr size
  · rw [mem_memcpyWords_wraps_iff overlapped wraps, Missed]
    tauto
  · have reached := mem_memcpyWords_of_overlapped overlapped wraps
    rw [Missed]
    tauto

/-- In every reachable speculative state and for every start and length, the block hook
never diverges, and when it returns it has logged every word of the range below the top of
memory exactly if the words it misses were logged before.
-/
theorem hookMemcpy_covers_iff {env : Env} {m : Machine} (reached : Reached env.kernel m)
    (running : m.phase = .running) (inSpec : m.rt.inSpeculativeEmulation = true)
    (addr : Address) (size : Word)
    : Ends (hookMemcpy env env.onFail addr size)
        (fun _ t =>
          (∀ w, Overlapped addr size w → t.log.Has w)
          ↔ ∀ w, Overlapped addr size w → Missed env.kernel addr size w → m.rt.log.Has w)
        (fun e _ => e ≠ .diverged) m.rt := by
  have inv := reached.inv.running running
  refine (hookMemcpy_records (X := Rider.trivial env.kernel) True.intro inv inSpec).imp ?_
    (fun _ _ exit => exit)
  intro _ t logged
  have has (w : Address) (overlapped : Overlapped addr size w)
      : t.log.Has w ↔ m.rt.log.Has w ∨ ¬Missed env.kernel addr size w := by
    rw [← WriteLog.mem_words, logged.2, ← logged_iff_not_missed overlapped, ← WriteLog.mem_words]
    simp only [List.mem_append, List.mem_singleton]
    tauto
  constructor
  · intro covered w overlapped missed
    exact ((has w overlapped).mp (covered w overlapped)).resolve_right (fun hit => hit missed)
  · intro before w overlapped
    rw [has w overlapped]
    by_cases missed : Missed env.kernel addr size w
    · exact Or.inl (before w overlapped missed)
    · exact Or.inr missed

theorem hookMemcpy_covers_iff_sample
    : Ends (hookMemcpy sampleEnv sampleEnv.onFail 0x600003 20)
        (fun _ t =>
          (∀ w, Overlapped 0x600003 20 w → t.log.Has w)
          ↔ ∀ w,
              Overlapped 0x600003 20 w
              → Missed sampleKernel 0x600003 20 w
              → sampleOpen.rt.log.Has w)
        (fun e _ => e ≠ .diverged) sampleOpen.rt :=
  @hookMemcpy_covers_iff sampleEnv sampleOpen sampleOpen_reached rfl rfl 0x600003 20

/-- The state after the block hook was called with a length of -8. -/
def sampleUnderflow : Rt :=
  endState (hookMemcpy sampleEnv sampleEnv.onFail 0x600000 (-8)) sampleOpen.rt

/-- With an underflowed length the end of the range wraps below its start, and the hook
returns without a word of it in the log.
-/
theorem hookMemcpy_logs_nothing
    : Reached sampleKernel sampleOpen
      ∧ hookMemcpy sampleEnv sampleEnv.onFail 0x600000 (-8) sampleOpen.rt = .ok () sampleUnderflow
      ∧ Overlapped 0x600000 (-8) 0x600000
      ∧ ¬sampleUnderflow.log.Has 0x600000 := by
  refine ⟨sampleOpen_reached, rfl, ⟨0x600000, by decide, by decide, by decide⟩, ?_⟩
  rw [← WriteLog.mem_words]
  decide

end Kasper
