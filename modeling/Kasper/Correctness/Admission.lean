import Kasper.Correctness.LiveFrames

/-! What the log accepts against what the replay can restore.
The write side keeps words out of the log arrays and passes over two variables; the replay
side asks for words clear of the arrays, of the pointers to them, and of the log's position.
-/

namespace Kasper

open ByteMemory Exits

/-- One call of `kspecem_write_wl`. -/
structure LogCall where
  frames : Frames
  addr : Address

def LogCall.run (kernel : Kernel) (task : Task) (call : LogCall) : RtM Unit :=
  let env : Env := { kernel, frames := call.frames, task }
  writeWl env env.onFail call.addr

def runLogCalls (kernel : Kernel) (task : Task) : List LogCall → RtM Unit
  | [] => pure ()
  | call :: rest => do
      call.run kernel task
      runLogCalls kernel task rest

/-- The words the calls pass to the log. -/
def callWords (calls : List LogCall) : List Address :=
  calls.flatMap fun call => savedWords call.addr

theorem mem_callWords {calls : List LogCall} {w : Address}
    : w ∈ callWords calls ↔ ∃ call ∈ calls, SavedBy call.addr w := by
  simp only [callWords, List.mem_flatMap, mem_savedWords]

section
variable {kernel : Kernel} {task : Task} {u s : Rt}

/-- Calls that all return have their words admitted, by induction on the calls. -/
theorem runLogCalls_admits {calls : List LogCall}
    (inv : InvBusy kernel (Rider.trivial kernel) u s)
    (inSpec : s.inSpeculativeEmulation = true)
    : Ends (runLogCalls kernel task calls)
        (fun _ t =>
          InvBusy kernel (Rider.trivial kernel) u t
          ∧ Busy s t
          ∧ Admitted kernel (callWords calls) s t)
        (fun _ _ => True) s := by
  induction calls generalizing s with
  | nil =>
      refine ⟨inv, .refl s, ?_, rfl, rfl, fun _ => nofun⟩
      simp [callWords, Kernel.recorded]
  | cons call rest ih =>
      have handler := Env.handler { kernel, frames := call.frames, task }
      refine Ends.bind ((store_keeps handler (X := Rider.trivial kernel) True.intro inv.1.busy
        inSpec).imp (fun _ _ kept => kept) (fun _ _ _ => True.intro)) ?_
      intro _ t stored
      obtain ⟨kept, admitted⟩ := stored
      refine (ih (kept.trans inv.2) (kept.2.inSpec.trans inSpec)).imp ?_ (fun _ _ exit => exit)
      intro _ v later
      obtain ⟨keptAll, busy, rest⟩ := later
      exact ⟨keptAll, kept.2.trans busy, admitted.trans rest kept.2.inRestart⟩

end

/-- The word holds the array's first byte. -/
def Straddles (w base : Address) : Prop :=
  w ≤ base ∧ base < w + 8

/-- What the write side leaves to luck: the word is clear of the two pointer variables, of
the bytes around the log's position and of the arrays' first bytes, and while a stale restart
flag silences the assertions, of the arrays.
-/
structure Restorable (kernel : Kernel) (s : Rt) (w : Address) : Prop where
  writelogAddrs : overlaps w 8 kernel.writelogAddrs 8 = false
  writelogData : overlaps w 8 kernel.writelogData 8 = false
  wlPosition : overlaps w 8 kernel.wlPosition 8 = false
  addrsStart : ¬Straddles w s.log.addrs.base
  dataStart : ¬Straddles w s.log.data.base
  outside : s.isInRestart = true → s.log.Outside w

section
variable {kernel : Kernel} {log : WriteLog} {s t : Rt} {w base : Address}

/-- A word outside an array overlaps it at the array's first byte only. -/
theorem overlaps_outside {n : Nat} (outside : w < base ∨ w ≥ base + BitVec.ofNat 64 n)
    : overlaps w 8 base n = false ↔ ¬Straddles w base := by
  have beyond : ¬(base ≤ w ∧ base + BitVec.ofNat 64 n > w) := by
    rintro ⟨low, high⟩
    rcases outside with before | after
    · exact BitVec.not_lt.mpr low before
    · exact BitVec.not_lt.mpr after high
  have eight : (BitVec.ofNat 64 8 : Address) = 8 := rfl
  rw [← Bool.not_eq_true, overlaps, Straddles]
  simp only [Bool.or_eq_true, Bool.and_eq_true, decide_eq_true_eq, eight, beyond, or_false]

/-- A word inside an array overlaps it. -/
theorem outside_of_overlaps {n : Nat} (clear : overlaps w 8 base n = false)
    : w < base ∨ w ≥ base + BitVec.ofNat 64 n := by
  by_contra inside
  rw [not_or, BitVec.not_lt, ge_iff_le, BitVec.not_le] at inside
  have overlap : overlaps w 8 base n = true := by
    simp only [overlaps, Bool.or_eq_true, Bool.and_eq_true, decide_eq_true_eq]
    exact Or.inr inside
  rw [overlap] at clear
  contradiction

/-- For a word the write side lets through, the two admission tests agree exactly where it
is restorable.
-/
theorem canRestore_iff (admitted : s.isInRestart = false → s.log.Outside w)
    : canRestore kernel s.log w = true ↔ Restorable kernel s w := by
  simp only [canRestore, Bool.and_eq_true, Bool.not_eq_true']
  constructor
  · rintro ⟨⟨⟨⟨addrs, data⟩, writelogAddrs⟩, writelogData⟩, wlPosition⟩
    have outside : s.log.Outside w := ⟨outside_of_overlaps addrs, outside_of_overlaps data⟩
    exact ⟨writelogAddrs, writelogData, wlPosition, (overlaps_outside outside.1).mp addrs,
      (overlaps_outside outside.2).mp data, fun _ => outside⟩
  · intro restorable
    have outside : s.log.Outside w := by
      cases restarts : s.isInRestart with
      | true => exact restorable.outside restarts
      | false => exact admitted restarts
    exact ⟨⟨⟨⟨(overlaps_outside outside.1).mpr restorable.addrsStart,
      (overlaps_outside outside.2).mpr restorable.dataStart⟩, restorable.writelogAddrs⟩,
      restorable.writelogData⟩, restorable.wlPosition⟩

/-- Only the places of the arrays decide what can be restored. -/
theorem canRestore_congr {other : WriteLog} (addrs : other.addrs.base = log.addrs.base)
    (data : other.data.base = log.data.base)
    : canRestore kernel other w = canRestore kernel log w := by
  rw [canRestore, canRestore, addrs, data]

/-- The entries added since `s` can all be restored exactly if their words are restorable. -/
theorem Admitted.canRestore_iff {words : List Address} (admitted : Admitted kernel words s t)
    : (∀ w ∈ t.log.words.drop s.log.position, canRestore kernel t.log w = true)
      ↔ ∀ w ∈ words, ¬kernel.PassesOver w → Restorable kernel s w := by
  have added : t.log.words.drop s.log.position = kernel.recorded words := by
    rw [admitted.logged, ← WriteLog.length_words, List.drop_left]
  simp only [added, Kernel.mem_recorded, canRestore_congr admitted.addrsBase admitted.dataBase,
    and_imp]
  refine forall_congr' fun w => forall_congr' fun member => forall_congr' fun _ => ?_
  exact Kasper.canRestore_iff fun idle => admitted.outside idle w member

end

/-- The failure of `lt_assert(kspecem_can_restore(addr))`. -/
def canRestoreFailed : SpecAssert := ⟨"kspecem_undolog.c", 149, "kspecem_can_restore(addr)"⟩

/-- What `kspecem_can_restore` protects: start and length of each object. -/
def Protects (kernel : Kernel) (log : WriteLog) (base : Address) (n : Nat) : Prop :=
  (base = log.addrs.base ∧ n = writelogBytes)
  ∨ (base = log.data.base ∧ n = writelogBytes)
  ∨ (base = kernel.writelogAddrs ∧ n = 8)
  ∨ (base = kernel.writelogData ∧ n = 8)
  ∨ (base = kernel.wlPosition ∧ n = 8)

/-- A replay that began in `s` has not failed that assertion, and no protected object has
changed. No object reaches the end of the address space.
-/
def Spared (kernel : Kernel) (s t : Rt) : Prop :=
  (canRestoreFailed ∈ t.asserted → canRestoreFailed ∈ s.asserted)
  ∧ ∀ base n,
      Protects kernel s.log base n →
      base.toNat + n < 2 ^ 64 →
      ∀ b, Within base n b → t.mem b = s.mem b

section
variable {env : Env} {s t : Rt} {frameaddr regs : Address}

/-- During the replay of `s` the assertion has not failed yet. -/
structure Passing (s t : Rt) : Prop where
  inSpec : t.inSpeculativeEmulation = true
  inRestart : t.isInRestart = true
  addrs : t.log.addrs = s.log.addrs
  data : t.log.data = s.log.data
  passed : canRestoreFailed ∈ t.asserted → canRestoreFailed ∈ s.asserted

/-- Another assertion does not count. -/
theorem Passing.ltAssert {holds : Prop} [Decidable holds] {file condition : String}
    {line : Nat} (passing : Passing s t) (other : line ≠ 149)
    : Ends (ltAssert env.onFail holds file line condition) (fun _ u => Passing s u)
        (fun _ u => canRestoreFailed ∈ u.asserted → canRestoreFailed ∈ s.asserted) t := by
  have quiet := kspecemPanic_quiet env env.kernel.panicDepth_pos
  refine quiet.ends_ltAssert passing.inSpec passing.inRestart passing ?_ (fun no => no.elim)
  refine ⟨passing.inSpec, passing.inRestart, passing.addrs, passing.data, ?_⟩
  intro member
  rcases List.mem_cons.mp member with same | older
  · exact absurd (congrArg SpecAssert.line same).symm other
  · exact passing.passed older

/-- A replay of entries that can be restored passes the assertion, by induction on the
entries left.
-/
theorem restoreLoop_passes {n : Nat} (i : Nat)
    (restorable : ∀ i < n, canRestore env.kernel s.log (s.log.addrs.cell i) = true)
    (passing : Passing s t)
    : Ends (restoreLoop env env.onFail frameaddr regs n i) (fun _ u => Passing s u)
        (fun _ u => canRestoreFailed ∈ u.asserted → canRestoreFailed ∈ s.asserted) t := by
  induction n generalizing i t with
  | zero => exact passing
  | succ n ih =>
      have rest {u : Rt} (passing : Passing s u) :=
        ih (t := u) (i + 1) (fun i below => restorable i (Nat.lt_succ_of_lt below)) passing
      have counted : Passing s { t with log := { t.log with position := n } } :=
        ⟨passing.inSpec, passing.inRestart, passing.addrs, passing.data, passing.passed⟩
      rw [restoreLoop, ends_bind, ends_modify]
      generalize { t with log := { t.log with position := n } } = u at counted ⊢
      rw [if_neg env.frames.addrSlot_ne, ends_bind, ends_get, ends_bind, ends_fetch,
        counted.addrs]
      refine ⟨fun _ => ?_, fun _ => counted.passed⟩
      generalize word : s.log.addrs.cell n = addr
      by_cases frame : env.frames.rsp < addr ∧ addr ≤ frameaddr
      · rw [if_pos frame]
        exact rest counted
      rw [if_neg frame]
      refine Ends.bind (counted.ltAssert (by decide)) (fun _ u counted => ?_)
      by_cases interrupt : regs ≠ 0 ∧ addr ≥ regs ∧ addr < regs + BitVec.ofNat 64 sizeofPtregs
      · rw [if_pos interrupt]
        exact rest counted
      rw [if_neg interrupt, ends_bind, ends_get, ends_bind]
      refine ends_ltAssert_pos ?_ ?_
      · rw [canRestore_congr (congrArg _ counted.addrs) (congrArg _ counted.data), ← word]
        exact restorable n (Nat.lt_succ_self n)
      refine Ends.bind (counted.ltAssert (by decide)) (fun _ u counted => ?_)
      refine Ends.bind (counted.ltAssert (by decide)) (fun _ u counted => ?_)
      rw [ends_bind, ends_get, ends_bind, ends_fetch, counted.data]
      refine ⟨fun _ => ?_, fun _ => counted.passed⟩
      rw [ends_bind]
      refine ends_storeWord (fun _ => ?_) (fun _ => counted.passed)
      have stored : Passing s
          { u with mem := writeWord u.mem addr (s.log.data.cell n) } :=
        ⟨counted.inSpec, counted.inRestart, counted.addrs, counted.data, counted.passed⟩
      exact Ends.bind (stored.ltAssert (by decide)) (fun _ u counted => rest counted)

theorem restoreWritelog_passes
    (restorable : ∀ i < s.log.position, canRestore env.kernel s.log (s.log.addrs.cell i) = true)
    (inSpec : s.inSpeculativeEmulation = true) (stats : Statistics)
    : Ends (restoreWritelog env env.onFail frameaddr regs)
        (fun _ u => canRestoreFailed ∈ u.asserted → canRestoreFailed ∈ s.asserted)
        (fun _ u => canRestoreFailed ∈ u.asserted → canRestoreFailed ∈ s.asserted)
        (s.restarting stats) := by
  have start : Passing s (s.restarting stats) := ⟨inSpec, rfl, rfl, rfl, id⟩
  rw [restoreWritelog, ends_bind, ends_get]
  refine Ends.bind (start.ltAssert (by decide)) (fun _ t passing => ?_)
  refine Ends.bind (restoreLoop_passes 0 restorable passing) (fun r t passing => ?_)
  cases r with
  | none => exact passing.passed
  | some i =>
      refine Ends.bind (passing.ltAssert (by decide)) (fun _ t passing => ?_)
      rw [ends_bind, ends_get]
      exact Ends.bind (passing.ltAssert (by decide)) (fun _ t passing => passing.passed)

/-- A word that can be restored holds no byte of a protected object. -/
theorem ne_of_canRestore {kernel : Kernel} {log : WriteLog} {w base b : Address} {n : Nat}
    (restorable : canRestore kernel log w = true) (protects : Protects kernel log base n)
    (fits : base.toNat + n < 2 ^ 64) (inside : Within base n b)
    : w ≠ wordOf b := by
  rintro rfl
  have long : 8 ≤ n := by
    rcases protects with ⟨_, rfl⟩ | ⟨_, rfl⟩ | ⟨_, rfl⟩ | ⟨_, rfl⟩ | ⟨_, rfl⟩ <;> decide
  have clear : overlaps (wordOf b) 8 base n = false := by
    simp only [canRestore, Bool.and_eq_true, Bool.not_eq_true'] at restorable
    obtain ⟨⟨⟨⟨addrs, data⟩, writelogAddrs⟩, writelogData⟩, wlPosition⟩ := restorable
    rcases protects with ⟨rfl, rfl⟩ | ⟨rfl, rfl⟩ | ⟨rfl, rfl⟩ | ⟨rfl, rfl⟩ | ⟨rfl, rfl⟩
    · exact addrs
    · exact data
    · exact writelogAddrs
    · exact writelogData
    · exact wlPosition
  simp only [overlaps, Bool.or_eq_false_iff, Bool.and_eq_false_iff, decide_eq_false_iff_not,
    gt_iff_lt, BitVec.lt_def, BitVec.le_def, BitVec.toNat_add, BitVec.toNat_ofNat,
    toNat_wordOf] at clear
  rw [Within, BitVec.toNat_sub] at inside
  have bound := b.isLt
  omega

/-- A log whose entries can all be restored is replayed without failing the assertion and
without a change to a protected object.
-/
theorem restoreWritelog_spared (coherent : Coherent env.kernel s)
    (inSpec : s.inSpeculativeEmulation = true)
    (restorable : ∀ w ∈ s.log.words, canRestore env.kernel s.log w = true)
    (stats : Statistics)
    : Ends (restoreWritelog env env.onFail frameaddr regs) (fun _ u => Spared env.kernel s u)
        (fun _ u => Spared env.kernel s u) (s.restarting stats) := by
  have entries (i : Nat) (below : i < s.log.position)
      : canRestore env.kernel s.log (s.log.addrs.cell i) = true :=
    restorable _ (WriteLog.mem_words.mpr ⟨i, below, rfl⟩)
  have unchanged {n : Nat} {mem : Memory}
      (replayed : Replayed (skipped env.frames.rsp frameaddr regs) s n mem) (base : Address)
      (size : Nat) (protects : Protects env.kernel s.log base size)
      (fits : base.toNat + size < 2 ^ 64) (b : Address) (inside : Within base size b)
      : mem b = s.mem b := by
    refine replayed.untouched b (fun i below _ key => ?_)
    exact absurd key (ne_of_canRestore (entries i below) protects fits inside)
  have quiet := kspecemPanic_quiet env env.kernel.panicDepth_pos
  have steps := @replayed_steps (skipped env.frames.rsp frameaddr regs) s env.kernel coherent
  have restarts : (s.restarting stats).isInRestart = true := rfl
  have replay := restoreWritelog_ends quiet (by exact inSpec) restarts steps
    (coherent.allocated.addrsSize ▸ coherent.room) (coherent.allocated.dataSize ▸ coherent.room)
    ⟨Nat.le_refl _, .start _ s⟩
  have passes := @restoreWritelog_passes env s frameaddr regs entries inSpec stats
  refine (replay.and passes).imp ?_ ?_
  · intro r u both
    obtain ⟨⟨_, replaying⟩, passed⟩ := both
    exact ⟨passed, unchanged replaying.mem.2⟩
  · intro e u both
    obtain ⟨⟨_, k, _, replaying⟩ | ⟨no, _⟩, passed⟩ := both
    · exact ⟨passed, unchanged replaying.mem.2⟩
    · exact no.elim

end

/-- Every replay of the log passes the assertion and leaves the protected objects alone. -/
def ReplaysSafely (kernel : Kernel) (task : Task) (s : Rt) : Prop :=
  ∀ (frames : Frames) (frameaddr regs : Address) (stats : Statistics),
    let env : Env := { kernel, frames, task }
    Ends (restoreWritelog env env.onFail frameaddr regs) (fun _ t => Spared kernel s t)
      (fun _ t => Spared kernel s t) (s.restarting stats)

/-- After any calls of `kspecem_write_wl` from a reachable speculative state that all return,
the entries they added can all be restored exactly if the words they saved are restorable or
passed over; and a log whose entries can all be restored replays safely.
-/
theorem runLogCalls_canRestore_iff {kernel : Kernel} {m : Machine} (reached : Reached kernel m)
    (running : m.phase = .running) (inSpec : m.rt.inSpeculativeEmulation = true) (task : Task)
    (calls : List LogCall)
    : Ends (runLogCalls kernel task calls)
        (fun _ t =>
          ((∀ w ∈ t.log.words.drop m.rt.log.position, canRestore kernel t.log w = true)
            ↔ ∀ call ∈ calls,
                ∀ w,
                  SavedBy call.addr w →
                  ¬kernel.PassesOver w →
                  Restorable kernel m.rt w)
          ∧ ((∀ w ∈ t.log.words, canRestore kernel t.log w = true)
            → ReplaysSafely kernel task t))
        (fun _ _ => True) m.rt := by
  have inv := (reached.inv.running running).busy
  refine (runLogCalls_admits inv inSpec).imp ?_ (fun _ _ exit => exit)
  intro _ t kept
  obtain ⟨kept, busy, admitted⟩ := kept
  constructor
  · rw [admitted.canRestore_iff]
    constructor
    · intro restorable call member w saved logged
      exact restorable w (mem_callWords.mpr ⟨call, member, saved⟩) logged
    · intro restorable w member logged
      obtain ⟨call, member, saved⟩ := mem_callWords.mp member
      exact restorable call member w saved logged
  · intro restorable frames frameaddr regs stats
    have coherent : Coherent (Env.kernel { kernel, frames, task }) t := kept.1.coherent
    exact restoreWritelog_spared coherent (busy.inSpec.trans inSpec) restorable stats

/-- A call on the address of the variable `kspecem_writelog_addrs`. -/
def samplePointerCalls : List LogCall := [⟨sampleFrames, 0x8020⟩]

theorem runLogCalls_canRestore_iff_sample
    : Ends (runLogCalls sampleKernel sampleEnv.task samplePointerCalls)
        (fun _ t =>
          ((∀ w ∈ t.log.words.drop sampleOpen.rt.log.position,
              canRestore sampleKernel t.log w = true)
            ↔ ∀ call ∈ samplePointerCalls,
                ∀ w,
                  SavedBy call.addr w →
                  ¬sampleKernel.PassesOver w →
                  Restorable sampleKernel sampleOpen.rt w)
          ∧ ((∀ w ∈ t.log.words, canRestore sampleKernel t.log w = true)
            → ReplaysSafely sampleKernel sampleEnv.task t))
        (fun _ _ => True) sampleOpen.rt :=
  runLogCalls_canRestore_iff sampleOpen_reached rfl rfl _ _

/-- The states after the call and after a direct replay. -/
def samplePointerLogged : Rt :=
  endState (runLogCalls sampleKernel sampleEnv.task samplePointerCalls) sampleOpen.rt

def samplePointerReplayed : Rt :=
  endState (restoreWritelog sampleEnv sampleEnv.onFail 0x70040 0)
    (samplePointerLogged.restarting samplePointerLogged.stats)

/-- The log accepts the word of one of its own pointers, and the replay's assertion fails. -/
theorem pointer_word_not_restorable
    : Reached sampleKernel sampleOpen
      ∧ runLogCalls sampleKernel sampleEnv.task samplePointerCalls sampleOpen.rt
        = .ok () samplePointerLogged
      ∧ 0x8020 ∈ samplePointerLogged.log.words.drop sampleOpen.rt.log.position
      ∧ canRestore sampleKernel samplePointerLogged.log 0x8020 = false
      ∧ canRestoreFailed ∈ samplePointerReplayed.asserted := by
  refine ⟨sampleOpen_reached, rfl, by decide, by decide, by decide⟩

end Kasper
