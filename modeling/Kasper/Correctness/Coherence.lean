import Kasper.Correctness.Logging

/-! The runtime's speculation variables between any two of its steps.
Every step is one record update, and `Coherent` survives each of them.
-/

namespace Kasper

open ByteMemory Exits

/-- The runtime is initialised; the log is enabled exactly in speculation; outside it the
log is empty, the call depth 0 and the swap flag clear. The log arrays are allocated and
hold aligned words, and the saved stack frame does not reach the swap flag.
-/
structure Coherent (kernel : Kernel) (s : Rt) : Prop where
  initDone : s.initDone = true
  coupled : s.log.enabled = s.inSpeculativeEmulation
  idleLog : s.inSpeculativeEmulation = false → s.log.position = 0
  idleDepth : s.inSpeculativeEmulation = false → s.specCallDepth = 0
  idleFlag : s.inSpeculativeEmulation = false → s.mem kernel.swapBranchCondition = 0
  frameClear : ¬s.stack.Holds kernel.swapBranchCondition
  allocated : s.log.Allocated
  room : s.log.position ≤ logCapacity
  aligned : ∀ i < s.log.position, wordOf (s.log.addrs.cell i) = s.log.addrs.cell i

/-- The assertions on the speculation variables, by file and line. -/
def SpecAssert.OfStateMachine (failed : SpecAssert) : Prop :=
  (failed.file, failed.line)
    ∈ [("kspecem_undolog.c", 82), ("kspecem_interface.c", 146), ("kspecem_interface.c", 156),
      ("kspecem_internal.c", 33), ("kspecem_internal.c", 81)]

instance (failed : SpecAssert) : Decidable failed.OfStateMachine :=
  inferInstanceAs (Decidable (_ ∈ _))

/-- No assertion on the speculation variables has failed. -/
def Rt.Consistent (s : Rt) : Prop :=
  ∀ failed ∈ s.asserted, ¬failed.OfStateMachine

theorem Rt.Consistent.cons {s t : Rt} (h : s.Consistent) {failed : SpecAssert}
    (other : ¬failed.OfStateMachine) (added : t.asserted = failed :: s.asserted)
    : t.Consistent := by
  intro found member
  rw [added] at member
  rcases List.mem_cons.mp member with rfl | older
  · exact other
  · exact h found older

theorem Rt.Consistent.congr {s t : Rt} (h : s.Consistent) (same : t.asserted = s.asserted)
    : t.Consistent := by
  intro failed member
  exact h failed (same ▸ member)

/-- Failures that come from elsewhere leave a state consistent. -/
theorem Rt.Consistent.mono {s t : Rt} (h : s.Consistent)
    (added : ∀ failed ∈ t.asserted, failed ∈ s.asserted ∨ ¬failed.OfStateMachine)
    : t.Consistent := by
  intro failed member
  rcases added failed member with older | other
  · exact h failed older
  · exact other

theorem SpecAssert.OfReplay.not_ofStateMachine {failed : SpecAssert} (h : failed.OfReplay)
    : ¬failed.OfStateMachine := by
  obtain ⟨file, line⟩ := h
  simp only [SpecAssert.OfStateMachine, file, List.mem_cons, Prod.mk.injEq, List.not_mem_nil]
  simp
  omega

/-- Adding `delta` to the word `stop_nmi` and `restart_nmi` count in. -/
def Rt.counted (kernel : Kernel) (s : Rt) (delta : Word) : Rt :=
  { s with mem := writeWord s.mem kernel.nmiCount (readWord s.mem kernel.nmiCount + delta) }

/-- The state `kspecem_restart` starts its rollback from. -/
def Rt.restarting (s : Rt) (stats : Statistics) : Rt :=
  { s with isInRestart := true, stats }

/-- The stack log after `kspecem_save_stack` filled it. -/
def Rt.framed (s : Rt) (frameaddress rsp : Address) (cell : Nat → Byte) : Rt :=
  { s with
    stack :=
      { s.stack with
        baseAddress := frameaddress
        len := frameaddress - rsp
        stack := { s.stack.stack with cell } } }

namespace Coherent

variable {kernel : Kernel} {s t : Rt}

/-- Only the speculation variables, the log, the saved frame and the swap flag matter. -/
theorem congr (h : Coherent kernel s) (initDone : t.initDone = s.initDone)
    (log : t.log = s.log) (inSpec : t.inSpeculativeEmulation = s.inSpeculativeEmulation)
    (depth : t.specCallDepth = s.specCallDepth) (stack : t.stack = s.stack)
    (flag
      : t.inSpeculativeEmulation = false
        → s.mem kernel.swapBranchCondition = 0
        → t.mem kernel.swapBranchCondition = 0)
    : Coherent kernel t where
  initDone := initDone.trans h.initDone
  coupled := by
    rw [log, inSpec]
    exact h.coupled
  idleLog := by
    rw [log, inSpec]
    exact h.idleLog
  idleDepth := by
    rw [depth, inSpec]
    exact h.idleDepth
  idleFlag := fun idle => flag idle (h.idleFlag (inSpec ▸ idle))
  frameClear := by
    rw [stack]
    exact h.frameClear
  allocated := by
    rw [log]
    exact h.allocated
  room := by
    rw [log]
    exact h.room
  aligned := by
    rw [log]
    exact h.aligned

theorem counted (h : Coherent kernel s) (delta : Word)
    : Coherent kernel (s.counted kernel delta) := by
  refine h.congr rfl rfl rfl rfl rfl (fun _ clear => ?_)
  exact (writeWord_outside kernel.nmiCount_clear).trans clear

/-- In speculation the log may grow by one aligned word. -/
theorem appended (h : Coherent kernel s) (inSpec : s.inSpeculativeEmulation = true)
    {w : Address} (aligned : wordOf w = w) (room : s.log.position < logCapacity)
    (returnAddress : Address)
    : Coherent kernel (s.appended w returnAddress) where
  initDone := h.initDone
  coupled := h.coupled
  idleLog := fun idle => absurd (inSpec.symm.trans idle) (by decide)
  idleDepth := h.idleDepth
  idleFlag := h.idleFlag
  frameClear := h.frameClear
  allocated := h.allocated.congr ⟨rfl, rfl⟩ ⟨rfl, rfl⟩ rfl
  room := room
  aligned := by
    intro i below
    rcases Nat.lt_succ_iff_lt_or_eq.mp below with earlier | rfl
    · have same : (s.appended w returnAddress).log.addrs.cell i = s.log.addrs.cell i :=
        Table.put_cell_other _ _ (Nat.ne_of_lt earlier)
      rw [same]
      exact h.aligned i earlier
    · have same : (s.appended w returnAddress).log.addrs.cell s.log.position = w :=
        Table.put_cell_same _ _ _
      rw [same]
      exact aligned

theorem scratched (h : Coherent kernel s) (w : Address) : Coherent kernel (s.scratched w) where
  initDone := h.initDone
  coupled := h.coupled
  idleLog := h.idleLog
  idleDepth := h.idleDepth
  idleFlag := h.idleFlag
  frameClear := h.frameClear
  allocated := h.allocated.congr ⟨rfl, rfl⟩ ⟨rfl, rfl⟩ rfl
  room := h.room
  aligned := by
    intro i below
    have same : (s.scratched w).log.addrs.cell i = s.log.addrs.cell i :=
      Table.put_cell_other _ _ (Nat.ne_of_lt below)
    rw [same]
    exact h.aligned i below

/-- The call depth may change in speculation. -/
theorem redepth (h : Coherent kernel s) (inSpec : s.inSpeculativeEmulation = true)
    (specCallDepth : BitVec 32)
    : Coherent kernel { s with specCallDepth } :=
  { h with idleDepth := fun idle => absurd (inSpec.symm.trans idle) (by decide) }

theorem checkpointed (h : Coherent kernel s) (stats : Statistics)
    : Coherent kernel (s.checkpointed kernel stats) where
  initDone := h.initDone
  coupled := rfl
  idleLog := fun idle => by contradiction
  idleDepth := fun _ => rfl
  idleFlag := fun idle => by contradiction
  frameClear := h.frameClear
  allocated := h.allocated.congr ⟨rfl, rfl⟩ ⟨rfl, rfl⟩ rfl
  room := Nat.zero_le _
  aligned := fun _ below => absurd below (Nat.not_lt_zero _)

theorem framed (h : Coherent kernel s) {frameaddress rsp : Address} {cell : Nat → Byte}
    (clear : ¬(s.framed frameaddress rsp cell).stack.Holds kernel.swapBranchCondition)
    : Coherent kernel (s.framed frameaddress rsp cell) :=
  { h with frameClear := clear }

/-- A stopped replay has counted entries off and changed memory, nothing else. -/
theorem replaying {P : Nat → Memory → Prop} {stats : Statistics} {k : Nat} {u : Rt}
    (h : Coherent kernel s) (inSpec : s.inSpeculativeEmulation = true)
    (fewer : k ≤ s.log.position) (replaying : Replaying P (s.restarting stats) k u)
    : Coherent kernel u := by
  rw [replaying.frame]
  refine {
    initDone := h.initDone
    coupled := h.coupled
    idleLog := fun idle => absurd (inSpec.symm.trans idle) (by decide)
    idleDepth := h.idleDepth
    idleFlag := fun idle => absurd (inSpec.symm.trans idle) (by decide)
    frameClear := h.frameClear
    allocated := h.allocated.congr ⟨rfl, rfl⟩ ⟨rfl, rfl⟩ rfl
    room := Nat.le_trans fewer h.room
    aligned := fun i below => h.aligned i (Nat.lt_of_lt_of_le below fewer)
  }

/-- A finished replay leaves the speculation variables idle. -/
theorem discarded {P : Nat → Memory → Prop} {stats : Statistics} {u : Rt}
    (h : Coherent kernel s) (replayed : Replaying P (s.restarting stats) 0 u)
    : Coherent kernel (u.discarded kernel) := by
  have stack : u.stack = s.stack := by
    rw [replayed.frame]
    rfl
  have log : (u.discarded kernel).log = { s.log with position := 0, enabled := false } := by
    rw [Rt.discarded, replayed.frame]
    rfl
  refine {
    initDone := ?_
    coupled := rfl
    idleLog := fun _ => by rw [log]
    idleDepth := fun _ => rfl
    idleFlag := fun _ => ?_
    frameClear := ?_
    allocated := ?_
    room := ?_
    aligned := ?_
  }
  · rw [replayed.frame]
    exact h.initDone
  · have clear : ¬u.stack.Holds kernel.swapBranchCondition := by
      rw [stack]
      exact h.frameClear
    simp only [Rt.discarded, StackLog.restored, if_neg clear]
    simp [writeBytes]
  · rw [show (u.discarded kernel).stack = s.stack from stack]
    exact h.frameClear
  · rw [log]
    exact h.allocated.congr ⟨rfl, rfl⟩ ⟨rfl, rfl⟩ rfl
  · rw [log]
    exact Nat.zero_le _
  · rw [log]
    exact fun _ below => absurd below (Nat.not_lt_zero _)

end Coherent

/-- The words logged for an address are in the log, those apart that are never logged. -/
def Rt.Saved (kernel : Kernel) (s : Rt) (a : Address) : Prop :=
  s.inSpeculativeEmulation = true
  → ∀ w, SavedBy a w → w = kernel.wlPosition ∨ w = kernel.writelogEnabled ∨ s.log.Has w

/-- A log that got the words of an address has them. -/
theorem words_saved {kernel : Kernel} {a w : Address} {older : List Address} {log : WriteLog}
    (words : log.words = older ++ kernel.recorded (savedWords a)) (saved : SavedBy a w)
    : w = kernel.wlPosition ∨ w = kernel.writelogEnabled ∨ log.Has w := by
  by_cases passes : kernel.PassesOver w
  · exact passes.imp_right Or.inl
  · have logged := Kernel.mem_recorded.mpr ⟨mem_savedWords.mpr saved, passes⟩
    rw [← WriteLog.mem_words, words]
    exact Or.inr (Or.inr (List.mem_append_right _ logged))

/-- The log of `t` is that of `s` with the words added that get an entry. Outside a restart,
a word in the log arrays does not come this far.
-/
structure Admitted (kernel : Kernel) (words : List Address) (s t : Rt) : Prop where
  logged : t.log.words = s.log.words ++ kernel.recorded words
  addrsBase : t.log.addrs.base = s.log.addrs.base
  dataBase : t.log.data.base = s.log.data.base
  outside : s.isInRestart = false → ∀ w ∈ words, s.log.Outside w

theorem Admitted.trans {kernel : Kernel} {words more : List Address} {s t u : Rt}
    (first : Admitted kernel words s t) (second : Admitted kernel more t u)
    (restarts : t.isInRestart = s.isInRestart)
    : Admitted kernel (words ++ more) s u where
  logged := by
    rw [second.logged, first.logged, List.append_assoc, ← Kernel.recorded_append]
  addrsBase := second.addrsBase.trans first.addrsBase
  dataBase := second.dataBase.trans first.dataBase
  outside := by
    intro idle w member
    rcases List.mem_append.mp member with early | late
    · exact first.outside idle w early
    · have outside := second.outside (restarts.trans idle) w late
      rwa [WriteLog.Outside, first.addrsBase, first.dataBase] at outside

/-- `t` is `s` after some logging and section steps, which may record failures. -/
structure Busy (s t : Rt) : Prop where
  frame
    : t
      = { s with
          isInRt := t.isInRt
          irqsEnabled := t.irqsEnabled
          log := t.log
          mem := t.mem
          specAssert := t.specAssert
          asserted := t.asserted }
  failed : t.specAssert = none → s.specAssert = none
  has : ∀ w, s.log.Has w → t.log.Has w

namespace Busy

variable {s t u : Rt}

theorem refl (s : Rt) : Busy s s := ⟨rfl, id, fun _ => id⟩

theorem trans (first : Busy s t) (second : Busy t u) : Busy s u where
  frame := by
    rw [second.frame, first.frame]
  failed := fun none => first.failed (second.failed none)
  has := fun w found => second.has w (first.has w found)

theorem recordFailure (s : Rt) (failed : SpecAssert) : Busy s (s.recordFailure failed) :=
  ⟨rfl, fun none => by simp [Rt.recordFailure] at none, fun _ => id⟩

theorem appended (s : Rt) (w returnAddress : Address) : Busy s (s.appended w returnAddress) :=
  ⟨rfl, id, fun _ found => (grown_appended s w returnAddress).has found⟩

theorem inSpec (h : Busy s t) : t.inSpeculativeEmulation = s.inSpeculativeEmulation := by
  rw [h.frame]

theorem inRestart (h : Busy s t) : t.isInRestart = s.isInRestart := by rw [h.frame]

theorem depth (h : Busy s t) : t.specCallDepth = s.specCallDepth := by rw [h.frame]

theorem reports (h : Busy s t) : t.reports = s.reports := by rw [h.frame]

theorem stack (h : Busy s t) : t.stack = s.stack := by rw [h.frame]

theorem nested (h : Busy s t) {restartType : RestartType} (nested : NestedReturn restartType t)
    : NestedReturn restartType s :=
  ⟨h.failed nested.1, nested.2.1, h.depth ▸ nested.2.2⟩

theorem saved (h : Busy s t) {kernel : Kernel} {a : Address} (saved : s.Saved kernel a)
    : t.Saved kernel a := by
  intro inSpec w of
  rcases saved (h.inSpec ▸ inSpec) w of with position | enabled | has
  · exact Or.inl position
  · exact Or.inr (Or.inl enabled)
  · exact Or.inr (Or.inr (h.has w has))

end Busy

end Kasper
