import Kasper.Correctness.BlockLogging
import Kasper.Correctness.CallDepth

/-! The entries the store hook and the block hook add to the log: one for each word they
pass to it, with the contents of the word at that time.
-/

namespace Kasper

open ByteMemory Exits

/-- The words the log keeps with their contents, in the order of its entries. -/
def WriteLog.kept (log : WriteLog) : List (Address × Word) :=
  (List.range log.position).map fun i => (log.addrs.cell i, log.data.cell i)

/-- The contents of words in a memory. -/
def contents (mem : Memory) (words : List Address) : List (Address × Word) :=
  words.map fun w => (w, readWord mem w)

/-- A filled entry comes behind the older ones. -/
theorem appended_kept (s : Rt) (w returnAddress : Address)
    : (s.appended w returnAddress).log.kept = s.log.kept ++ contents s.mem [w] := by
  have next : (s.appended w returnAddress).log.position = s.log.position + 1 := rfl
  have key : (s.appended w returnAddress).log.addrs.cell s.log.position = w :=
    Table.put_cell_same _ _ _
  have value : (s.appended w returnAddress).log.data.cell s.log.position = readWord s.mem w :=
    Table.put_cell_same _ _ _
  simp only [WriteLog.kept, next, List.range_succ, List.map_append, List.map_cons, List.map_nil,
    key, value, contents]
  congr 1
  apply List.map_congr_left
  intro i member
  have below := Nat.ne_of_lt (List.mem_range.mp member)
  exact Prod.ext (Table.put_cell_other _ _ below) (Table.put_cell_other _ _ below)

/-- On the way from `s` to `t` the words were logged and memory is as before. -/
structure Fills (kernel : Kernel) (words : List Address) (s t : Rt) : Prop where
  speculating : Speculating kernel t
  mem : t.mem = s.mem
  kept : t.log.kept = s.log.kept ++ contents s.mem (kernel.recorded words)

namespace Fills

variable {kernel : Kernel} {words more : List Address} {s t u : Rt}

theorem refl (speculating : Speculating kernel s) : Fills kernel [] s s :=
  ⟨speculating, rfl, (List.append_nil _).symm⟩

theorem trans (first : Fills kernel words s t) (second : Fills kernel more t u)
    : Fills kernel (words ++ more) s u where
  speculating := second.speculating
  mem := second.mem.trans first.mem
  kept := by
    rw [second.kept, first.kept, first.mem, Kernel.recorded_append, contents, contents, contents,
      List.map_append, List.append_assoc]

theorem section_ (h : Fills kernel words s t) (isInRt irqsEnabled : Bool)
    : Fills kernel words s { t with isInRt, irqsEnabled } :=
  ⟨⟨(h.speculating.inv.busy.section_ isInRt irqsEnabled).1, h.speculating.inSpec⟩, h.mem, h.kept⟩

end Fills

section
variable {env : Env} {s : Rt}

/-- An assertion changes neither memory nor the log. -/
theorem ltAssert_fills {holds : Prop} [Decidable holds] {file condition : String} {line : Nat}
    {words : List Address} {t : Rt} (filled : Fills env.kernel words s t)
    (other : ¬SpecAssert.OfStateMachine { file, line, condition })
    : Ends (ltAssert env.onFail holds file line condition)
        (fun _ v => Fills env.kernel words s v ∧ v.log = t.log) (fun _ _ => True) t := by
  refine (env.handler.ltAssert filled.speculating.inv.busy other).imp ?_ (fun _ _ _ => trivial)
  rintro _ v ⟨kept, ⟨_, rfl⟩ | ⟨_, _, _, rfl⟩⟩
  · exact ⟨filled, rfl⟩
  · exact ⟨⟨⟨kept.1, filled.speculating.inSpec⟩, filled.mem, filled.kept⟩, rfl⟩

/-- Logging an aligned word in speculation fills its entry, unless it is passed over. -/
theorem writeWlAligned_fills {w : Address} (speculating : Speculating env.kernel s)
    (aligned : wordOf w = w)
    : Ends (writeWlAligned env env.onFail w)
        (fun _ t => Fills env.kernel [w] s t) (fun _ _ => True) s := by
  have allocated := speculating.inv.coherent.allocated
  simp only [writeWlAligned, ends_bind, ends_get]
  refine ends_ltAssert_pos speculating.inv.coherent.coupled ?_
  refine ends_ltAssert_pos allocated.addrsBase (ends_ltAssert_pos allocated.dataBase ?_)
  by_cases full : s.log.position ≥ writelogMaxlen * 2
  · rw [if_pos full]
    exact Ends.bind ((restart_flushing (Q := fun _ _ => False) env.handler speculating.inv
      speculating.inSpec (by decide) (by decide) trivial).imp (fun _ _ no => no)
      (fun _ _ _ => trivial)) (fun _ _ no => no.elim)
  rw [if_neg full]
  have room : s.log.position < logCapacity := Nat.lt_of_not_le full
  simp only [ends_bind, ends_get]
  refine ends_ltAssert_pos room (ends_ltAssert_pos room ?_)
  refine (ltAssert_fills (.refl speculating) (by decide)).imp ?_ (fun _ _ _ => trivial)
  rintro _ t ⟨filled, logT⟩
  refine (ltAssert_fills filled (by decide)).imp ?_ (fun _ _ _ => trivial)
  rintro _ v ⟨filled, logV⟩
  have room : v.log.position < logCapacity := by
    rw [logV, logT]
    exact room
  have passed (passes : env.kernel.PassesOver w) : Fills env.kernel [w] s v := by
    refine ⟨filled.speculating, filled.mem, ?_⟩
    rw [env.kernel.recorded_passed passes]
    exact filled.kept
  simp only [ends_ite, ends_pure]
  refine ⟨fun position => passed (Or.inl position), fun other =>
    ⟨fun enabled => passed (Or.inr enabled), fun different => ?_⟩⟩
  refine (appendEntry_keeps filled.speculating.inv.busy filled.speculating.inSpec aligned
    room).imp ?_ (fun _ _ _ => trivial)
  rintro _ u ⟨appended, rfl⟩
  have logged : ¬env.kernel.PassesOver w := fun passes => passes.elim other different
  have kept := filled.kept
  refine ⟨⟨appended.1, filled.speculating.inSpec⟩, filled.mem, ?_⟩
  rw [appended_kept, kept, env.kernel.recorded_logged logged, filled.mem]
  simp [Kernel.recorded, contents]

theorem store_fills (speculating : Speculating env.kernel s) (a : Address)
    : Ends (store env env.onFail a)
        (fun _ t => Fills env.kernel (savedWords a) s t) (fun _ _ => True) s := by
  rw [store, writeWl]
  by_cases aligned : a = wordOf a
  · rw [if_neg (fun unaligned => unaligned aligned), savedWords_aligned aligned]
    exact writeWlAligned_fills speculating (wordOf_wordOf a)
  · rw [if_pos (show a ≠ alignDown 3 a from aligned), savedWords_unaligned aligned]
    refine Ends.bind (writeWlAligned_fills speculating (wordOf_add_eight a)) ?_
    intro _ t second
    refine (writeWlAligned_fills second.speculating (wordOf_wordOf a)).imp ?_
      (fun _ _ _ => trivial)
    exact fun _ v first => second.trans first

/-- The loop logs the words of its rounds, by induction on the fuel. -/
theorem memcpyLoop_fills {stop : Address} (fuel : Nat) {reg : Address} {s : Rt}
    (speculating : Speculating env.kernel s)
    : Ends (memcpyLoop env env.onFail stop fuel reg)
        (fun _ t => Fills env.kernel (memcpyWords stop fuel reg) s t) (fun _ _ => True) s := by
  induction fuel generalizing reg s with
  | zero => exact trivial
  | succ fuel ih =>
      by_cases more : reg < stop
      · rw [memcpyLoop, if_pos more, memcpyWords, if_pos more]
        refine Ends.bind (store_fills speculating reg) ?_
        intro _ t first
        exact (ih first.speculating).imp (fun _ _ rest => first.trans rest) (fun _ _ _ => trivial)
      · rw [memcpyLoop, if_neg more, memcpyWords, if_neg more]
        exact .refl speculating

theorem leaveKspecemNonmiRt_fills {words : List Address} {t : Rt}
    (filled : Fills env.kernel words s t) (irqFlags : Word)
    : Ends (leaveKspecemNonmiRt env.onFail 125 irqFlags)
        (fun _ v => Fills env.kernel words s v) (fun _ _ => True) t := by
  rw [leaveKspecemNonmiRt, ends_bind, ends_get, ends_bind]
  refine (ltAssert_fills filled (by decide)).imp ?_ (fun _ _ _ => trivial)
  rintro _ v ⟨filled, _⟩
  rw [localIrqRestore, ends_bind, ends_modify, unsetRt, ends_modify]
  exact filled.section_ false _

theorem hookStore_fills (speculating : Speculating env.kernel s) (a : Address)
    : Ends (hookStore env env.onFail a)
        (fun _ t => Fills env.kernel (savedWords a) s t) (fun _ _ => True) s := by
  have entered : Speculating env.kernel { s with isInRt := true, irqsEnabled := false } :=
    ⟨(speculating.inv.busy.section_ true false).1, speculating.inSpec⟩
  rw [hookStore, ends_bind, ends_get, if_neg (by simp [speculating.enabled]), ends_bind, ends_get,
    if_neg (by simp [speculating.inv.coherent.initDone]), ends_bind, enterKspecemNonmiRt]
  simp only [setRt, localIrqSave, ends_bind, ends_modify, ends_get, ends_pure]
  refine (store_fills entered a).imp ?_ (fun _ _ _ => trivial)
  intro _ t stored
  have filled : Fills env.kernel (savedWords a) s t := ⟨stored.speculating, stored.mem, stored.kept⟩
  exact leaveKspecemNonmiRt_fills filled _

/-- The entries of a state in which the counter's word was saved and then counted. -/
structure Counts (kernel : Kernel) (delta : Word) (s t : Rt) : Prop where
  speculating : Speculating kernel t
  mem : t.mem = (s.counted kernel delta).mem
  kept : t.log.kept = s.log.kept ++ contents s.mem [kernel.nmiCount]

theorem countNmi_counts (speculating : Speculating env.kernel s) (delta : Word)
    : Ends (countNmi env env.onFail delta) (fun _ t => Counts env.kernel delta s t)
        (fun _ _ => True) s := by
  rw [countNmi]
  refine Ends.bind (hookStore_fills speculating env.kernel.nmiCount) ?_
  intro _ t saved
  have kept := saved.kept
  rw [env.kernel.recorded_nmiCount] at kept
  refine ⟨⟨⟨saved.speculating.inv.coherent.counted delta, ?_, trivial⟩, ?_⟩, ?_, kept⟩
  · exact saved.speculating.inv.consistent.congr rfl
  · exact saved.speculating.inSpec
  · simp only [Rt.counted, saved.mem]

theorem enterKspecemRt_counts (speculating : Speculating env.kernel s)
    : Ends (enterKspecemRt env env.onFail) (fun _ t => Counts env.kernel 1 s t)
        (fun _ _ => True) s := by
  have entered : Speculating env.kernel { s with isInRt := true, irqsEnabled := false } :=
    ⟨(speculating.inv.busy.section_ true false).1, speculating.inSpec⟩
  simp only [enterKspecemRt, setRt, localIrqSave, stopNmi, ends_bind, ends_modify, ends_get,
    ends_pure]
  exact (countNmi_counts entered 1).imp
    (fun _ _ counted => ⟨counted.speculating, counted.mem, counted.kept⟩) (fun _ _ _ => trivial)

theorem leaveKspecemRt_counts (speculating : Speculating env.kernel s) (line : Nat)
    (irqFlags : Word)
    (other
      : ¬SpecAssert.OfStateMachine ⟨"kspecem_interface.c", line, "irqs_disabled()"⟩)
    : Ends (leaveKspecemRt env env.onFail line irqFlags)
        (fun _ t => Counts env.kernel (-1) s t) (fun _ _ => True) s := by
  rw [leaveKspecemRt, ends_bind, ends_get, ends_bind]
  refine (ltAssert_fills (.refl speculating) other).imp ?_ (fun _ _ _ => trivial)
  rintro _ t ⟨passed, _⟩
  rw [ends_bind]
  refine (countNmi_counts passed.speculating (-1)).imp ?_ (fun _ _ _ => trivial)
  intro _ u counted
  rw [localIrqRestore, ends_bind, ends_modify, unsetRt, ends_modify]
  have kept := counted.kept
  have before := passed.kept
  rw [passed.mem] at kept
  simp only [Kernel.recorded, List.filter_nil, contents, List.map_nil, List.append_nil] at before
  rw [before] at kept
  refine ⟨⟨(counted.speculating.inv.busy.section_ false _).1, counted.speculating.inSpec⟩, ?_, kept⟩
  have mem := counted.mem
  simp only [Rt.counted, passed.mem] at mem
  exact mem

/-- What the block hook leaves behind: memory as before, and the entries of the counter's
word around those of its loop.
-/
structure BlockFills (kernel : Kernel) (addr : Address) (size : Word) (s t : Rt)
    : Prop where
  speculating : Speculating kernel t
  mem : t.mem = s.mem
  kept
    : t.log.kept
      = s.log.kept ++ contents s.mem [kernel.nmiCount]
        ++ contents (s.counted kernel 1).mem
          (kernel.recorded (memcpyWords (addr + size) (memcpyRounds + 1) (alignDown 2 addr)))
        ++ contents (s.counted kernel 1).mem [kernel.nmiCount]

theorem hookMemcpy_fills (speculating : Speculating env.kernel s) (addr : Address)
    (size : Word)
    : Ends (hookMemcpy env env.onFail addr size)
        (fun _ t => BlockFills env.kernel addr size s t) (fun _ _ => True) s := by
  rw [hookMemcpy, ends_bind, ends_get, if_neg (by simp [speculating.enabled]), ends_bind, ends_get,
    if_neg (by simp [speculating.inv.coherent.initDone])]
  refine Ends.bind (enterKspecemRt_counts speculating) ?_
  intro irqFlags t entered
  refine Ends.bind (memcpyLoop_fills _ entered.speculating) ?_
  intro _ u looped
  refine (leaveKspecemRt_counts looped.speculating 134 irqFlags (by decide)).imp ?_
    (fun _ _ _ => trivial)
  intro _ v left
  refine ⟨left.speculating, ?_, ?_⟩
  · have back := counted_back env.kernel s
    rw [left.mem, Rt.counted, looped.mem, entered.mem, ← back]
    rfl
  · rw [left.kept, looped.kept, looped.mem, entered.kept, entered.mem]

end

end Kasper
