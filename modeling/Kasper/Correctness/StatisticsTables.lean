import Kasper.Correctness.Coherence

/-! The statistics tables keep the sizes they were allocated with, so a restart never indexes
past their ends.
-/

namespace Kasper

open ByteMemory Exits

/-- The statistics tables have the sizes they were allocated with. -/
structure Statistics.Sized (stats : Statistics) : Prop where
  spec : specStatisticsSize ≤ stats.specStatistics.size
  total : 0 < stats.totalStatistics.size
  rows : stats.inlineasmRestartStatSize ≤ numInlineasmRestartIps
  inlineasm
    : stats.inlineasmRestartStatsEnabled = true
      → numInlineasmRestartIps ≤ stats.inlineasmRestartStats.size

/-- `t` is `u` with other statistics in tables of the same sizes. -/
def SizedStats (u t : Rt) : Prop :=
  OnlyStats u t ∧ t.stats.Sized

section
variable {u : Rt} {onFail : SpecAssert → RtM Unit}

/-- With tables of their sizes no entry is stored past an end. -/
theorem addSpecStatistics_sized (funcType : FuncType) (arg1 : Word) (arg2 : Int) (arg3 : Word)
    (returnAddr : Address)
    : Keeps (SizedStats u) (fun _ _ => False)
        (addSpecStatistics onFail funcType arg1 arg2 arg3 returnAddr) := by
  intro t start
  rw [addSpecStatistics, ends_bind, ends_get, ends_ite]
  refine ⟨fun _ => start, fun room => ?_⟩
  have room : t.stats.currSpecStatisticsIndex < specStatisticsSize := Nat.lt_of_not_le room
  rw [ends_bind]
  refine ends_ltAssert_pos room ?_
  rw [ends_bind, ends_checkBounds, ends_modify]
  refine ⟨fun _ => ⟨start.1.stats _, ?_⟩, fun past => ?_⟩
  · exact ⟨start.2.spec, start.2.total, start.2.rows, start.2.inlineasm⟩
  · exact past (Nat.lt_of_lt_of_le room start.2.spec)

/-- The inline-assembly table while its statistics are kept, with `n` rows in use. -/
def RowStats (u : Rt) (n : Nat) (t : Rt) : Prop :=
  SizedStats u t
  ∧ t.stats.inlineasmRestartStatsEnabled = true
  ∧ t.stats.inlineasmRestartStatSize = n

theorem RowStats.room {n : Nat} {t : Rt} (h : RowStats u n t) {index : Nat}
    (below : index < numInlineasmRestartIps)
    : index < t.stats.inlineasmRestartStats.size :=
  Nat.lt_of_lt_of_le below (h.1.2.inlineasm h.2.1)

theorem fetch_rows {n index : Nat} {t : Rt} (start : RowStats u n t)
    (below : index < numInlineasmRestartIps)
    : Ends (fetch .inlineasmRestartStats t.stats.inlineasmRestartStats index)
        (fun _ v => v = t) (fun _ _ => False) t := by
  rw [ends_fetch]
  exact ⟨fun _ => rfl, fun past => past (start.room below)⟩

theorem putInlineasmStat_rows {n index : Nat} (row : InlineasmRestartStat)
    (below : index < numInlineasmRestartIps)
    : Keeps (RowStats u n) (fun _ _ => False) (putInlineasmStat index row) := by
  intro t start
  rw [putInlineasmStat, ends_bind, ends_get, ends_bind, ends_checkBounds, ends_modify]
  refine ⟨fun _ => ⟨⟨start.1.1.stats _, ?_⟩, start.2⟩, fun past => past (start.room below)⟩
  exact ⟨start.1.2.spec, start.1.2.total, start.1.2.rows, start.1.2.inlineasm⟩

/-- Shifting stays below the row it starts at, by induction on that row. -/
theorem shiftInlineasmStats_rows {n i : Nat} (tmp : InlineasmRestartStat)
    (below : i < numInlineasmRestartIps)
    : Keeps (RowStats u n) (fun _ _ => False) (shiftInlineasmStats tmp i) := by
  induction i with
  | zero => exact keeps_pure _
  | succ i ih =>
      intro t start
      have earlier : i < numInlineasmRestartIps := Nat.lt_of_succ_lt below
      rw [shiftInlineasmStats, ends_bind, ends_get]
      refine Ends.bind (fetch_rows start earlier) ?_
      intro row v same
      rw [same, ends_ite]
      refine ⟨fun _ => ?_, fun _ => start⟩
      exact keeps_bind (putInlineasmStat_rows _ below)
        (fun _ => keeps_bind (putInlineasmStat_rows _ earlier) fun _ => ih earlier) t start

/-- The search stays inside the rows in use, by induction on the rows left. -/
theorem findInlineasmStat_rows {n left i : Nat} (ip : Address)
    (below : i + left ≤ numInlineasmRestartIps)
    : Keeps (RowStats u n) (fun _ _ => False) (findInlineasmStat ip left i) := by
  induction left generalizing i with
  | zero => exact keeps_pure _
  | succ left ih =>
      intro t start
      have here : i < numInlineasmRestartIps := by omega
      rw [findInlineasmStat, ends_bind, ends_get]
      refine Ends.bind (fetch_rows start here) ?_
      intro row v same
      rw [same, ends_ite]
      refine ⟨fun _ => ?_, fun _ => ih (by omega) t start⟩
      exact keeps_bind (putInlineasmStat_rows _ here)
        (fun _ => keeps_bind (shiftInlineasmStats_rows _ here) fun _ => keeps_pure _) t start

theorem addInlineasmRestart_sized (ip : Address) {t : Rt} (start : SizedStats u t)
    (enabled : t.stats.inlineasmRestartStatsEnabled = true)
    : Ends (addInlineasmRestart ip) (fun _ v => SizedStats u v) (fun _ _ => False) t := by
  rw [addInlineasmRestart, ends_bind, ends_get]
  have rows : 0 + t.stats.inlineasmRestartStatSize ≤ numInlineasmRestartIps := by
    rw [Nat.zero_add]
    exact start.2.rows
  refine Ends.bind (findInlineasmStat_rows ip rows t ⟨start, enabled, rfl⟩) ?_
  intro found v searched
  rw [ends_ite]
  refine ⟨fun _ => searched.1, fun _ => ?_⟩
  rw [ends_ite]
  refine ⟨fun _ => searched.1, fun room => ?_⟩
  have room : t.stats.inlineasmRestartStatSize < numInlineasmRestartIps := Nat.lt_of_not_le room
  refine Ends.bind (putInlineasmStat_rows _ room v searched) ?_
  intro _ w stored
  rw [ends_modify]
  obtain ⟨⟨frame, sized⟩, _, size⟩ := stored
  refine ⟨frame.stats _, sized.spec, sized.total, ?_, sized.inlineasm⟩
  rw [← size] at room
  exact room

theorem addRestartToStatistics_sized (restartType : RestartType) (callArg : Address)
    : Keeps (SizedStats u) (fun _ _ => False) (addRestartToStatistics restartType callArg) := by
  intro t start
  rw [addRestartToStatistics, ends_bind, ends_get, ends_bind, ends_checkBounds, ends_bind,
    ends_modify]
  refine ⟨fun _ => ?_, fun past => past start.2.total⟩
  have counted (total : FunctionStats)
      : SizedStats u
          { t with
            stats := { t.stats with totalStatistics := t.stats.totalStatistics.put 0 total } } :=
    ⟨start.1.stats _, start.2.spec, start.2.total, start.2.rows, start.2.inlineasm⟩
  rw [ends_ite]
  refine ⟨fun _ => ?_, fun _ => counted _⟩
  rw [ends_bind, ends_get, ends_ite]
  exact ⟨fun enabled => addInlineasmRestart_sized _ (counted _) enabled, fun _ => counted _⟩

/-- In speculation a restart that counts no frame off comes to its rollback. -/
theorem restart_rollsBack {env : Env} {direct : Bool} {restartType : RestartType}
    {callArg frameaddr regs : Address} {s : Rt} {Q : Int → Rt → Prop} {E : Exit → Rt → Prop}
    (sized : s.stats.Sized) (inSpec : s.inSpeculativeEmulation = true)
    (rolls : ¬NestedReturn restartType s)
    (rolled
      : ∀ stats : Statistics,
          stats.Sized
          → Ends (rollBack env onFail direct restartType frameaddr regs) Q E (s.restarting stats))
    : Ends (restart env onFail direct restartType callArg frameaddr regs) Q E s := by
  rw [restart, ends_bind, ends_get, if_neg (by simp [inSpec]), ends_bind, ends_modify, ends_bind,
    ends_get]
  have start : SizedStats { s with isInRestart := true } { s with isInRestart := true } :=
    ⟨.refl _, sized⟩
  have roll (t : Rt) (kept : SizedStats { s with isInRestart := true } t)
      : Ends (rollBack env onFail direct restartType frameaddr regs) Q E t := by
    rw [kept.1]
    exact rolled t.stats kept.2
  by_cases passed : s.specAssert = none
  · have other : ¬(restartType = .restartReturn ∧ s.specCallDepth > 0) :=
      fun returns => rolls ⟨passed, returns⟩
    rw [if_pos passed, ends_bind, ends_get, if_neg other]
    refine Ends.bind ((addSpecStatistics_sized _ _ _ _ _ _ start).imp (fun _ _ kept => kept)
      (fun _ _ no => no.elim)) ?_
    intro _ t kept
    have counted (arg : Address) := (addRestartToStatistics_sized restartType arg t kept).imp
      (fun _ _ kept => kept) (fun e v (no : False) => (no.elim : E e v))
    rw [ends_ite]
    exact ⟨fun _ => (counted _).bind (fun _ v kept => roll v kept),
      fun _ => (counted _).bind (fun _ v kept => roll v kept)⟩
  · rw [if_neg passed]
    exact roll _ start

end

end Kasper
