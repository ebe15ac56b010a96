import Kasper.Library.Tally
import Kasper.Runtime.Sample

/-! The table of `kspecem_stats_inlineasm.c` is a tally: forty rows at most, ordered by
count, one for each of the first instruction pointers.
-/

namespace Kasper

open ByteMemory Exits

/-- The count of a row, as the number the code compares. -/
def InlineasmRestartStat.count (row : InlineasmRestartStat) : Nat := row.restartCount.toNat

def InlineasmRestartStat.raise (row : InlineasmRestartStat) : InlineasmRestartStat :=
  { row with restartCount := row.restartCount + 1 }

def InlineasmRestartStat.fresh (ip : Address) : InlineasmRestartStat :=
  { restartIp := ip, restartCount := 1 }

@[simp] theorem raise_restartIp (row : InlineasmRestartStat)
    : row.raise.restartIp = row.restartIp :=
  rfl

@[simp] theorem fresh_restartIp (ip : Address)
    : (InlineasmRestartStat.fresh ip).restartIp = ip :=
  rfl

/-- The first `n` rows of a table. -/
def rowsBelow (cell : Nat → InlineasmRestartStat) (n : Nat) : List InlineasmRestartStat :=
  (List.range n).map cell

/-- The rows in use. -/
def Statistics.inlineasmRows (stats : Statistics) : List InlineasmRestartStat :=
  rowsBelow stats.inlineasmRestartStats.cell stats.inlineasmRestartStatSize

/-- The state with other rows in the table. -/
def Rt.withRows (s : Rt) (cell : Nat → InlineasmRestartStat) (n : Nat) : Rt :=
  { s with
    stats :=
      { s.stats with
        inlineasmRestartStats := { s.stats.inlineasmRestartStats with cell }
        inlineasmRestartStatSize := n } }

/-- The table has its forty rows, and no more of them are in use. -/
structure Rt.HasRows (s : Rt) : Prop where
  size : s.stats.inlineasmRestartStats.size = numInlineasmRestartIps
  used : s.stats.inlineasmRestartStatSize ≤ numInlineasmRestartIps

theorem rowsBelow_succ (cell : Nat → InlineasmRestartStat) (n : Nat)
    : rowsBelow cell (n + 1) = rowsBelow cell n ++ [cell n] := by
  rw [rowsBelow, List.range_succ, List.map_append, List.map_singleton, rowsBelow]

/-- Rows agree where their cells do. -/
theorem rowsBelow_congr {cell other : Nat → InlineasmRestartStat} {n : Nat}
    (same : ∀ i < n, other i = cell i)
    : rowsBelow other n = rowsBelow cell n :=
  List.map_congr_left (fun i member => same i (List.mem_range.mp member))

section
variable {s : Rt} {Q : Unit → Rt → Prop} {E : Exit → Rt → Prop}

theorem ends_putInlineasmStat {index : Nat} {row : InlineasmRestartStat}
    (room : index < s.stats.inlineasmRestartStats.size)
    : Ends (putInlineasmStat index row) Q E s
      ↔ Q ()
          (s.withRows (s.stats.inlineasmRestartStats.put index row).cell
            s.stats.inlineasmRestartStatSize) := by
  rw [putInlineasmStat, ends_bind, ends_get, ends_bind, checkBounds, if_pos room, ends_pure,
    ends_modify]
  exact Iff.rfl

/-- Shifting settles the row among those in front of it, by induction on its place. -/
theorem shiftInlineasmStats_settles (tmp : InlineasmRestartStat) {i : Nat} {s : Rt}
    (room : i < s.stats.inlineasmRestartStats.size)
    (placed : s.stats.inlineasmRestartStats.cell i = tmp)
    : Ends (shiftInlineasmStats tmp i)
        (fun _ t =>
          ∃ cell,
            t = s.withRows cell s.stats.inlineasmRestartStatSize
            ∧ rowsBelow cell (i + 1)
              = (Tally.settle InlineasmRestartStat.count tmp
                  (rowsBelow s.stats.inlineasmRestartStats.cell i).reverse).reverse
            ∧ ∀ j > i, cell j = s.stats.inlineasmRestartStats.cell j)
        (fun _ _ => False) s := by
  induction i generalizing s with
  | zero =>
      refine ⟨s.stats.inlineasmRestartStats.cell, rfl, ?_, fun _ _ => rfl⟩
      rw [rowsBelow_succ, placed]
      rfl
  | succ i ih =>
      have earlier : i < s.stats.inlineasmRestartStats.size := Nat.lt_of_succ_lt room
      rw [shiftInlineasmStats, ends_bind, ends_get, ends_bind, fetch, if_pos earlier, ends_pure]
      rw [rowsBelow_succ, List.reverse_append, List.reverse_singleton, List.singleton_append,
        Tally.settle, ends_ite]
      generalize front : s.stats.inlineasmRestartStats.cell i = row
      refine ⟨fun less => ?_, fun more => ?_⟩
      -- the row in front counts less: both change places and the shift goes on in front
      · have less : row.count < tmp.count := less
        rw [if_pos less, ends_bind, ends_putInlineasmStat room, ends_bind,
          ends_putInlineasmStat (by exact earlier)]
        refine (ih (by exact earlier) (Table.put_cell_same _ _ _)).imp ?_ (fun _ _ no => no)
        rintro _ t ⟨cell, rfl, settled, rest⟩
        refine ⟨cell, rfl, ?_, fun j after => ?_⟩
        · have moved : cell (i + 1) = row := by
            rw [rest (i + 1) (Nat.lt_succ_self i)]
            refine (Table.put_cell_other _ _ (Nat.succ_ne_self i)).trans ?_
            exact Table.put_cell_same _ _ _
          have same : rowsBelow
              ((s.withRows (s.stats.inlineasmRestartStats.put (i + 1) row).cell
                s.stats.inlineasmRestartStatSize).stats.inlineasmRestartStats.put i tmp).cell i
              = rowsBelow s.stats.inlineasmRestartStats.cell i := by
            refine rowsBelow_congr (fun j below => ?_)
            refine (Table.put_cell_other _ _ (Nat.ne_of_lt below)).trans ?_
            exact Table.put_cell_other _ _ (by omega)
          rw [rowsBelow_succ, settled, moved, List.reverse_cons]
          congr 4
        · rw [rest j (by omega)]
          refine (Table.put_cell_other _ _ (by omega)).trans ?_
          exact Table.put_cell_other _ _ (by omega)
      · have more : ¬row.count < tmp.count := more
        refine ⟨s.stats.inlineasmRestartStats.cell, rfl, ?_, fun _ _ => rfl⟩
        rw [if_neg more, rowsBelow_succ, rowsBelow_succ, placed, front]
        simp

/-- The rows from `i` on, `left` of them. -/
def rowsFrom (cell : Nat → InlineasmRestartStat) (i left : Nat) : List InlineasmRestartStat :=
  (List.range' i left).map cell

theorem rowsBelow_add (cell : Nat → InlineasmRestartStat) (i left : Nat)
    : rowsBelow cell (i + left) = rowsBelow cell i ++ rowsFrom cell i left := by
  have split : List.range (i + left) = List.range i ++ List.range' i left := by
    simpa [List.range_eq_range'] using (@List.range'_append_1 0 i left).symm
  rw [rowsBelow, rowsBelow, rowsFrom, split, List.map_append]

/-- The search of a tally, at the key and count of a row. -/
def searchRows (ip : Address) (passed rows : List InlineasmRestartStat)
    : Option (List InlineasmRestartStat) :=
  Tally.search InlineasmRestartStat.restartIp InlineasmRestartStat.count
    InlineasmRestartStat.raise ip passed rows

/-- The search loop is the search of the tally, by induction on the rows left. -/
theorem findInlineasmStat_searches (ip : Address) {left i : Nat} {s : Rt}
    (room : i + left ≤ s.stats.inlineasmRestartStats.size)
    : Ends (findInlineasmStat ip left i)
        (fun found t =>
          match searchRows ip (rowsBelow s.stats.inlineasmRestartStats.cell i).reverse
              (rowsFrom s.stats.inlineasmRestartStats.cell i left) with
          | some raised =>
              found = true
              ∧ ∃ cell,
                  t = s.withRows cell s.stats.inlineasmRestartStatSize
                  ∧ rowsBelow cell (i + left) = raised
          | none => found = false ∧ t = s)
        (fun _ _ => False) s := by
  induction left generalizing i with
  | zero => exact ⟨rfl, rfl⟩
  | succ left ih =>
      have here : i < s.stats.inlineasmRestartStats.size := by omega
      have step : rowsFrom s.stats.inlineasmRestartStats.cell i (left + 1)
          = s.stats.inlineasmRestartStats.cell i
            :: rowsFrom s.stats.inlineasmRestartStats.cell (i + 1) left := by
        rw [rowsFrom, List.range'_succ, List.map_cons, rowsFrom]
      rw [findInlineasmStat, ends_bind, ends_get, ends_bind, fetch, if_pos here, ends_pure,
        step, searchRows, Tally.search, ends_ite]
      refine ⟨fun same => ?_, fun other => ?_⟩
      · rw [if_pos same, ends_bind, ends_putInlineasmStat here, ends_bind]
        have raised : ({ restartIp := ip
                         restartCount :=
                          (s.stats.inlineasmRestartStats.cell i).restartCount + 1 }
              : InlineasmRestartStat)
            = (s.stats.inlineasmRestartStats.cell i).raise := by
          rw [InlineasmRestartStat.raise, ← same]
        rw [raised]
        refine (shiftInlineasmStats_settles _ (by exact here) (Table.put_cell_same _ _ _)).imp ?_
          (fun _ _ no => no)
        rintro _ t ⟨cell, rfl, settled, rest⟩
        refine ⟨rfl, cell, rfl, ?_⟩
        -- raising the row touched no other one, on either side
        have before : rowsBelow
            (s.stats.inlineasmRestartStats.put i
              (s.stats.inlineasmRestartStats.cell i).raise).cell i
            = rowsBelow s.stats.inlineasmRestartStats.cell i :=
          rowsBelow_congr (fun j below => Table.put_cell_other _ _ (Nat.ne_of_lt below))
        have after : rowsFrom cell (i + 1) left
            = rowsFrom s.stats.inlineasmRestartStats.cell (i + 1) left := by
          refine List.map_congr_left (fun j member => ?_)
          have above : i < j := (List.mem_range'_1.mp member).1
          rw [rest j above]
          exact Table.put_cell_other _ _ (Nat.ne_of_gt above)
        rw [show i + (left + 1) = i + 1 + left by omega, rowsBelow_add, settled, after]
        congr 3
        exact congrArg List.reverse before
      · rw [if_neg other]
        have later := @ih (i + 1) (by omega)
        rw [rowsBelow_succ, List.reverse_append, List.reverse_singleton, List.singleton_append,
          show i + 1 + left = i + (left + 1) by omega] at later
        exact later

/-- One occurrence in the table of forty rows. -/
def addRow (rows : List InlineasmRestartStat) (ip : Address) : List InlineasmRestartStat :=
  Tally.add InlineasmRestartStat.restartIp InlineasmRestartStat.count
    InlineasmRestartStat.raise InlineasmRestartStat.fresh numInlineasmRestartIps rows ip

/-- `kspecem_add_inlineasm_restart` adds one occurrence to the tally. -/
theorem addInlineasmRestart_adds (ip : Address) (h : s.HasRows)
    : Ends (addInlineasmRestart ip)
        (fun _ t =>
          (∃ cell n, t = s.withRows cell n)
          ∧ t.HasRows
          ∧ t.stats.inlineasmRows = addRow s.stats.inlineasmRows ip)
        (fun _ _ => False) s := by
  have room : 0 + s.stats.inlineasmRestartStatSize ≤ s.stats.inlineasmRestartStats.size := by
    rw [Nat.zero_add, h.size]
    exact h.used
  have rows : rowsFrom s.stats.inlineasmRestartStats.cell 0 s.stats.inlineasmRestartStatSize
      = s.stats.inlineasmRows := by
    rw [rowsFrom, ← List.range_eq_range']
    rfl
  have length : s.stats.inlineasmRows.length = s.stats.inlineasmRestartStatSize := by
    simp [Statistics.inlineasmRows, rowsBelow]
  rw [addInlineasmRestart, ends_bind, ends_get, ends_bind]
  refine (findInlineasmStat_searches ip room).imp ?_ (fun _ _ no => no)
  intro found t searched
  rw [rows, Nat.zero_add] at searched
  have passed : (rowsBelow s.stats.inlineasmRestartStats.cell 0).reverse = [] := rfl
  rw [passed] at searched
  simp only [addRow, Tally.add]
  unfold searchRows at searched
  cases result : Tally.search InlineasmRestartStat.restartIp InlineasmRestartStat.count
    InlineasmRestartStat.raise ip [] s.stats.inlineasmRows with
  | some raised =>
      rw [result] at searched
      obtain ⟨rfl, cell, rfl, raises⟩ := searched
      exact ⟨⟨cell, _, rfl⟩, ⟨h.size, h.used⟩, raises⟩
  | none =>
      rw [result] at searched
      obtain ⟨rfl, rfl⟩ := searched
      rw [if_neg (by decide), ends_ite]
      refine ⟨fun full => ?_, fun free => ?_⟩
      -- a full table drops the new address
      · refine ⟨⟨_, _, rfl⟩, h, ?_⟩
        simp only
        rw [if_neg (by omega)]
      · have free : t.stats.inlineasmRestartStatSize < numInlineasmRestartIps :=
          Nat.lt_of_not_le free
        have inside : t.stats.inlineasmRestartStatSize < t.stats.inlineasmRestartStats.size := by
          rw [h.size]
          exact free
        rw [ends_bind, ends_putInlineasmStat inside, ends_modify]
        refine ⟨⟨_, _, rfl⟩, ⟨h.size, free⟩, ?_⟩
        simp only
        rw [if_pos (by omega)]
        refine (rowsBelow_succ _ _).trans ?_
        congr 1
        · exact rowsBelow_congr (fun j below => Table.put_cell_other _ _ (Nat.ne_of_lt below))
        · rw [List.singleton_inj]
          exact Table.put_cell_same _ _ _

end

-----------------------------------------------------------------------------------------
-- Sequences of restarts
-----------------------------------------------------------------------------------------

/-- `kspecem_add_inlineasm_restart` for one pointer after another. -/
def addInlineasmRestarts : List Address → RtM Unit
  | [] => pure ()
  | ip :: ips => do
      addInlineasmRestart ip
      addInlineasmRestarts ips

/-- The pointers on a freshly initialised table. -/
def recordInlineasm (heap : Heap) (ips : List Address) : RtM Unit := do
  statsInlineasmInit heap
  addInlineasmRestarts ips

/-- The rows are a histogram of the pointers: the first forty, each once, with the number of
its occurrences modulo `2 ^ 64`, ordered while none of these has wrapped.
-/
structure Histogram (ips : List Address) (rows : List InlineasmRestartStat) : Prop where
  pointers
    : (rows.map InlineasmRestartStat.restartIp).Perm
        ((Firsts.firsts id ips).take numInlineasmRestartIps)
  once : (rows.map InlineasmRestartStat.restartIp).Nodup
  counts : ∀ row ∈ rows, row.restartCount = BitVec.ofNat 64 (ips.count row.restartIp)
  ordered
    : (∀ row ∈ rows, ips.count row.restartIp < 2 ^ 64)
      → rows.Pairwise (fun a b => b.restartCount ≤ a.restartCount)

/-- The rows of a sequence of pointers. -/
def rowsOf (ips : List Address) : List InlineasmRestartStat :=
  Tally.tally InlineasmRestartStat.restartIp InlineasmRestartStat.count
    InlineasmRestartStat.raise InlineasmRestartStat.fresh numInlineasmRestartIps ips

theorem raise_iterate (n : Nat) (ip : Address)
    : InlineasmRestartStat.raise^[n] (.fresh ip)
      = { restartIp := ip, restartCount := BitVec.ofNat 64 (n + 1) } := by
  induction n with
  | zero => rfl
  | succ n ih =>
      rw [Function.iterate_succ_apply', ih, InlineasmRestartStat.raise]
      congr 1
      bv_omega

theorem rowsOf_counts (ips : List Address)
    : ∀ row ∈ rowsOf ips,
        0 < ips.count row.restartIp
        ∧ row.restartCount = BitVec.ofNat 64 (ips.count row.restartIp) := by
  intro row member
  obtain ⟨n, occurs, built⟩ :=
    Tally.tally_counts raise_restartIp fresh_restartIp ips row member
  refine ⟨by omega, ?_⟩
  rw [built, raise_iterate, occurs]

/-- While no count has wrapped the rows stay in order, by induction on the pointers. -/
theorem rowsOf_ordered (ips : List Address)
    (small : ∀ row ∈ rowsOf ips, ips.count row.restartIp < 2 ^ 64)
    : (rowsOf ips).Pairwise (fun a b => b.count ≤ a.count) := by
  induction ips using List.reverseRecOn with
  | nil => exact .nil
  | append_singleton ips ip ih =>
      have next : rowsOf (ips ++ [ip]) = addRow (rowsOf ips) ip := Tally.tally_append ips ip
      have bound (row : InlineasmRestartStat) (old : row ∈ rowsOf ips)
          : (ips ++ [ip]).count row.restartIp < 2 ^ 64 := by
        have known : row.restartIp ∈ (addRow (rowsOf ips) ip).map InlineasmRestartStat.restartIp :=
          Tally.mem_keys_add raise_restartIp (List.mem_map_of_mem old)
        obtain ⟨later, member, same⟩ := List.mem_map.mp known
        rw [← same]
        exact small later (next ▸ member)
      have count (row : InlineasmRestartStat) (old : row ∈ rowsOf ips)
          : row.count = ips.count row.restartIp := by
        have bound := bound row old
        rw [List.count_append] at bound
        rw [InlineasmRestartStat.count, (rowsOf_counts ips row old).2, BitVec.toNat_ofNat,
          Nat.mod_eq_of_lt (by omega)]
      rw [next]
      refine Tally.add_descending (ih (fun row old => ?_)) ?_ ?_
      · have bound := bound row old
        rw [List.count_append] at bound
        omega
      · intro row old same
        have bound := bound row old
        have raised : row.raise.count = (row.count + 1) % 2 ^ 64 := BitVec.toNat_add _ _
        rw [List.count_append, same, List.count_singleton_self, ← same, ← count row old] at bound
        rw [raised, Nat.mod_eq_of_lt bound]
        exact Nat.le_succ _
      · intro row old
        rw [count row old]
        exact (rowsOf_counts ips row old).1

/-- The rows of a sequence of pointers are its histogram. -/
theorem rowsOf_histogram (ips : List Address) : Histogram ips (rowsOf ips) where
  pointers := Tally.tally_keys raise_restartIp fresh_restartIp ips
  once := by
    have nodup := @Firsts.nodup_keys_foldl _ _ _ id [] ips List.nodup_nil
    rw [List.map_id] at nodup
    have keys : ((rowsOf ips).map InlineasmRestartStat.restartIp).Perm _ :=
      Tally.tally_keys raise_restartIp fresh_restartIp ips
    rw [keys.nodup_iff]
    exact nodup.sublist (List.take_sublist _ _)
  counts := fun row member => (rowsOf_counts ips row member).2
  ordered := rowsOf_ordered ips

/-- The table holds the rows of the pointers, by induction on the pointers to come. -/
theorem addInlineasmRestarts_rows {before : List Address} (ips : List Address) {s : Rt}
    (h : s.HasRows) (rows : s.stats.inlineasmRows = rowsOf before)
    : Ends (addInlineasmRestarts ips)
        (fun _ t => t.HasRows ∧ t.stats.inlineasmRows = rowsOf (before ++ ips))
        (fun _ _ => False) s := by
  induction ips generalizing s before with
  | nil =>
      rw [addInlineasmRestarts, ends_pure, List.append_nil]
      exact ⟨h, rows⟩
  | cons ip ips ih =>
      rw [addInlineasmRestarts]
      refine Ends.bind (addInlineasmRestart_adds ip h) ?_
      rintro _ t ⟨_, kept, added⟩
      have next : t.stats.inlineasmRows = rowsOf (before ++ [ip]) := by
        rw [added, rows]
        exact (Tally.tally_append before ip).symm
      have rest := ih kept next
      rwa [List.append_assoc, List.singleton_append] at rest

/-- A pointer that is not in a full table leaves it as it is. -/
theorem addInlineasmRestart_full {s : Rt} (h : s.HasRows)
    (full : numInlineasmRestartIps ≤ s.stats.inlineasmRows.length) {ip : Address}
    (unknown : ip ∉ s.stats.inlineasmRows.map InlineasmRestartStat.restartIp)
    : Ends (addInlineasmRestart ip) (fun _ t => t.stats.inlineasmRows = s.stats.inlineasmRows)
        (fun _ _ => False) s := by
  refine (addInlineasmRestart_adds ip h).imp ?_ (fun _ _ no => no)
  rintro _ t ⟨_, _, added⟩
  rw [added]
  exact Tally.add_full full unknown

/-- A fresh table takes the rows of the pointers. -/
theorem recordInlineasm_rows (heap : Heap) (ips : List Address) {s : Rt}
    (enabled : s.stats.inlineasmRestartStatsEnabled = true)
    : Ends (recordInlineasm heap ips)
        (fun _ t => t.HasRows ∧ t.stats.inlineasmRows = rowsOf ips) (fun _ _ => False) s := by
  rw [recordInlineasm, statsInlineasmInit, ends_bind, ends_bind, ends_get, if_pos enabled,
    ends_modify]
  exact @addInlineasmRestarts_rows [] ips _ ⟨rfl, Nat.zero_le _⟩ rfl

/-- For every sequence of pointers the table is their histogram, a new pointer leaves a full
table as it is, and no access falls outside the forty rows.
-/
theorem inlineasmTable_histogram (heap : Heap) (ips : List Address) {s : Rt}
    (enabled : s.stats.inlineasmRestartStatsEnabled = true)
    : Ends (recordInlineasm heap ips)
        (fun _ t =>
          Histogram ips t.stats.inlineasmRows
          ∧ ∀ ip,
              numInlineasmRestartIps ≤ t.stats.inlineasmRows.length
              → ip ∉ t.stats.inlineasmRows.map InlineasmRestartStat.restartIp
              → Ends (addInlineasmRestart ip)
                  (fun _ u => u.stats.inlineasmRows = t.stats.inlineasmRows)
                  (fun _ _ => False) t)
        (fun _ _ => False) s := by
  refine (recordInlineasm_rows heap ips enabled).imp ?_ (fun _ _ no => no)
  rintro _ t ⟨h, rows⟩
  refine ⟨?_, fun ip full unknown => addInlineasmRestart_full h full unknown⟩
  rw [rows]
  exact rowsOf_histogram ips

/-- The sample kernel with the inline-assembly statistics switched on. -/
def sampleCounting : Rt :=
  { sampleStatic with stats := { sampleStatic.stats with inlineasmRestartStatsEnabled := true } }

theorem inlineasmTable_histogram_sample
    : Ends (recordInlineasm sampleHeap [0x400100, 0x400200, 0x400200])
        (fun _ t =>
          Histogram [0x400100, 0x400200, 0x400200] t.stats.inlineasmRows
          ∧ ∀ ip,
              numInlineasmRestartIps ≤ t.stats.inlineasmRows.length
              → ip ∉ t.stats.inlineasmRows.map InlineasmRestartStat.restartIp
              → Ends (addInlineasmRestart ip)
                  (fun _ u => u.stats.inlineasmRows = t.stats.inlineasmRows)
                  (fun _ _ => False) t)
        (fun _ _ => False) sampleCounting :=
  inlineasmTable_histogram sampleHeap _ rfl

example : rowsOf [0x400100, 0x400200, 0x400200]
    = [⟨0x400200, 2⟩, ⟨0x400100, 1⟩] := by
  decide

/-- The rows with exact counts, always in order. -/
structure ExactHistogram (ips : List Address) (rows : List InlineasmRestartStat) : Prop where
  pointers
    : (rows.map InlineasmRestartStat.restartIp).Perm
        ((Firsts.firsts id ips).take numInlineasmRestartIps)
  counts : ∀ row ∈ rows, row.restartCount.toNat = ips.count row.restartIp
  ordered : rows.Pairwise (fun a b => b.restartCount ≤ a.restartCount)

/-- A pointer that comes `2 ^ 64` times has a row whose count is back at zero. -/
theorem not_exactHistogram {ips : List Address} {ip : Address} (only : ∀ other ∈ ips, other = ip)
    (many : ips.count ip = 2 ^ 64)
    : ¬ExactHistogram ips (rowsOf ips) := by
  intro exactly
  have member : ip ∈ ips := List.count_pos_iff.mp (by omega)
  have firsts : Firsts.firsts id ips ≠ [] := by
    intro none
    have first := Tally.mem_firsts.mpr member
    rw [none] at first
    exact List.not_mem_nil first
  have rows : rowsOf ips ≠ [] := by
    intro none
    have length := exactly.pointers.length_eq
    have positive := List.length_pos_iff.mpr firsts
    rw [none, List.map_nil, List.length_nil, List.length_take, numInlineasmRestartIps] at length
    omega
  obtain ⟨row, inRows⟩ := List.exists_mem_of_ne_nil _ rows
  have known : row.restartIp ∈ ips := by
    have taken := exactly.pointers.mem_iff.mp (List.mem_map_of_mem inRows)
    exact Tally.mem_firsts.mp (List.mem_of_mem_take taken)
  have counted := exactly.counts row inRows
  rw [(rowsOf_counts ips row inRows).2, only _ known, many] at counted
  simp at counted

/-- One pointer, `2 ^ 64` times. -/
@[irreducible]
def wrappingPointers : List Address := List.replicate (2 ^ 64) 0x400100

theorem inlineasmTable_wraps
    : ¬Ends (recordInlineasm sampleHeap wrappingPointers)
        (fun _ t => ExactHistogram wrappingPointers t.stats.inlineasmRows) (fun _ _ => False)
        sampleCounting := by
  intro exactly
  have rows := @recordInlineasm_rows sampleHeap wrappingPointers sampleCounting rfl
  obtain ⟨_, t, result⟩ := rows.returns
  have exactly := exactly.of_ok result
  rw [(rows.of_ok result).2] at exactly
  refine @not_exactHistogram _ 0x400100 ?_ ?_ exactly
  · intro other member
    rw [wrappingPointers] at member
    exact List.eq_of_mem_replicate member
  · rw [wrappingPointers, List.count_replicate_self]

end Kasper
