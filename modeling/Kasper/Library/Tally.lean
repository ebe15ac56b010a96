import Kasper.Library.Firsts
import Mathlib.Data.List.Induction
import Mathlib.Logic.Function.Iterate
import Mathlib.Order.Lattice

/-! A tally of bounded size, ordered by count. Every occurrence of a key raises the row of
that key and moves it towards the front; a new key gets a row at the end while there is
room.
-/

namespace Tally

variable {ρ κ γ : Type*} [DecidableEq κ] [LinearOrder γ]
variable (key : ρ → κ) (count : ρ → γ) (raise : ρ → ρ) (fresh : κ → ρ)

/-- Move a row past the rows that count less; the nearest of them comes first. -/
def settle (row : ρ) : List ρ → List ρ
  | [] => [row]
  | near :: rest => if count near < count row then near :: settle row rest else row :: near :: rest

/-- Raise the first row of a key; the rows passed on the way are kept in reverse. -/
def search (k : κ) (passed : List ρ) : List ρ → Option (List ρ)
  | [] => none
  | row :: rest =>
      if key row = k then some ((settle count (raise row) passed).reverse ++ rest)
      else search k (row :: passed) rest

/-- One occurrence of a key. -/
def add (capacity : Nat) (rows : List ρ) (k : κ) : List ρ :=
  match search key count raise k [] rows with
  | some raised => raised
  | none => if rows.length < capacity then rows ++ [fresh k] else rows

/-- The rows after all occurrences. -/
def tally (capacity : Nat) (ks : List κ) : List ρ :=
  ks.foldl (add key count raise fresh capacity) []

variable {key count raise fresh} {capacity : Nat} {rows raised passed : List ρ} {row : ρ} {k : κ}
  {ks : List κ}

theorem settle_perm (row : ρ) (rows : List ρ) : (settle count row rows).Perm (row :: rows) := by
  induction rows with
  | nil => exact .refl _
  | cons near rest ih =>
      rw [settle]
      split
      · exact (ih.cons near).trans (.swap row near rest)
      · exact .refl _

/-- Settling keeps rows that count more and more in order. -/
theorem settle_ascending (ascending : rows.Pairwise (fun a b => count a ≤ count b))
    : (settle count row rows).Pairwise (fun a b => count a ≤ count b) := by
  induction rows with
  | nil => exact List.pairwise_singleton _ _
  | cons near rest ih =>
      obtain ⟨least, ascending'⟩ := List.pairwise_cons.mp ascending
      rw [settle]
      split
      · rename_i less
        refine List.pairwise_cons.mpr ⟨fun other member => ?_, ih ascending'⟩
        rcases List.mem_cons.mp ((settle_perm row rest).mem_iff.mp member) with rfl | old
        · exact le_of_lt less
        · exact least other old
      · rename_i more
        refine List.pairwise_cons.mpr ⟨fun other member => ?_, ascending⟩
        have near_le : count row ≤ count near := le_of_not_gt more
        rcases List.mem_cons.mp member with rfl | old
        · exact near_le
        · exact near_le.trans (least other old)

theorem search_none (h : search key count raise k passed rows = none) : k ∉ rows.map key := by
  induction rows generalizing passed with
  | nil => exact List.not_mem_nil
  | cons row rest ih =>
      rw [search] at h
      split at h
      · contradiction
      · rename_i other
        rw [List.map_cons, List.mem_cons, not_or]
        exact ⟨fun same => other same.symm, ih h⟩

/-- A search that finds a row of the key raises it between the rows before and after. -/
theorem search_some (h : search key count raise k passed rows = some raised)
    : ∃ before row after,
        rows = before ++ row :: after
        ∧ key row = k
        ∧ raised = (settle count (raise row) (before.reverse ++ passed)).reverse ++ after := by
  induction rows generalizing passed with
  | nil => contradiction
  | cons row rest ih =>
      rw [search] at h
      split at h
      · rename_i same
        exact ⟨[], row, rest, rfl, same, (Option.some.inj h).symm⟩
      · obtain ⟨before, found, after, rfl, same, rfl⟩ := ih h
        refine ⟨row :: before, found, after, rfl, same, ?_⟩
        rw [List.reverse_cons, List.append_assoc, List.singleton_append]

/-- What one occurrence does: it raises a row of the key, adds one, or finds no room. -/
theorem add_cases
    : (∃ before row after,
        rows = before ++ row :: after
        ∧ key row = k
        ∧ add key count raise fresh capacity rows k
          = (settle count (raise row) before.reverse).reverse ++ after)
      ∨ k ∉ rows.map key
        ∧ (rows.length < capacity
            ∧ add key count raise fresh capacity rows k = rows ++ [fresh k]
          ∨ capacity ≤ rows.length ∧ add key count raise fresh capacity rows k = rows) := by
  unfold add
  cases found : search key count raise k [] rows with
  | some raised =>
      obtain ⟨before, row, after, split, same, rfl⟩ := search_some found
      exact Or.inl ⟨before, row, after, split, same, by rw [List.append_nil]⟩
  | none =>
      refine Or.inr ⟨search_none found, ?_⟩
      by_cases room : rows.length < capacity
      · exact Or.inl ⟨room, if_pos room⟩
      · exact Or.inr ⟨Nat.le_of_not_lt room, if_neg room⟩

theorem raised_perm (before after : List ρ) (row : ρ)
    : ((settle count row before.reverse).reverse ++ after).Perm (before ++ row :: after) := by
  have front : (settle count row before.reverse).reverse.Perm (row :: before) :=
    (List.reverse_perm _).trans
      ((settle_perm row before.reverse).trans ((List.reverse_perm before).cons row))
  exact (front.append_right after).trans List.perm_middle.symm

/-- Raising a row keeps the rows in order of their counts. -/
theorem raised_descending {before after : List ρ}
    (descending : (before ++ row :: after).Pairwise (fun a b => count b ≤ count a))
    (more : count row ≤ count (raise row))
    : ((settle count (raise row) before.reverse).reverse ++ after).Pairwise
        (fun a b => count b ≤ count a) := by
  obtain ⟨front, back, across⟩ := List.pairwise_append.mp descending
  obtain ⟨least, back⟩ := List.pairwise_cons.mp back
  refine List.pairwise_append.mpr ⟨?_, back, fun a inFront b inBack => ?_⟩
  · exact List.pairwise_reverse.mpr (settle_ascending (List.pairwise_reverse.mpr front))
  · have inFront :=
      (settle_perm (raise row) before.reverse).mem_iff.mp (List.mem_reverse.mp inFront)
    rcases List.mem_cons.mp inFront with rfl | old
    · exact (least b inBack).trans more
    · exact across a (List.mem_reverse.mp old) b (List.mem_cons_of_mem _ inBack)

/-- An occurrence keeps the order where raising counts up and a new row counts least. -/
theorem add_descending (descending : rows.Pairwise (fun a b => count b ≤ count a))
    (more : ∀ row ∈ rows, key row = k → count row ≤ count (raise row))
    (least : ∀ row ∈ rows, count (fresh k) ≤ count row)
    : (add key count raise fresh capacity rows k).Pairwise (fun a b => count b ≤ count a) := by
  rcases @add_cases ρ κ γ _ _ key count raise fresh capacity rows k with
    ⟨before, row, after, rfl, same, raises⟩ | ⟨_, ⟨_, added⟩ | ⟨_, full⟩⟩
  · rw [raises]
    exact raised_descending descending (more row (by simp) same)
  · rw [added]
    refine List.pairwise_append.mpr ⟨descending, List.pairwise_singleton _ _, ?_⟩
    intro a member b single
    rw [List.mem_singleton.mp single]
    exact least a member
  · rw [full]
    exact descending

/-- A new key finds no room in a full tally. -/
theorem add_full (full : capacity ≤ rows.length) (unknown : k ∉ rows.map key)
    : add key count raise fresh capacity rows k = rows := by
  rcases @add_cases ρ κ γ _ _ key count raise fresh capacity rows k with
    ⟨before, row, after, rfl, rfl, _⟩ | ⟨_, ⟨room, _⟩ | ⟨_, kept⟩⟩
  · simp at unknown
  · exact absurd full (Nat.not_le_of_lt room)
  · exact kept

/-- An occurrence loses no key. -/
theorem mem_keys_add (keyRaise : ∀ row, key (raise row) = key row) {known : κ}
    (member : known ∈ rows.map key)
    : known ∈ (add key count raise fresh capacity rows k).map key := by
  rcases @add_cases ρ κ γ _ _ key count raise fresh capacity rows k with
    ⟨before, row, after, rfl, same, raises⟩ | ⟨_, ⟨_, added⟩ | ⟨_, full⟩⟩
  · rw [raises, ((raised_perm before after (raise row)).map key).mem_iff]
    simpa [keyRaise] using member
  · rw [added, List.map_append]
    exact List.mem_append_left _ member
  · rw [full]
    exact member

theorem tally_append (ks : List κ) (k : κ)
    : tally key count raise fresh capacity (ks ++ [k])
      = add key count raise fresh capacity (tally key count raise fresh capacity ks) k := by
  rw [tally, List.foldl_append]
  rfl

theorem mem_firsts : k ∈ Firsts.firsts id ks ↔ k ∈ ks := by
  have member := @Firsts.mem_keys_foldl κ κ _ id [] ks k
  simpa [Firsts.firsts] using member

section
variable (keyRaise : ∀ row, key (raise row) = key row) (keyFresh : ∀ k, key (fresh k) = k)
include keyRaise keyFresh

/-- The tally has a row for each of the first keys, by induction on the occurrences. -/
theorem tally_keys (ks : List κ)
    : ((tally key count raise fresh capacity ks).map key).Perm
        ((Firsts.firsts id ks).take capacity) := by
  induction ks using List.reverseRecOn with
  | nil => simp [tally, Firsts.firsts]
  | append_singleton ks k ih =>
      have next : Firsts.firsts id (ks ++ [k]) = Firsts.keep id (Firsts.firsts id ks) k := by
        rw [Firsts.firsts_append]
        rfl
      rw [tally_append, next, Firsts.keep, List.map_id]
      have size : (tally key count raise fresh capacity ks).length
          = min capacity (Firsts.firsts id ks).length := by
        simpa using ih.length_eq
      rcases @add_cases ρ κ γ _ _ key count raise fresh capacity
        (tally key count raise fresh capacity ks) k with
        ⟨before, row, after, rows, rfl, raises⟩ | ⟨unknown, ⟨room, added⟩ | ⟨full, kept⟩⟩
      · have known : key row ∈ Firsts.firsts id ks := by
          refine List.mem_of_mem_take (ih.mem_iff.mp ?_)
          rw [rows]
          simp
        rw [id, if_pos known, raises]
        refine ((raised_perm before after (raise row)).map key).trans ?_
        rw [rows] at ih
        simpa [keyRaise] using ih
      · have whole : (Firsts.firsts id ks).take capacity = Firsts.firsts id ks :=
          List.take_of_length_le (by omega)
        rw [whole] at ih
        have new : k ∉ Firsts.firsts id ks := fun known => unknown (ih.mem_iff.mpr known)
        rw [id, if_neg new, added, List.map_append, List.map_singleton, keyFresh]
        rw [List.take_of_length_le (by simp; omega)]
        exact ih.append_right [k]
      · rw [kept]
        split
        · exact ih
        · rw [List.take_append_of_le_length (by omega)]
          exact ih

/-- A row counts all the occurrences of its key, by induction on the occurrences. -/
theorem tally_counts (ks : List κ)
    : ∀ row ∈ tally key count raise fresh capacity ks,
        ∃ n, ks.count (key row) = n + 1 ∧ row = raise^[n] (fresh (key row)) := by
  induction ks using List.reverseRecOn with
  | nil => exact fun _ member => absurd member List.not_mem_nil
  | append_singleton ks k ih =>
      intro row member
      rw [tally_append] at member
      have keys : ((tally key count raise fresh capacity ks).map key).Perm _ :=
        tally_keys keyRaise keyFresh ks
      -- no key has two rows, so the rows that were not raised are of other keys
      have nodup : ((tally key count raise fresh capacity ks).map key).Nodup := by
        rw [keys.nodup_iff]
        refine List.Nodup.sublist (List.take_sublist _ _) ?_
        have nodup := @Firsts.nodup_keys_foldl κ κ _ id [] ks List.nodup_nil
        rwa [List.map_id] at nodup
      have other (old : row ∈ tally key count raise fresh capacity ks) (differs : key row ≠ k)
          : ∃ n, (ks ++ [k]).count (key row) = n + 1 ∧ row = raise^[n] (fresh (key row)) := by
        obtain ⟨n, occurs, built⟩ := ih row old
        refine ⟨n, ?_, built⟩
        rw [List.count_append, occurs, List.count_singleton, if_neg (by simpa using differs.symm)]
      rcases @add_cases ρ κ γ _ _ key count raise fresh capacity
        (tally key count raise fresh capacity ks) k with
        ⟨before, raisedRow, after, rows, rfl, raises⟩ | ⟨unknown, ⟨room, added⟩ | ⟨full, kept⟩⟩
      · rw [raises, (raised_perm before after (raise raisedRow)).mem_iff] at member
        rw [rows, List.map_append, List.map_cons] at nodup
        have alone : key raisedRow ∉ (before ++ after).map key := by
          rw [List.map_append]
          exact (List.nodup_middle.mp nodup).notMem
        by_cases same : row = raise raisedRow
        · obtain ⟨n, occurs, built⟩ := ih raisedRow (by simp [rows])
          refine ⟨n + 1, ?_, ?_⟩
          · rw [same, keyRaise, List.count_append, occurs, List.count_singleton_self]
          · rw [same, keyRaise, Function.iterate_succ_apply', ← built]
        · have inRest : row ∈ before ++ after := by
            simpa [same] using member
          refine other ?_ (fun same => alone (same ▸ List.mem_map_of_mem inRest))
          rw [rows]
          simp only [List.mem_append, List.mem_cons] at inRest ⊢
          exact inRest.imp_right Or.inr
      · rw [added, List.mem_append, List.mem_singleton] at member
        rcases member with old | rfl
        · exact other old (fun same => unknown (same ▸ List.mem_map_of_mem old))
        · have size := keys.length_eq
          rw [List.length_map, List.length_take] at size
          -- with room left the tally has seen every key, so a new row is of a new key
          have whole : (Firsts.firsts id ks).take capacity = Firsts.firsts id ks :=
            List.take_of_length_le (by omega)
          rw [whole] at keys
          have new : k ∉ ks := fun known => unknown (keys.mem_iff.mpr (mem_firsts.mpr known))
          refine ⟨0, ?_, by rw [keyFresh]; rfl⟩
          rw [keyFresh, List.count_append, List.count_eq_zero_of_not_mem new,
            List.count_singleton_self]
      · rw [kept] at member
        exact other member (fun same => unknown (same ▸ List.mem_map_of_mem member))

end

end Tally
