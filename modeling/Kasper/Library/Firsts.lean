import Mathlib.Data.List.Nodup

/-! The first item of each key, in the order of a list. -/

namespace Firsts

variable {α κ : Type*} [DecidableEq κ] (key : α → κ)

/-- Keep an item unless one of its key was kept before. -/
def keep (kept : List α) (item : α) : List α :=
  if key item ∈ kept.map key then kept else kept ++ [item]

/-- The items whose key no earlier item has. -/
def firsts (items : List α) : List α :=
  items.foldl (keep key) []

theorem firsts_append (items more : List α)
    : firsts key (items ++ more) = more.foldl (keep key) (firsts key items) :=
  List.foldl_append

variable {key} {kept items : List α} {item : α} {k : κ}

theorem mem_keys_keep : k ∈ (keep key kept item).map key ↔ k ∈ kept.map key ∨ k = key item := by
  unfold keep
  split
  · rename_i known
    constructor
    · exact Or.inl
    · rintro (old | rfl)
      · exact old
      · exact known
  · simp

theorem nodup_keys_keep (nodup : (kept.map key).Nodup)
    : ((keep key kept item).map key).Nodup := by
  unfold keep
  split
  · exact nodup
  · rename_i fresh
    rw [List.map_append, List.map_singleton]
    exact nodup.append (List.nodup_singleton _) (by simpa using fresh)

/-- Keeping items adds their keys, by induction on the items. -/
theorem mem_keys_foldl
    : k ∈ (items.foldl (keep key) kept).map key ↔ k ∈ kept.map key ∨ k ∈ items.map key := by
  induction items generalizing kept with
  | nil => simp
  | cons item rest ih =>
      rw [List.foldl_cons, ih, mem_keys_keep, List.map_cons, List.mem_cons, or_assoc]

theorem nodup_keys_foldl (nodup : (kept.map key).Nodup)
    : ((items.foldl (keep key) kept).map key).Nodup := by
  induction items generalizing kept with
  | nil => exact nodup
  | cons item rest ih => exact ih (nodup_keys_keep nodup)

/-- Every key of the items is the key of one first item. -/
theorem count_keys_firsts [BEq κ] [LawfulBEq κ] (member : item ∈ items)
    : ((firsts key items).map key).count (key item) = 1 := by
  refine List.count_eq_one_of_mem (nodup_keys_foldl List.nodup_nil) ?_
  exact mem_keys_foldl.mpr (Or.inr (List.mem_map_of_mem member))

end Firsts
