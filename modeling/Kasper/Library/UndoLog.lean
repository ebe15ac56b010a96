import Mathlib.Order.Basic

/-! Undo logging over any store partitioned into cells.
A log entry keeps the contents of one cell; replaying the log from its newest entry to
its oldest brings every cell back to the contents its oldest entry kept.
-/

namespace UndoLog

variable {α κ β : Type*}

/-- The kept contents of one cell. `old` is total; only its values on the cell count. -/
structure Entry (α κ β : Type*) where
  key : κ
  old : α → β

/-- Some entry keeps this cell. -/
def Logged (log : List (Entry α κ β)) (key : κ) : Prop :=
  ∃ entry ∈ log, entry.key = key

variable [DecidableEq κ] (cell : α → κ)

/-- Put the kept contents of one cell back. -/
def revert (entry : Entry α κ β) (store : α → β) : α → β :=
  fun a => if cell a = entry.key then entry.old a else store a

/-- Replay a log, newest entry first. -/
def rollback : List (Entry α κ β) → (α → β) → α → β
  | [], store => store
  | entry :: rest, store => rollback rest (revert cell entry store)

/-- Replaying `log` over `store` gives `start` at every address that is not `free`. -/
def Undoes (free : α → Prop) (log : List (Entry α κ β)) (store start : α → β) : Prop :=
  ∀ a, ¬free a → rollback cell log store a = start a

variable {cell} {free : α → Prop} {log : List (Entry α κ β)} {entry : Entry α κ β}
  {store other start : α → β}

/-- A replay reads the store only at addresses whose cell was never logged. -/
theorem rollback_congr {a : α} (same : store a = other a ∨ Logged log (cell a))
    : rollback cell log store a = rollback cell log other a := by
  induction log generalizing store other with
  | nil =>
      rcases same with same | ⟨_, member, _⟩
      · exact same
      · exact False.elim (List.not_mem_nil member)
  | cons entry rest ih =>
      apply ih
      by_cases hit : cell a = entry.key
      · exact Or.inl (by simp only [revert, if_pos hit])
      · rcases same with same | ⟨found, member, key⟩
        · exact Or.inl (by simp only [revert, if_neg hit, same])
        · rcases List.mem_cons.mp member with rfl | later
          · exact False.elim (hit key.symm)
          · exact Or.inr ⟨found, later, key⟩

/-- Reverting a cell to contents it already has changes nothing at that address. -/
theorem revert_of_same {a : α} (same : cell a = entry.key → entry.old a = store a)
    : revert cell entry store a = store a := by
  by_cases hit : cell a = entry.key
  · rw [revert, if_pos hit, same hit]
  · exact if_neg hit

namespace Undoes

/-- An empty log undoes nothing, and nothing needs undoing at the start. -/
theorem nil (free : α → Prop) (store : α → β) : Undoes cell free [] store store :=
  fun _ _ => rfl

/-- Logging a cell with its present contents keeps the log's meaning. -/
theorem push (h : Undoes cell free log store start)
    (present : ∀ a, cell a = entry.key → entry.old a = store a)
    : Undoes cell free (entry :: log) store start := by
  intro a bound
  rw [← h a bound]
  exact rollback_congr (Or.inl (revert_of_same (present a)))

/-- A write to logged cells and free addresses only keeps the log's meaning. -/
theorem write (h : Undoes cell free log store start)
    (covered : ∀ a, ¬free a → other a = store a ∨ Logged log (cell a))
    : Undoes cell free log other start := by
  intro a bound
  rw [← h a bound]
  exact rollback_congr (covered a bound)

/-- Replaying the newest entry leaves the rest of the log to undo. -/
theorem pop (h : Undoes cell free (entry :: log) store start)
    : Undoes cell free log (revert cell entry store) start :=
  h

/-- The newest entry may be dropped unplayed where the store already has its contents or
the address is free.
-/
theorem drop (h : Undoes cell free (entry :: log) store start)
    (spare : ∀ a, ¬free a → cell a = entry.key → entry.old a = store a)
    : Undoes cell free log store start := by
  intro a bound
  rw [← h a bound]
  exact (rollback_congr (Or.inl (revert_of_same (spare a bound)))).symm

/-- More free addresses ask for less. -/
theorem mono {wider : α → Prop} (h : Undoes cell free log store start)
    (wide : ∀ a, free a → wider a)
    : Undoes cell wider log store start :=
  fun a bound => h a (fun inside => bound (wide a inside))

/-- An empty log leaves only free addresses changed. -/
theorem restored (h : Undoes cell free [] store start) (a : α) (bound : ¬free a)
    : store a = start a :=
  h a bound

end Undoes

end UndoLog
