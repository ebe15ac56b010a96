import Mathlib.Data.List.Basic

/-! Runs with silent steps, and simulation of such runs by a system without them.
The labels of a run are those of its visible steps, in order.
-/

namespace Simulation

variable {σ τ label : Type*}

/-- A run from `start`, with the labels of its visible steps. -/
inductive Trace (step : σ → Option label → σ → Prop) (start : σ) : List label → σ → Prop
  | refl : Trace step start [] start
  | silent {labels : List label} {s t : σ} (run : Trace step start labels s)
      (steps : step s none t)
      : Trace step start labels t
  | visible {labels : List label} {s t : σ} {l : label} (run : Trace step start labels s)
      (steps : step s (some l) t)
      : Trace step start (labels ++ [l]) t

/-- A run of a system is one of any system that has its steps. -/
theorem Trace.imp {step step' : σ → Option label → σ → Prop} {s t : σ} {labels : List label}
    (run : Trace step s labels t) (steps : ∀ s l t, step s l t → step' s l t)
    : Trace step' s labels t := by
  induction run with
  | refl => exact .refl
  | silent _ silent ih => exact ih.silent (steps _ _ _ silent)
  | visible _ visible ih => exact ih.visible (steps _ _ _ visible)

/-- A run of a system that computes its next label and state. -/
inductive Path (next : τ → Option (label × τ)) (start : τ) : List label → τ → Prop
  | refl : Path next start [] start
  | step {labels : List label} {s t : τ} {l : label} (run : Path next start labels s)
      (steps : next s = some (l, t))
      : Path next start (labels ++ [l]) t

/-- Silent steps keep the relation, and a visible step is one of the other system. -/
structure Simulates (step : σ → Option label → σ → Prop) (next : τ → Option (label × τ))
    (related : σ → τ → Prop)
    : Prop where
  silent : ∀ s s' t, related s t → step s none s' → related s' t
  visible
    : ∀ s s' t l,
        related s t → step s (some l) s' → ∃ t', next t = some (l, t') ∧ related s' t'

/-- Deleting the silent steps of a run leaves a run of the other system, by induction on
the run.
-/
theorem Simulates.path {step : σ → Option label → σ → Prop} {next : τ → Option (label × τ)}
    {related : σ → τ → Prop} (simulates : Simulates step next related) {s s' : σ} {t : τ}
    {labels : List label} (start : related s t) (run : Trace step s labels s')
    : ∃ t', Path next t labels t' ∧ related s' t' := by
  induction run with
  | refl => exact ⟨t, .refl, start⟩
  | silent _ steps ih =>
      obtain ⟨t', path, kept⟩ := ih
      exact ⟨t', path, simulates.silent _ _ t' kept steps⟩
  | visible _ steps ih =>
      obtain ⟨t', path, kept⟩ := ih
      obtain ⟨u, moves, matched⟩ := simulates.visible _ _ t' _ kept steps
      exact ⟨u, path.step moves, matched⟩

section
variable {step : σ → Option label → σ → Prop} {step' : τ → Option label → τ → Prop}
  {related : σ → τ → Prop}

theorem Trace.trans {s t u : σ} {labels more : List label} (run : Trace step s labels t)
    (next : Trace step t more u)
    : Trace step s (labels ++ more) u := by
  induction next with
  | refl =>
      rw [List.append_nil]
      exact run
  | silent _ steps ih => exact ih.silent steps
  | visible _ steps ih =>
      rw [← List.append_assoc]
      exact ih.visible steps

theorem Trace.behind {s t u : σ} {labels : List label} (steps : step s none t)
    (run : Trace step t labels u)
    : Trace step s labels u :=
  (Trace.refl.silent steps).trans run

theorem Trace.cons {s t u : σ} {l : label} {labels : List label} (steps : step s (some l) t)
    (run : Trace step t labels u)
    : Trace step s (l :: labels) u :=
  (Trace.refl.visible steps).trans run

/-- Every step is matched by a run that shows the same. -/
def Matches (step : σ → Option label → σ → Prop) (step' : τ → Option label → τ → Prop)
    (related : σ → τ → Prop)
    : Prop :=
  ∀ s s' t l, related s t → step s l s' → ∃ t', Trace step' t l.toList t' ∧ related s' t'

/-- Every run is matched by one that shows the same, by induction on the run. -/
theorem Matches.trace (covers : Matches step step' related) {s s' : σ} {t : τ}
    {labels : List label} (start : related s t) (run : Trace step s labels s')
    : ∃ t', Trace step' t labels t' ∧ related s' t' := by
  induction run with
  | refl => exact ⟨t, .refl, start⟩
  | silent _ steps ih =>
      obtain ⟨u, before, kept⟩ := ih
      obtain ⟨t', after, matched⟩ := covers _ _ u _ kept steps
      have whole := before.trans after
      rw [Option.toList_none, List.append_nil] at whole
      exact ⟨t', whole, matched⟩
  | visible _ steps ih =>
      obtain ⟨u, before, kept⟩ := ih
      obtain ⟨t', after, matched⟩ := covers _ _ u _ kept steps
      exact ⟨t', before.trans after, matched⟩

end

end Simulation
