import Mathlib.Logic.Basic

/-! Rules for stateful computations that return or leave by an exit.
Both ways of ending keep the state reached, so a postcondition is a pair: one for the
values returned and one for the exits taken.
-/

namespace Exits

variable {ε σ α β : Type}

/-- Running `c` from `s` ends in a return that meets `Q` or an exit that meets `E`. -/
def Ends (c : EStateM ε σ α) (Q : α → σ → Prop) (E : ε → σ → Prop) (s : σ) : Prop :=
  match c s with
  | .ok a t => Q a t
  | .error e t => E e t

variable {Q Q' : α → σ → Prop} {E E' : ε → σ → Prop} {s : σ}

/-- Postconditions may be weakened. -/
theorem Ends.imp {c : EStateM ε σ α} (h : Ends c Q E s) (value : ∀ a t, Q a t → Q' a t)
    (exit : ∀ e t, E e t → E' e t)
    : Ends c Q' E' s := by
  unfold Ends at *
  cases result : c s with
  | ok a t => exact value a t (by simpa only [result] using h)
  | error e t => exact exit e t (by simpa only [result] using h)

/-- Run a computation, then what follows it from wherever it returned. -/
theorem Ends.bind {c : EStateM ε σ β} {f : β → EStateM ε σ α} {R : β → σ → Prop}
    (h : Ends c R E s) (next : ∀ b t, R b t → Ends (f b) Q E t)
    : Ends (c >>= f) Q E s := by
  unfold Ends at *
  simp only [Bind.bind, EStateM.bind]
  cases result : c s with
  | ok b t => exact next b t (by simpa only [result] using h)
  | error e t => simpa only [result] using h

/-- Every run ends in some way. -/
theorem Ends.trivial (c : EStateM ε σ α) : Ends c (fun _ _ => True) (fun _ _ => True) s := by
  unfold Ends
  cases c s <;> exact True.intro

/-- Two postconditions of one run hold together. -/
theorem Ends.and {c : EStateM ε σ α} (h : Ends c Q E s) (h' : Ends c Q' E' s)
    : Ends c (fun a t => Q a t ∧ Q' a t) (fun e t => E e t ∧ E' e t) s := by
  unfold Ends at *
  cases result : c s with
  | ok a t => simp only [result] at h h'; exact ⟨h, h'⟩
  | error e t => simp only [result] at h h'; exact ⟨h, h'⟩

/-- What holds however the run ends holds. -/
theorem Ends.const {c : EStateM ε σ α} {p : Prop} (h : Ends c (fun _ _ => p) (fun _ _ => p) s)
    : p := by
  unfold Ends at h
  cases result : c s <;> simpa only [result] using h

theorem Ends.of_ok {c : EStateM ε σ α} {a : α} {t : σ} (h : Ends c Q E s)
    (result : c s = .ok a t)
    : Q a t := by
  simpa only [Ends, result] using h

theorem Ends.of_error {c : EStateM ε σ α} {e : ε} {t : σ} (h : Ends c Q E s)
    (result : c s = .error e t)
    : E e t := by
  simpa only [Ends, result] using h

/-- A run that takes no exit returns. -/
theorem Ends.returns {c : EStateM ε σ α} (h : Ends c Q (fun _ _ => False) s)
    : ∃ a t, c s = .ok a t := by
  unfold Ends at h
  cases result : c s with
  | ok a t => exact ⟨a, t, rfl⟩
  | error e t =>
      rw [result] at h
      exact h.elim

/-- A run is described by a postcondition pair when both of its endings are. -/
theorem Ends.intro {c : EStateM ε σ α} (value : ∀ a t, c s = .ok a t → Q a t)
    (exit : ∀ e t, c s = .error e t → E e t)
    : Ends c Q E s := by
  unfold Ends
  cases result : c s with
  | ok a t => exact value a t result
  | error e t => exact exit e t result

/-- Reading the state does not change it. -/
theorem run_get_bind (f : σ → EStateM ε σ α) (s : σ) : (get >>= f) s = f s s := rfl

/-- What follows a computation that returned runs from where it did. -/
theorem run_bind {c : EStateM ε σ β} {b : β} {t : σ} (f : β → EStateM ε σ α)
    (returned : c s = .ok b t)
    : (c >>= f) s = f b t := by
  simp only [Bind.bind, EStateM.bind, returned]

/-- Where a sequence returned, its first part did. -/
theorem ok_of_bind {c : EStateM ε σ β} {f : β → EStateM ε σ α} {s t : σ} {a : α}
    (returned : (c >>= f) s = .ok a t)
    : ∃ b u, c s = .ok b u ∧ f b u = .ok a t := by
  cases result : c s with
  | ok b u => exact ⟨b, u, rfl, (run_bind f result).symm.trans returned⟩
  | error e u =>
      simp only [Bind.bind, EStateM.bind, result] at returned
      cases returned

theorem run_modify_bind (g : σ → σ) (f : PUnit → EStateM ε σ α) (s : σ)
    : ((modify g : EStateM ε σ PUnit) >>= f) s = f ⟨⟩ (g s) :=
  rfl

@[simp] theorem ends_pure (a : α) : Ends (pure a : EStateM ε σ α) Q E s ↔ Q a s :=
  Iff.rfl

@[simp] theorem ends_bind (c : EStateM ε σ β) (f : β → EStateM ε σ α)
    : Ends (c >>= f) Q E s ↔ Ends c (fun b t => Ends (f b) Q E t) E s := by
  simp only [Ends, bind, EStateM.bind]
  cases c s <;> rfl

@[simp] theorem ends_map (c : EStateM ε σ β) (f : β → α)
    : Ends (f <$> c) Q E s ↔ Ends c (fun b t => Q (f b) t) E s := by
  simp only [Ends, Functor.map, EStateM.map]
  cases c s <;> rfl

@[simp] theorem ends_get {R : σ → σ → Prop}
    : Ends (get : EStateM ε σ σ) R E s ↔ R s s :=
  Iff.rfl

@[simp] theorem ends_set {R : PUnit → σ → Prop} (t : σ)
    : Ends (set t : EStateM ε σ PUnit) R E s ↔ R ⟨⟩ t :=
  Iff.rfl

@[simp] theorem ends_modify {R : PUnit → σ → Prop} (f : σ → σ)
    : Ends (modify f : EStateM ε σ PUnit) R E s ↔ R ⟨⟩ (f s) :=
  Iff.rfl

@[simp] theorem ends_throw (e : ε) : Ends (throw e : EStateM ε σ α) Q E s ↔ E e s :=
  Iff.rfl

/-- A handler runs from the state the exit was taken in. -/
@[simp] theorem ends_tryCatch (c : EStateM ε σ α) (handler : ε → EStateM ε σ α)
    : Ends (tryCatch c handler) Q E s ↔ Ends c Q (fun e t => Ends (handler e) Q E t) s := by
  change Ends (EStateM.tryCatch c handler) Q E s ↔ _
  unfold Ends EStateM.tryCatch
  cases c s <;> rfl

/-- A conditional ends as its chosen branch does. -/
theorem ends_ite (p : Prop) [Decidable p] (c d : EStateM ε σ α)
    : Ends (if p then c else d) Q E s ↔ (p → Ends c Q E s) ∧ (¬p → Ends d Q E s) := by
  by_cases h : p <;> simp [h]

/-- `c` keeps `I` where it returns, and meets `E` where it exits. -/
def Keeps (I : σ → Prop) (E : ε → σ → Prop) (c : EStateM ε σ α) : Prop :=
  ∀ s, I s → Ends c (fun _ t => I t) E s

variable {I : σ → Prop}

theorem keeps_pure (a : α) : Keeps I E (pure a : EStateM ε σ α) :=
  fun _ h => h

theorem keeps_bind {c : EStateM ε σ β} {f : β → EStateM ε σ α} (h : Keeps I E c)
    (next : ∀ b, Keeps I E (f b))
    : Keeps I E (c >>= f) :=
  fun s start => (h s start).bind (fun b t kept => next b t kept)

/-- A read hands its continuation a state that meets the invariant. -/
theorem keeps_get_bind {f : σ → EStateM ε σ α} (next : ∀ s, I s → Ends (f s) (fun _ t => I t) E s)
    : Keeps I E (get >>= f) :=
  fun s start => next s start

theorem keeps_modify {f : σ → σ} (h : ∀ s, I s → I (f s))
    : Keeps I E (modify f : EStateM ε σ PUnit) :=
  fun s start => h s start

theorem keeps_throw {e : ε} (h : ∀ s, I s → E e s) : Keeps I E (throw e : EStateM ε σ α) :=
  fun s start => h s start

theorem keeps_ite {p : Prop} [Decidable p] {c d : EStateM ε σ α} (yes : p → Keeps I E c)
    (no : ¬p → Keeps I E d)
    : Keeps I E (if p then c else d) := by
  by_cases h : p
  · simpa only [if_pos h] using yes h
  · simpa only [if_neg h] using no h

/-- `c` takes an exit from every state. -/
def Diverges (c : EStateM ε σ α) : Prop :=
  ∀ s, Ends c (fun _ _ => False) (fun _ _ => True) s

theorem diverges_throw (e : ε) : Diverges (throw e : EStateM ε σ α) :=
  fun _ => True.intro

/-- What leaves behind a computation leaves with it. -/
theorem diverges_bind {c : EStateM ε σ β} {f : β → EStateM ε σ α} (next : ∀ b, Diverges (f b))
    : Diverges (c >>= f) :=
  fun _ => (Ends.trivial c).bind (fun b t _ => next b t)

theorem Diverges.bind {c : EStateM ε σ β} (leaves : Diverges c) (f : β → EStateM ε σ α)
    : Diverges (c >>= f) :=
  fun s => (leaves s).bind (fun _ _ no => no.elim)

theorem diverges_ite {p : Prop} [Decidable p] {c d : EStateM ε σ α} (yes : Diverges c)
    (no : Diverges d)
    : Diverges (if p then c else d) := by
  by_cases h : p
  · simpa only [if_pos h] using yes
  · simpa only [if_neg h] using no

end Exits
