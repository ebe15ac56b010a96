import Kasper.Passes.KSpecEmSpec
import Kasper.Runtime.Sample

/-! What the inserted select does to the one-byte swap flag and to its neighbours. -/

namespace Kasper

open ByteMemory
open Exits

variable {m : Memory} {a : Address}

/-- The three bytes after `a` are zero. -/
def FollowersZero (m : Memory) (a : Address) : Prop :=
  m (a + 1) = 0 ∧ m (a + 2) = 0 ∧ m (a + 3) = 0

/-- Two values of the same shape are equal part by part. -/
theorem append_eq_append {width rest : Nat} {x x' : BitVec width} {y y' : BitVec rest}
    (same : x ++ y = x' ++ y')
    : x = x' ∧ y = y' := by
  have high := congrArg (BitVec.extractLsb' rest width) same
  have low := congrArg (BitVec.extractLsb' 0 rest) same
  rw [BitVec.extractLsb'_append_eq_left, BitVec.extractLsb'_append_eq_left] at high
  rw [BitVec.extractLsb'_append_eq_right, BitVec.extractLsb'_append_eq_right] at low
  exact ⟨high, low⟩

/-- The load gives one exactly for a flag byte of one whose followers are zero. -/
theorem loadInt32_eq_one_iff : loadInt32 m a = 1 ↔ m a = 1 ∧ FollowersZero m a := by
  have one : (1 : BitVec 32) = (0 : Byte) ++ (0 : Byte) ++ (0 : Byte) ++ (1 : Byte) := rfl
  rw [loadInt32, one]
  constructor
  · intro same
    obtain ⟨same, flag⟩ := append_eq_append same
    obtain ⟨same, first⟩ := append_eq_append same
    obtain ⟨third, second⟩ := append_eq_append same
    exact ⟨flag, first, second, third⟩
  · intro bytes
    obtain ⟨flag, first, second, third⟩ := bytes
    rw [flag, first, second, third]

/-- The addresses of the access. -/
theorem within_four_cases {b : Address} (within : Within a 4 b)
    : b = a ∨ b = a + 1 ∨ b = a + 2 ∨ b = a + 3 := by
  rw [Within] at within
  have back : b = a + (b - a) := by rw [BitVec.add_comm, BitVec.sub_add_cancel]
  generalize b - a = distance at within back
  have cases : distance = 0 ∨ distance = 1 ∨ distance = 2 ∨ distance = 3 := by
    simp only [← BitVec.toNat_inj, BitVec.ofNat_eq_ofNat, BitVec.toNat_ofNat]
    omega
  rcases cases with rfl | rfl | rfl | rfl
  · exact Or.inl (by simpa using back)
  · exact Or.inr (Or.inl back)
  · exact Or.inr (Or.inr (Or.inl back))
  · exact Or.inr (Or.inr (Or.inr back))

/-- Distances from the start count the bytes of a range. -/
theorem within_add {n : Nat} (i : Address) : Within a n (a + i) ↔ i.toNat < n := by
  rw [Within, BitVec.add_comm, BitVec.add_sub_cancel]

/-- The store clears four bytes and leaves the rest. -/
theorem storeInt32_zero (b : Address)
    : storeInt32 m a 0 b = if Within a 4 b then 0 else m b := by
  have bytes (distance : Nat) (old : Byte)
      : [(0 : Byte), 0, 0, 0].getD distance old = if distance < 4 then 0 else old := by
    rcases distance with _ | _ | _ | _ | distance <;> rfl
  exact bytes (b - a).toNat (m b)

/-- A store to the flag itself. -/
theorem writeBytes_singleton (value : Byte) (b : Address)
    : writeBytes m a [value] b = if b = a then value else m b := by
  by_cases same : b = a
  · subst same
    simp only [writeBytes, BitVec.sub_self, if_true]
    rfl
  · rw [if_neg same]
    refine writeBytes_outside (fun within => same ?_)
    rw [Within, List.length_singleton, Nat.lt_one_iff] at within
    have zero : b - a = 0 := BitVec.eq_of_toNat_eq within
    calc
      b = a + (b - a) := by rw [BitVec.add_comm, BitVec.sub_add_cancel]
      _ = a := by rw [zero]; exact BitVec.add_zero a

/-- The inserted code inverts the branch exactly when the flag is set, and changes no byte
but the flag's, which it clears.
-/
def FlagRespected (kernel : Kernel) (condition : Condition) (s : Rt) : Prop :=
  Ends (branchSelect kernel condition)
    (fun taken t =>
      (taken = !condition.holds ↔ s.swapBranchCondition kernel = true)
      ∧ t = { s with mem := writeBytes s.mem kernel.swapBranchCondition [0] })
    (fun _ _ => False) s

/-- The chosen condition is the inverse exactly where the choice says so. -/
theorem select_inverts_iff (condition : Condition) (swapped : Prop) [Decidable swapped]
    : (if swapped then condition.inverted else condition).holds = (!condition.holds)
      ↔ swapped := by
  by_cases h : swapped
  · simp only [h, if_true, Condition.inverted_holds]
  · simp only [h, if_false, Bool.eq_not_self]

/-- Clearing four bytes clears the flag alone exactly when its followers are zero. -/
theorem storeInt32_eq_clear_iff
    : storeInt32 m a 0 = writeBytes m a [0] ↔ FollowersZero m a := by
  have follower (i : Address) (inside : Within a 4 (a + i)) (other : a + i ≠ a)
      (same : storeInt32 m a 0 = writeBytes m a [0]) : m (a + i) = 0 := by
    have byte := congrFun same (a + i)
    rw [storeInt32_zero, if_pos inside, writeBytes_singleton, if_neg other] at byte
    exact byte.symm
  constructor
  · intro same
    exact
      ⟨follower 1 ((within_add 1).mpr (by decide)) (by simp) same,
        follower 2 ((within_add 2).mpr (by decide)) (by simp) same,
        follower 3 ((within_add 3).mpr (by decide)) (by simp) same⟩
  · intro zeros
    obtain ⟨first, second, third⟩ := zeros
    funext b
    rw [storeInt32_zero, writeBytes_singleton]
    by_cases within : Within a 4 b
    · rw [if_pos within]
      rcases within_four_cases within with rfl | rfl | rfl | rfl
      · rw [if_pos rfl]
      · rw [if_neg (by simp), first]
      · rw [if_neg (by simp), second]
      · rw [if_neg (by simp), third]
    · have other : b ≠ a := by
        intro same
        exact within (by simp [same, Within])
      rw [if_neg within, if_neg other]

/-- A C `bool` is a byte of zero or one; for such a flag the select is right exactly when
the three bytes after the flag are zero.
-/
theorem branchSelect_exact (kernel : Kernel) (condition : Condition) (s : Rt)
    (isBool : s.mem kernel.swapBranchCondition = 0 ∨ s.mem kernel.swapBranchCondition = 1)
    : FlagRespected kernel condition s ↔ FollowersZero s.mem kernel.swapBranchCondition := by
  simp only [FlagRespected, branchSelect, ends_bind, ends_get, ends_modify, ends_pure]
  constructor
  · intro respected
    exact storeInt32_eq_clear_iff.mp (congrArg Rt.mem respected.2)
  · intro zeros
    refine ⟨(select_inverts_iff condition _).trans ?_,
      by rw [storeInt32_eq_clear_iff.mpr zeros]⟩
    rw [beq_iff_eq, loadInt32_eq_one_iff, Rt.swapBranchCondition, decide_eq_true_iff]
    rcases isBool with clear | set
    · simp [clear]
    · simp [set, zeros]

/-- The sample state with a set flag before zero bytes. -/
def flaggedRt (next : Byte) : Rt :=
  { sampleRt with mem := writeBytes sampleRt.mem sampleKernel.swapBranchCondition [1, next] }

theorem branchSelect_exact_sample
    : FlagRespected sampleKernel (.value true) (flaggedRt 0)
      ↔ FollowersZero (flaggedRt 0).mem sampleKernel.swapBranchCondition :=
  branchSelect_exact sampleKernel (.value true) (flaggedRt 0) (Or.inr rfl)

/-- A byte of one after the set flag: the branch is not inverted, and the byte is lost. -/
theorem branchSelect_hits_neighbour
    : ¬FlagRespected sampleKernel (.value true) (flaggedRt 1) := by
  intro respected
  have cleared := congrArg Rt.mem respected.2
  have zeros : FollowersZero (flaggedRt 1).mem sampleKernel.swapBranchCondition :=
    storeInt32_eq_clear_iff.mp cleared
  exact absurd zeros.1 (by decide)

end Kasper
