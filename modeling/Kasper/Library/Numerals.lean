import Mathlib.Data.Nat.Digits.Lemmas

/-! Numerals in any base up to 36, as ASCII characters, most significant digit first. -/

namespace Numerals

variable {base n d : Nat} {digits rest : List (BitVec 8)}

/-- The digit a character stands for: `0` to `9`, then `a` to `z`. -/
def digitValue (c : BitVec 8) : Option Nat :=
  if 48 ≤ c.toNat ∧ c.toNat ≤ 57 then some (c.toNat - 48)
  else if 97 ≤ c.toNat ∧ c.toNat ≤ 122 then some (c.toNat - 87)
  else none

/-- The character of a digit. -/
def digitOf (d : Nat) : BitVec 8 :=
  if d > 9 then BitVec.ofNat 8 (d - 10 + 97) else BitVec.ofNat 8 (d + 48)

/-- Read the digits that follow a value. -/
def readFrom (base : Nat) (value : Nat) : List (BitVec 8) → Option Nat
  | [] => some value
  | c :: rest =>
      match digitValue c with
      | some d => if d < base then readFrom base (value * base + d) rest else none
      | none => none

/-- The digits of a number have no leading zero, zero itself apart. -/
def Canonical (digits : List (BitVec 8)) : Prop :=
  digits ≠ [] ∧ (digits.head? = some (digitOf 0) → digits.length = 1)

/-- A canonical numeral below the base that reads as the number. -/
structure Denotes (base n : Nat) (digits : List (BitVec 8)) : Prop where
  canonical : Canonical digits
  reads : readFrom base 0 digits = some n

theorem digitValue_digitOf (small : d < 36) : digitValue (digitOf d) = some d := by
  unfold digitOf
  split
  · have value : (BitVec.ofNat 8 (d - 10 + 97)).toNat = d + 87 := by
      rw [BitVec.toNat_ofNat]
      omega
    rw [digitValue, value, if_neg (by omega), if_pos (by omega)]
    congr 1
  · have value : (BitVec.ofNat 8 (d + 48)).toNat = d + 48 := by
      rw [BitVec.toNat_ofNat]
      omega
    rw [digitValue, value, if_pos (by omega)]
    congr 1

/-- Reading continues a number by its lower digits, by induction on these. -/
theorem readFrom_digits {ds : List Nat} (small : ∀ d ∈ ds, d < base) (most : base ≤ 36)
    (value : Nat)
    : readFrom base value (ds.map digitOf)
      = some (value * base ^ ds.length + Nat.ofDigits base ds.reverse) := by
  induction ds generalizing value with
  | nil => simp [readFrom]
  | cons d ds ih =>
      have here : d < base := small d List.mem_cons_self
      rw [List.map_cons, readFrom, digitValue_digitOf (by omega)]
      simp only [if_pos here]
      rw [ih (fun d later => small d (List.mem_cons_of_mem _ later)), List.length_cons,
        List.reverse_cons, Nat.ofDigits_append, Nat.ofDigits_singleton, List.length_reverse]
      congr 1
      ring

/-- The characters of a positive number denote it. -/
theorem denotes_digits (two : 2 ≤ base) (most : base ≤ 36) (positive : n ≠ 0)
    : Denotes base n ((Nat.digits base n).reverse.map digitOf) := by
  have small (d : Nat) (member : d ∈ (Nat.digits base n).reverse) : d < base :=
    Nat.digits_lt_base two (List.mem_reverse.mp member)
  have some_digits : Nat.digits base n ≠ [] := Nat.digits_ne_nil_iff_ne_zero.mpr positive
  refine ⟨⟨by simpa using some_digits, fun zero => ?_⟩, ?_⟩
  · have leading := Nat.getLast_digit_ne_zero base positive
    rw [List.head?_map, List.head?_reverse, List.getLast?_eq_some_getLast some_digits,
      Option.map_some, Option.some_inj] at zero
    have value := congrArg digitValue zero
    have last : (Nat.digits base n).getLast some_digits < base :=
      Nat.digits_lt_base two (List.getLast_mem some_digits)
    rw [digitValue_digitOf (by omega), digitValue_digitOf (by decide)] at value
    exact absurd (Option.some.inj value) leading
  · rw [readFrom_digits small most, List.reverse_reverse, Nat.ofDigits_digits]
    simp

theorem denotes_zero (positive : 0 < base) : Denotes base 0 [digitOf 0] := by
  refine ⟨⟨by simp, fun _ => rfl⟩, ?_⟩
  have value : digitValue (digitOf 0) = some 0 := digitValue_digitOf (by decide)
  simp [readFrom, value, positive]

/-- A numeral denotes one number. -/
theorem Denotes.unique {m : Nat} (h : Denotes base n digits) (other : Denotes base m digits)
    : m = n :=
  Option.some.inj (other.reads.symm.trans h.reads)

/-- Nothing that starts with another character is a numeral. -/
theorem not_denotes_of_head {c : BitVec 8} (head : digits.head? = some c)
    (noDigit : digitValue c = none)
    : ¬Denotes base n digits := by
  intro denotes
  have reads := denotes.reads
  cases digits with
  | nil => contradiction
  | cons first rest =>
      obtain rfl := Option.some.inj head
      simp [readFrom, noDigit] at reads

end Numerals
