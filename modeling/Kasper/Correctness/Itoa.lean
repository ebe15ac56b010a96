import Mathlib.Data.List.GetD
import Kasper.Library.Numerals
import Kasper.Runtime.Utils

/-! `kspecem_itoa` prints the numbers it takes as they are or can negate; of every other
number its leading character is no digit.
-/

namespace Kasper

open ByteMemory Numerals

/-- The buffer with characters stored from `i` on. -/
def Buffer.fill (str : Buffer) (i : Nat) (chars : List Byte) : Buffer :=
  fun j => if i ≤ j then chars.getD (j - i) (str j) else str j

theorem Buffer.fill_nil (str : Buffer) (i : Nat) : str.fill i [] = str := by
  funext j
  simp [Buffer.fill]

theorem Buffer.put_fill (str : Buffer) (i : Nat) (c : Byte) (chars : List Byte)
    : (str.put i c).fill (i + 1) chars = str.fill i (c :: chars) := by
  funext j
  simp only [Buffer.fill, Buffer.put]
  rcases Nat.lt_trichotomy j i with below | rfl | above
  · rw [if_neg (by omega), if_neg (by omega), if_neg (by omega)]
  · rw [if_neg (by omega), if_pos rfl, if_pos (Nat.le_refl _), Nat.sub_self]
    rfl
  · have step : j - i = j - (i + 1) + 1 := by omega
    rw [if_pos (by omega), if_neg (by omega), if_pos (by omega), step, List.getD_cons_succ]

theorem Buffer.fill_put (str : Buffer) (c : Byte) (chars : List Byte)
    : (str.fill 0 chars).put chars.length c = str.fill 0 (chars ++ [c]) := by
  funext j
  simp only [Buffer.fill, Buffer.put, if_pos (Nat.zero_le j), Nat.sub_zero]
  rcases Nat.lt_trichotomy j chars.length with below | rfl | above
  · rw [if_neg (by omega), List.getD_append _ _ _ _ below]
  · rw [if_pos rfl, List.getD_append_right _ _ _ _ (Nat.le_refl _), Nat.sub_self]
    rfl
  · rw [if_neg (by omega), List.getD_eq_default _ _ (by omega),
      List.getD_eq_default _ _ (by simp; omega)]

/-- The loop reverses the characters between its ends, by induction on its rounds. -/
theorem reverseLoop_eq (str : Buffer) (start stop : Nat)
    : reverseLoop str start stop
      = fun j => if start ≤ j ∧ j ≤ stop then str (start + stop - j) else str j := by
  fun_induction reverseLoop str start stop with
  | case1 str start stop below tmp lower upper ih =>
      rw [ih]
      funext j
      simp only [upper, lower, tmp, Buffer.put]
      rcases Nat.lt_trichotomy j start with before | rfl | after
      · rw [if_neg (by omega), if_neg (by omega), if_neg (by omega), if_neg (by omega)]
      · rw [if_neg (by omega), if_pos rfl, if_pos (by omega)]
        congr 1
        omega
      · rcases Nat.lt_trichotomy j stop with inside | rfl | beyond
        · rw [if_pos (by omega), if_neg (by omega), if_neg (by omega), if_pos (by omega)]
          congr 1
          omega
        · rw [if_neg (by omega), if_neg (by omega), if_pos rfl, if_pos (by omega)]
          congr 1
          omega
        · rw [if_neg (by omega), if_neg (by omega), if_neg (by omega), if_neg (by omega)]
  | case2 str start stop done =>
      funext j
      split
      · congr 1
        omega
      · rfl

/-- `kspecem_reverse_str` reverses the characters before the terminator. -/
theorem reverseStr_fill (str : Buffer) (chars : List Byte)
    : reverseStr (str.fill 0 (chars ++ [0])) chars.length = str.fill 0 (chars.reverse ++ [0]) := by
  rw [reverseStr, reverseLoop_eq]
  funext j
  simp only [Buffer.fill, Nat.zero_le, true_and, if_true, Nat.sub_zero, Nat.zero_add]
  by_cases inside : j < chars.length
  · have mirrored : chars.length - 1 - j < chars.length := by omega
    rw [if_pos (by omega), List.getD_append _ _ _ _ mirrored,
      List.getD_append _ _ _ _ (by simpa using inside), List.getD_eq_getElem _ _ mirrored,
      List.getD_eq_getElem _ _ (by simpa using inside), List.getElem_reverse]
  · have after : chars.length ≤ j := Nat.le_of_not_lt inside
    have same : (chars ++ [0]).getD j (str j) = (chars.reverse ++ [0]).getD j (str j) := by
      rw [List.getD_append_right _ _ _ _ after,
        List.getD_append_right _ _ _ _ (by simpa using after), List.length_reverse]
    split
    · have first : j = 0 := by omega
      have none : chars = [] := List.length_eq_zero_iff.mp (by omega)
      rw [none, first]
      rfl
    · exact same

/-- A number by its sign and size. -/
def signed (negative : Bool) (m : Nat) : Int := if negative then -m else m

theorem signed_tmod (negative : Bool) (m base : Nat)
    : (signed negative m).tmod base = signed negative (m % base) := by
  cases negative with
  | true => exact Int.neg_tmod m base
  | false => rfl

theorem signed_tdiv (negative : Bool) (m base : Nat)
    : (signed negative m).tdiv base = signed negative (m / base) := by
  cases negative with
  | true => exact Int.neg_tdiv m base
  | false => rfl

theorem signed_eq_zero (negative : Bool) (m : Nat) : signed negative m = 0 ↔ m = 0 := by
  cases negative <;> simp [signed]

/-- The characters the loop stores, least significant first. -/
def storedDigits (base : Nat) (negative : Bool) (m : Nat) : List Byte :=
  (Nat.digits base m).map (fun d => remChar (signed negative d))

/-- The loop stores one character for each digit, by induction on the fuel. -/
theorem itoaLoop_digits {base : Nat} (two : 2 ≤ base) (negative : Bool) {fuel m : Nat}
    (enough : (Nat.digits base m).length < fuel) (str : Buffer) (i : Nat)
    : itoaLoop base fuel (signed negative m) str i
      = some (str.fill i (storedDigits base negative m), i + (Nat.digits base m).length) := by
  induction fuel generalizing m str i with
  | zero => exact absurd enough (Nat.not_lt_zero _)
  | succ fuel ih =>
      rw [itoaLoop]
      by_cases zero : m = 0
      · subst zero
        simp [signed_eq_zero, storedDigits, Buffer.fill_nil]
      · have step : Nat.digits base m = m % base :: Nat.digits base (m / base) :=
          Nat.digits_def' two (Nat.pos_of_ne_zero zero)
        rw [step, List.length_cons] at enough
        rw [if_pos (by simpa [signed_eq_zero] using zero), signed_tmod, signed_tdiv,
          ih (by omega), Buffer.put_fill, storedDigits, storedDigits, step, List.map_cons,
          List.length_cons, Nat.add_assoc, Nat.add_comm 1]

/-- The character of a remainder that is not negative is its digit. -/
theorem remChar_natCast (d : Nat) : remChar (signed false d) = digitOf d := by
  have plain : signed false d = (d : Int) := rfl
  rw [plain, remChar, digitOf]
  by_cases letter : 9 < d
  · have same : (d : Int) - 10 + 0x61 = ((d - 10 + 97 : Nat) : Int) := by omega
    have high : (d : Int) > 9 := by omega
    rw [if_pos high, if_pos letter, same]
    exact BitVec.ofInt_natCast _ _
  · have low : ¬(d : Int) > 9 := by omega
    rw [if_neg low, if_neg letter]
    exact BitVec.ofInt_natCast _ (d + 48)

theorem remChar_neg_toNat (d : Nat) (small : d < 36)
    : (remChar (signed true d)).toNat = 48 - d := by
  have negated : signed true d = -(d : Int) := rfl
  rw [negated, remChar, if_neg (by omega), BitVec.toNat_ofInt]
  omega

/-- The character of a negative remainder comes before those of all digits. -/
theorem digitValue_remChar_neg {d : Nat} (positive : 0 < d) (small : d < 36)
    : digitValue (remChar (signed true d)) = none := by
  rw [digitValue, remChar_neg_toNat d small, if_neg (by omega), if_neg (by omega)]

/-- No character is the terminator. -/
theorem remChar_ne_zero (negative : Bool) {d : Nat} (small : d < 36)
    : remChar (signed negative d) ≠ 0 := by
  intro zero
  cases negative with
  | true =>
      rcases Nat.eq_zero_or_pos d with rfl | positive
      · revert zero
        decide
      · have value : (remChar (signed true d)).toNat = 48 - d := remChar_neg_toNat d small
        rw [zero] at value
        have : 48 - d = 0 := value.symm
        omega
  | false =>
      rw [remChar_natCast] at zero
      have digit := digitValue_digitOf small
      rw [zero] at digit
      revert digit
      simp [digitValue]

-----------------------------------------------------------------------------------------
-- Numerals
-----------------------------------------------------------------------------------------

/-- The number whose digits `kspecem_itoa` stores: the negation wraps around. -/
def magnitude (num : BitVec 64) (base : Nat) : Int :=
  if num.toInt < 0 ∧ base = 10 then (-num).toInt else num.toInt

/-- The characters `kspecem_itoa` leaves in its buffer. -/
def numeral (num : BitVec 64) (base : Nat) : List Byte :=
  if num = 0 then [digitOf 0]
  else
    (if num.toInt < 0 ∧ base = 10 then [0x2d] else [])
      ++ (storedDigits base (magnitude num base < 0) (magnitude num base).natAbs).reverse

theorem signed_natAbs (z : Int) : signed (z < 0) z.natAbs = z := by
  by_cases negative : z < 0
  · simp only [signed, negative, decide_true, if_true]
    omega
  · simp only [signed, negative, decide_false, Bool.false_eq_true, if_false]
    omega

theorem digits_length_le {base : Nat} (two : 2 ≤ base) (num : BitVec 64)
    : (Nat.digits base num.toInt.natAbs).length ≤ 64 := by
  rw [Nat.digits_length_le_iff two]
  have fits := @BitVec.toInt_lt 64 num
  have least := @BitVec.le_toInt 64 num
  calc num.toInt.natAbs
      < 2 ^ 64 := by omega
    _ ≤ base ^ 64 := Nat.pow_le_pow_left two 64

theorem magnitude_digits_length_le {base : Nat} (two : 2 ≤ base) (num : BitVec 64)
    : (Nat.digits base (magnitude num base).natAbs).length ≤ 64 := by
  rw [magnitude]
  split
  · exact digits_length_le two (-num)
  · exact digits_length_le two num

/-- The digit loop on the number that `kspecem_itoa` hands it. -/
theorem itoaLoop_magnitude {base fuel : Nat} (two : 2 ≤ base) (enough : 64 < fuel)
    (num : BitVec 64) (str : Buffer)
    : ∃ stored, storedDigits base (magnitude num base < 0) (magnitude num base).natAbs = stored
      ∧ itoaLoop base fuel (magnitude num base) str 0
        = some (str.fill 0 stored, stored.length) := by
  have short := Nat.lt_of_le_of_lt (magnitude_digits_length_le two num) enough
  have run := itoaLoop_digits two (magnitude num base < 0) short str 0
  rw [signed_natAbs, Nat.zero_add] at run
  refine ⟨_, rfl, ?_⟩
  rw [run, storedDigits, List.length_map]

/-- Whatever the number, `kspecem_itoa` returns with these characters in the buffer. -/
theorem itoa_numeral {base fuel : Nat} (two : 2 ≤ base) (enough : 64 < fuel) (num : BitVec 64)
    (str : Buffer)
    : itoa fuel num str base = some (str.fill 0 (numeral num base ++ [0])) := by
  by_cases zero : num = 0
  · rw [itoa, numeral, if_pos zero, if_pos zero, List.singleton_append, ← Buffer.put_fill,
      ← Buffer.put_fill, Buffer.fill_nil]
    rfl
  · obtain ⟨stored, digits, loop⟩ := itoaLoop_magnitude two enough num str
    have ten : ((base : Int) = 10) = (base = 10) := by
      rw [eq_iff_iff]
      omega
    rw [numeral, if_neg zero, digits]
    simp only [itoa, if_neg zero, ten]
    by_cases negative : num.toInt < 0 ∧ base = 10
    · have handed : (-num).toInt = magnitude num base := by rw [magnitude, if_pos negative]
      simp only [if_pos negative, handed, loop, Option.bind_eq_bind, Option.bind_some,
        Buffer.fill_put]
      have length : stored.length + 1 = (stored ++ [0x2d]).length := by
        rw [List.length_append, List.length_singleton]
      rw [length, Buffer.fill_put, reverseStr_fill, List.reverse_append]
      rfl
    · have handed : num.toInt = magnitude num base := by rw [magnitude, if_neg negative]
      simp only [if_neg negative]
      rw [handed, loop, Option.bind_eq_bind, Option.bind_some, Buffer.fill_put, reverseStr_fill]
      rfl

/-- The string in a buffer: its characters, then the terminator. -/
def Buffer.IsString (str : Buffer) (chars : List Byte) : Prop :=
  0 ∉ chars ∧ ∀ i ≤ chars.length, str i = (chars ++ [0]).getD i 0

/-- The numeral of a number: its value is the number, or the number modulo `2^64` when it is
negative and the base is not 10.
-/
def Prints (num : BitVec 64) (base : Nat) (chars : List Byte) : Prop :=
  if num.toInt < 0 ∧ base = 10 then
    ∃ digits, chars = 0x2d :: digits ∧ Denotes base num.toInt.natAbs digits
  else
    Denotes base num.toNat chars

/-- A sign is no digit. -/
theorem not_denotes_sign {base n : Nat} {digits : List Byte}
    : ¬Denotes base n (0x2d :: digits) :=
  not_denotes_of_head rfl (by decide)

/-- One numeral is that of one number. -/
theorem Prints.unique {num other : BitVec 64} {base : Nat} {chars : List Byte}
    (h : Prints num base chars) (h' : Prints other base chars)
    : other = num := by
  rw [Prints] at h h'
  split at h
  case isTrue negative =>
    obtain ⟨digits, rfl, denotes⟩ := h
    split at h'
    case isTrue negative' =>
      obtain ⟨digits', same, denotes'⟩ := h'
      obtain rfl := List.tail_eq_of_cons_eq same
      have value := denotes.unique denotes'
      apply BitVec.eq_of_toInt_eq
      omega
    case isFalse => exact absurd h' not_denotes_sign
  case isFalse =>
    split at h'
    case isTrue =>
      obtain ⟨digits, rfl, denotes⟩ := h'
      exact absurd h not_denotes_sign
    case isFalse => exact BitVec.eq_of_toNat_eq (h.unique h')

theorem numeral_no_nul {base : Nat} (two : 2 ≤ base) (most : base ≤ 36) (num : BitVec 64)
    : 0 ∉ numeral num base := by
  intro nul
  rw [numeral] at nul
  split at nul
  case isTrue =>
    revert nul
    decide
  case isFalse =>
    rcases List.mem_append.mp nul with sign | stored
    · split at sign
      · revert sign
        decide
      · contradiction
    · rw [List.mem_reverse, storedDigits, List.mem_map] at stored
      obtain ⟨d, digit, isNul⟩ := stored
      have small : d < base := Nat.digits_lt_base two digit
      exact remChar_ne_zero _ (by omega) isNul

/-- Digits stored of a number that is not negative denote it. -/
theorem denotes_storedDigits {base m : Nat} (two : 2 ≤ base) (most : base ≤ 36)
    (positive : m ≠ 0)
    : Denotes base m (storedDigits base false m).reverse := by
  have same : storedDigits base false m = (Nat.digits base m).map digitOf :=
    List.map_congr_left (fun d _ => remChar_natCast d)
  rw [same, ← List.map_reverse]
  exact denotes_digits two most positive

/-- Digits stored of a negative number denote nothing: the leading one is no digit. -/
theorem not_denotes_storedDigits {base m n : Nat} (two : 2 ≤ base) (most : base ≤ 36)
    (positive : m ≠ 0)
    : ¬Denotes base n (storedDigits base true m).reverse := by
  have some_digits : Nat.digits base m ≠ [] := Nat.digits_ne_nil_iff_ne_zero.mpr positive
  have leading : 0 < (Nat.digits base m).getLast some_digits :=
    Nat.pos_of_ne_zero (Nat.getLast_digit_ne_zero base positive)
  have small : (Nat.digits base m).getLast some_digits < base :=
    Nat.digits_lt_base two (List.getLast_mem some_digits)
  have head : (storedDigits base true m).reverse.head?
      = some (remChar (signed true ((Nat.digits base m).getLast some_digits))) := by
    rw [storedDigits, List.head?_reverse, List.getLast?_map,
      List.getLast?_eq_some_getLast some_digits, Option.map_some]
  exact not_denotes_of_head head (digitValue_remChar_neg leading (by omega))

/-- The number is not negative, or it is negated without overflow. -/
def Printable (num : BitVec 64) (base : Nat) : Prop :=
  0 ≤ num.toInt ∨ base = 10 ∧ num ≠ BitVec.intMin 64

theorem magnitude_of_printable {num : BitVec 64} {base : Nat} (printable : Printable num base)
    : magnitude num base = num.toInt.natAbs := by
  rw [magnitude]
  rcases printable with positive | ⟨ten, negates⟩
  · rw [if_neg (by omega)]
    omega
  · split
    · rw [BitVec.toInt_neg_of_ne_intMin negates]
      omega
    · omega

theorem magnitude_of_not_printable {num : BitVec 64} {base : Nat}
    (refused : ¬Printable num base)
    : num.toInt < 0 ∧ magnitude num base = num.toInt := by
  rw [Printable, not_or, not_and, not_ne_iff] at refused
  obtain ⟨negative, least⟩ := refused
  refine ⟨by omega, ?_⟩
  rw [magnitude]
  split
  case isTrue ten => rw [least ten.2, BitVec.neg_intMin]
  case isFalse => rfl

/-- The numeral is right when the digits are taken off a number that is not negative. -/
theorem prints_numeral {base : Nat} (two : 2 ≤ base) (most : base ≤ 36) (num : BitVec 64)
    : Prints num base (numeral num base) ↔ Printable num base := by
  by_cases zero : num = 0
  · rw [numeral, if_pos zero, zero]
    exact ⟨fun _ => .inl (Int.le_refl _), fun _ => denotes_zero (by omega)⟩
  · have nonzero : num.toInt.natAbs ≠ 0 :=
      fun none => zero (BitVec.eq_of_toInt_eq (Int.natAbs_eq_zero.mp none))
    rw [numeral, if_neg zero]
    by_cases printable : Printable num base
    · have digits := magnitude_of_printable printable
      have positive : ¬magnitude num base < 0 := by omega
      have size : (magnitude num base).natAbs = num.toInt.natAbs := by omega
      have denotes := denotes_storedDigits two most nonzero
      simp only [positive, decide_false, size, Prints]
      refine iff_of_true ?_ printable
      split
      case isTrue => exact ⟨_, rfl, denotes⟩
      case isFalse plain =>
        have unsigned : num.toNat = num.toInt.natAbs := by
          have value := BitVec.toInt_eq_toNat_cond num
          have fits := num.isLt
          rcases printable with positive | ⟨ten, _⟩
          · omega
          · omega
        rwa [unsigned]
    · obtain ⟨negative, digits⟩ := magnitude_of_not_printable printable
      have nothing (n : Nat) := @not_denotes_storedDigits base _ n two most nonzero
      simp only [digits, negative, decide_true, Prints, true_and]
      refine iff_of_false ?_ printable
      split
      case isTrue =>
        rintro ⟨digits', same, denotes⟩
        rw [List.singleton_append, List.cons_eq_cons] at same
        exact nothing _ (same.2 ▸ denotes)
      case isFalse => exact nothing _

-----------------------------------------------------------------------------------------
-- Distinct numbers
-----------------------------------------------------------------------------------------

/-- The signed digit a stored character stands for. -/
def remOf (c : Byte) : Int :=
  if c.toNat > 57 then c.toNat - 87 else c.toNat - 48

/-- The number whose digits were stored, least significant first. -/
def storedValue (base : Nat) : List Byte → Int
  | [] => 0
  | c :: chars => remOf c + base * storedValue base chars

theorem remOf_remChar (negative : Bool) {d : Nat} (small : d < 36)
    : remOf (remChar (signed negative d)) = signed negative d := by
  cases negative with
  | true =>
      rw [remOf, remChar_neg_toNat d small, if_neg (by omega)]
      simp only [signed, if_true]
      omega
  | false =>
      have value : (remChar (signed false d)).toNat = if d > 9 then d + 87 else d + 48 := by
        rw [remChar_natCast, digitOf]
        split <;> rw [BitVec.toNat_ofNat] <;> omega
      rw [remOf, value]
      simp only [signed, Bool.false_eq_true, if_false]
      split <;> split <;> omega

/-- Reading the stored digits gives their number back, by induction on the digits. -/
theorem storedValue_map {base : Nat} (negative : Bool) (ds : List Nat)
    (small : ∀ d ∈ ds, d < 36)
    : storedValue base (ds.map fun d => remChar (signed negative d))
      = signed negative (Nat.ofDigits base ds) := by
  induction ds with
  | nil => cases negative <;> rfl
  | cons d ds ih =>
      have rest := ih fun e member => small e (List.mem_cons_of_mem d member)
      rw [List.map_cons, storedValue, rest, remOf_remChar negative (small d List.mem_cons_self),
        Nat.ofDigits_cons]
      cases negative with
      | true =>
          simp only [signed, if_true]
          push_cast
          ring
      | false =>
          simp only [signed, Bool.false_eq_true, if_false]
          push_cast
          ring

theorem storedValue_digits {base : Nat} (two : 2 ≤ base) (most : base ≤ 36) (z : Int)
    : storedValue base (storedDigits base (z < 0) z.natAbs) = z := by
  have small : ∀ d ∈ Nat.digits base z.natAbs, d < 36 := fun d member =>
    (Nat.digits_lt_base two member).trans_le most
  rw [storedDigits, storedValue_map _ _ small, Nat.ofDigits_digits, signed_natAbs]

/-- An unsigned numeral gives the number back when its digits are read. -/
theorem storedValue_numeral {base : Nat} (two : 2 ≤ base) (most : base ≤ 36) {num : BitVec 64}
    (unsigned : ¬(num.toInt < 0 ∧ base = 10))
    : storedValue base (numeral num base).reverse = num.toInt := by
  by_cases zero : num = 0
  · rw [numeral, if_pos zero, zero, List.reverse_singleton, storedValue, storedValue, Int.mul_zero]
    rfl
  · rw [numeral, if_neg zero, if_neg unsigned, List.nil_append, List.reverse_reverse,
      storedValue_digits two most, magnitude, if_neg unsigned]

/-- Behind its sign a numeral has the digits of the negated number. -/
theorem numeral_signed {num : BitVec 64} (negative : num.toInt < 0)
    : ∃ chars, numeral num 10 = 0x2d :: chars ∧ storedValue 10 chars.reverse = (-num).toInt := by
  have nonzero : num ≠ 0 := fun zero => absurd negative (by rw [zero]; decide)
  have size : magnitude num 10 = (-num).toInt := by rw [magnitude, if_pos ⟨negative, rfl⟩]
  refine ⟨_, by rw [numeral, if_neg nonzero, if_pos ⟨negative, rfl⟩, List.singleton_append], ?_⟩
  rw [List.reverse_reverse, storedValue_digits (by decide) (by decide), size]

/-- In base 10 a number that is not negative has no sign. -/
theorem numeral_ne_signed {num : BitVec 64} (positive : ¬num.toInt < 0) {chars : List Byte}
    : numeral num 10 ≠ 0x2d :: chars := by
  intro same
  have prints : Prints num 10 (numeral num 10) :=
    (prints_numeral (by decide) (by decide) num).mpr (Or.inl (Int.not_lt.mp positive))
  rw [Prints, if_neg (fun signed => positive signed.1), same] at prints
  exact not_denotes_sign prints

/-- Distinct numbers have distinct numerals, also where these are wrong. -/
theorem numeral_injective {base : Nat} (two : 2 ≤ base) (most : base ≤ 36)
    {num other : BitVec 64} (same : numeral other base = numeral num base)
    : other = num := by
  apply BitVec.eq_of_toInt_eq
  by_cases ten : base = 10
  · subst ten
    by_cases negative : num.toInt < 0
    · obtain ⟨chars, signed, value⟩ := numeral_signed negative
      by_cases negative' : other.toInt < 0
      · obtain ⟨chars', signed', value'⟩ := numeral_signed negative'
        obtain rfl := List.tail_eq_of_cons_eq (signed'.symm.trans (same.trans signed))
        have negated : -other = -num := BitVec.eq_of_toInt_eq (value'.symm.trans value)
        exact congrArg BitVec.toInt (BitVec.neg_inj.mp negated)
      · exact absurd (same.trans signed) (numeral_ne_signed negative')
    · by_cases negative' : other.toInt < 0
      · obtain ⟨chars', signed', _⟩ := numeral_signed negative'
        exact absurd (same.symm.trans signed') (numeral_ne_signed negative)
      · have value := storedValue_numeral two most (fun signed => negative' signed.1)
        rw [same, storedValue_numeral two most (fun signed => negative signed.1)] at value
        exact value.symm
  · have value := @storedValue_numeral base two most other (fun signed => ten signed.2)
    rw [same, storedValue_numeral two most (fun signed => ten signed.2)] at value
    exact value.symm

/-- A buffer holds one string. -/
theorem Buffer.IsString.unique {str : Buffer} {chars other : List Byte}
    (h : str.IsString chars) (h' : str.IsString other)
    : chars = other := by
  have stops {long short : List Byte} (h : str.IsString long) (h' : str.IsString short)
      : long.length ≤ short.length := by
    by_contra past
    have below : short.length < long.length := Nat.lt_of_not_le past
    have nul := h'.2 short.length (Nat.le_refl _)
    have char := h.2 short.length (Nat.le_of_lt below)
    rw [List.getD_append_right _ _ _ _ (Nat.le_refl _), Nat.sub_self] at nul
    rw [List.getD_append _ _ _ _ below, List.getD_eq_getElem _ _ below] at char
    have zero : long[short.length] = 0 := char.symm.trans nul
    exact h.1 (zero ▸ List.getElem_mem below)
  apply List.ext_getElem (Nat.le_antisymm (stops h h') (stops h' h))
  intro i below below'
  have char := h.2 i (Nat.le_of_lt below)
  have char' := h'.2 i (Nat.le_of_lt below')
  rw [List.getD_append _ _ _ _ below, List.getD_eq_getElem _ _ below] at char
  rw [List.getD_append _ _ _ _ below', List.getD_eq_getElem _ _ below'] at char'
  exact char.symm.trans char'

-----------------------------------------------------------------------------------------
-- What is printed
-----------------------------------------------------------------------------------------

theorem numeral_length_le {base : Nat} (two : 2 ≤ base) (num : BitVec 64)
    : (numeral num base).length ≤ 65 := by
  have short := magnitude_digits_length_le two num
  rw [numeral]
  split
  · simp
  · rw [List.length_append, List.length_reverse, storedDigits, List.length_map]
    split
    · rw [List.length_singleton]
      omega
    · rw [List.length_nil]
      omega

/-- The numeral is the string in the buffer that `kspecem_itoa` fills. -/
theorem numeral_isString {base : Nat} (two : 2 ≤ base) (most : base ≤ 36) (num : BitVec 64)
    (str : Buffer)
    : (str.fill 0 (numeral num base ++ [0])).IsString (numeral num base) := by
  refine ⟨numeral_no_nul two most num, fun i inside => ?_⟩
  rw [Buffer.fill, if_pos (Nat.zero_le i), Nat.sub_zero,
    List.getD_eq_getElem _ _ (by simp; omega), List.getD_eq_getElem _ _ (by simp; omega)]

/-- `kspecem_itoa` always ends with a string in its buffer, and it is the numeral of the
number, and of no other, when the number is not negative or is negated without overflow. No
other number is ever printed alike.
-/
theorem itoa_prints_iff {base fuel : Nat} (two : 2 ≤ base) (most : base ≤ 36)
    (enough : 64 < fuel) (num : BitVec 64) (str : Buffer)
    : ∃ str' chars, itoa fuel num str base = some str' ∧ str'.IsString chars
      ∧ chars.length ≤ 65 ∧ (∀ j > chars.length, str' j = str j)
      ∧ ((Prints num base chars ∧ ∀ other, Prints other base chars → other = num)
        ↔ 0 ≤ num.toInt ∨ base = 10 ∧ num ≠ BitVec.intMin 64)
      ∧ ∀ other before after,
          itoa fuel other before base = some after → after.IsString chars → other = num := by
  refine ⟨_, numeral num base, itoa_numeral two enough num str,
    numeral_isString two most num str, numeral_length_le two num, fun j beyond => ?_, ?_, ?_⟩
  · rw [Buffer.fill, if_pos (Nat.zero_le j), Nat.sub_zero,
      List.getD_eq_default _ _ (by simp; omega)]
  · constructor
    · intro ⟨prints, _⟩
      exact (prints_numeral two most num).mp prints
    · intro printable
      have prints := (prints_numeral two most num).mpr printable
      exact ⟨prints, fun other alike => prints.unique alike⟩
  · intro other before after printed alike
    rw [itoa_numeral two enough] at printed
    obtain rfl := Option.some.inj printed
    exact numeral_injective two most ((numeral_isString two most other before).unique alike)

theorem itoa_prints_iff_sample
    : ∃ str' chars, itoa 65 (-42) (fun _ => 0xff) 10 = some str' ∧ str'.IsString chars
      ∧ chars.length ≤ 65 ∧ (∀ j > chars.length, str' j = 0xff)
      ∧ ((Prints (-42) 10 chars ∧ ∀ other, Prints other 10 chars → other = -42)
        ↔ 0 ≤ (-42 : BitVec 64).toInt ∨ 10 = 10 ∧ (-42 : BitVec 64) ≠ BitVec.intMin 64)
      ∧ ∀ other before after,
          itoa 65 other before 10 = some after → after.IsString chars → other = -42 :=
  @itoa_prints_iff 10 65 (by decide) (by decide) (by decide) (-42) (fun _ => 0xff)

/-- Minus one in hexadecimal prints as a slash. -/
theorem itoa_negative_hex
    : ∃ str', itoa 65 (-1) (fun _ => 0) 16 = some str'
      ∧ ∀ chars, str'.IsString chars → ¬Prints (-1) 16 chars := by
  have slash : numeral (-1) 16 = [0x2f] := by
    have digits : Nat.digits 16 1 = [1] := by simp
    have size : (magnitude (-1) 16).natAbs = 1 := by decide
    have negative : magnitude (-1) 16 < 0 := by decide
    rw [numeral, if_neg (by decide), if_neg (by decide), List.nil_append, storedDigits, size,
      digits, decide_eq_true negative]
    rfl
  refine ⟨_, itoa_numeral (by decide) (by decide) (-1) (fun _ => 0), fun chars string => ?_⟩
  rw [slash] at string
  have first := string.2 0 (Nat.zero_le _)
  cases chars with
  | nil => exact absurd first (by decide)
  | cons c rest =>
      obtain rfl : (0x2f : Byte) = c := first
      exact @not_denotes_of_head 16 _ _ 0x2f rfl (by decide)

end Kasper
