import Mathlib.Data.Nat.Basic
import Mathlib.Tactic.IntervalCases

/-! Byte-addressed memory with wrapping 64-bit addresses and eight-byte words.
Ranges are stated by the wrapped distance from their start, so no law assumes that a
range stays below the top of the address space.
-/

namespace ByteMemory

abbrev Address := BitVec 64
abbrev Byte := BitVec 8
abbrev Word := BitVec 64
abbrev Memory := Address → Byte

/-- `b` is one of the `n` bytes that start at `a`, counted around the top of memory. -/
def Within (a : Address) (n : Nat) (b : Address) : Prop :=
  (b - a).toNat < n

instance (a : Address) (n : Nat) (b : Address) : Decidable (Within a n b) :=
  inferInstanceAs (Decidable (_ < _))

/-- Clear the low `k` bits of an address. -/
def alignDown (k : Nat) (a : Address) : Address :=
  a &&& ~~~(BitVec.ofNat 64 (2 ^ k - 1))

/-- The aligned eight-byte word that holds an address. -/
def wordOf (a : Address) : Address :=
  alignDown 3 a

/-- Byte `i` of a little-endian word. -/
def wordByte (v : Word) (i : Nat) : Byte :=
  v.extractLsb' (8 * i) 8

def readWord (m : Memory) (a : Address) : Word :=
  m (a + 7) ++ m (a + 6) ++ m (a + 5) ++ m (a + 4) ++ m (a + 3) ++ m (a + 2) ++ m (a + 1) ++ m a

def writeWord (m : Memory) (a : Address) (v : Word) : Memory :=
  fun b => if Within a 8 b then wordByte v (b - a).toNat else m b

/-- Overwrite the bytes from `a` on by a list of bytes. -/
def writeBytes (m : Memory) (a : Address) (bytes : List Byte) : Memory :=
  fun b => bytes.getD (b - a).toNat (m b)

/-- Clearing low bits rounds down to a multiple of the power of two. -/
theorem toNat_alignDown (k : Nat) (a : Address)
    : (alignDown k a).toNat = a.toNat / 2 ^ k * 2 ^ k := by
  have shifted : alignDown k a = (a >>> k) <<< k := by
    apply BitVec.eq_of_getLsbD_eq
    intro i bound
    have low : (BitVec.ofNat 64 (2 ^ k - 1)).getLsbD i = decide (i < k) := by
      rw [BitVec.getLsbD_ofNat, Nat.testBit_two_pow_sub_one, decide_eq_true bound,
        Bool.true_and]
    simp only [alignDown, BitVec.getLsbD_and, BitVec.getLsbD_not, low, BitVec.getLsbD_shiftLeft,
      BitVec.getLsbD_ushiftRight, bound, decide_true, Bool.true_and]
    by_cases below : i < k
    · simp [below]
    · simp [below, show k + (i - k) = i by omega]
  have bound : a.toNat / 2 ^ k * 2 ^ k < 2 ^ 64 :=
    lt_of_le_of_lt (Nat.div_mul_le_self _ _) a.isLt
  rw [shifted, BitVec.toNat_shiftLeft, BitVec.toNat_ushiftRight, Nat.shiftRight_eq_div_pow,
    Nat.shiftLeft_eq, Nat.mod_eq_of_lt bound]

theorem toNat_wordOf (a : Address) : (wordOf a).toNat = a.toNat / 8 * 8 :=
  toNat_alignDown 3 a

@[simp] theorem wordOf_wordOf (a : Address) : wordOf (wordOf a) = wordOf a := by
  apply BitVec.eq_of_toNat_eq
  simp only [toNat_wordOf]
  omega

/-- The word after an aligned word is aligned, also across the top of memory. -/
theorem wordOf_add_eight (a : Address) : wordOf (wordOf a + 8) = wordOf a + 8 := by
  apply BitVec.eq_of_toNat_eq
  simp only [toNat_wordOf, BitVec.toNat_add, BitVec.ofNat_eq_ofNat, BitVec.toNat_ofNat]
  omega

/-- The bytes of an aligned word are the addresses that round down to it. -/
theorem within_word_iff {w : Address} (aligned : wordOf w = w) (b : Address)
    : Within w 8 b ↔ wordOf b = w := by
  have rounded := congrArg BitVec.toNat aligned
  rw [toNat_wordOf] at rounded
  rw [Within, BitVec.toNat_sub, ← BitVec.toNat_inj, toNat_wordOf]
  omega

/-- A block of memory inside another. -/
theorem within_inside {outer start b : Address} {size length : Nat}
    (within : Within start length b) (above : outer.toNat ≤ start.toNat)
    (below : start.toNat + length ≤ outer.toNat + size)
    : Within outer size b := by
  rw [Within] at within ⊢
  bv_omega

/-- At most eight bytes reach the first word and, from an unaligned start, the next. -/
theorem wordOf_of_within {a b : Address} {n : Nat} (within : Within a n b) (small : n ≤ 8)
    : wordOf b = wordOf a ∨ (a ≠ wordOf a ∧ wordOf b = wordOf a + 8) := by
  rw [Within, BitVec.toNat_sub] at within
  rw [ne_eq, ← BitVec.toNat_inj, ← BitVec.toNat_inj, ← BitVec.toNat_inj]
  simp only [BitVec.toNat_add, toNat_wordOf, BitVec.ofNat_eq_ofNat, BitVec.toNat_ofNat]
  omega

/-- Byte `i` of a word read at `a` is the memory byte at `a + i`. -/
theorem wordByte_readWord (m : Memory) (a : Address) {i : Nat} (bound : i < 8)
    : wordByte (readWord m a) i = m (a + BitVec.ofNat 64 i) := by
  apply BitVec.eq_of_getLsbD_eq
  intro j small
  interval_cases i <;>
    simp only [wordByte, readWord, BitVec.getLsbD_extractLsb', BitVec.getLsbD_append, small,
      decide_true, Bool.true_and] <;>
    first
      | (rw [if_pos (by omega)]; simp)
      | (repeat rw [if_neg (by omega)]
         first
           | (rw [if_pos (by omega)]; congr 1; omega)
           | (congr 1; omega))

/-- Two words are equal when their eight bytes are. -/
theorem word_ext {v w : Word} (bytes : ∀ i < 8, wordByte v i = wordByte w i) : v = w := by
  apply BitVec.eq_of_getLsbD_eq
  intro j bound
  have byte := congrArg (fun byte => byte.getLsbD (j % 8)) (bytes (j / 8) (by omega))
  have small : j % 8 < 8 := Nat.mod_lt _ (by omega)
  simpa only [wordByte, BitVec.getLsbD_extractLsb', small, decide_true, Bool.true_and,
    show 8 * (j / 8) + j % 8 = j by omega] using byte

theorem writeWord_within {m : Memory} {a b : Address} {v : Word} (within : Within a 8 b)
    : writeWord m a v b = wordByte v (b - a).toNat :=
  if_pos within

theorem writeWord_outside {m : Memory} {a b : Address} {v : Word} (outside : ¬Within a 8 b)
    : writeWord m a v b = m b :=
  if_neg outside

/-- Storing back the word just read changes nothing. -/
@[simp] theorem writeWord_readWord (m : Memory) (a : Address)
    : writeWord m a (readWord m a) = m := by
  funext b
  by_cases within : Within a 8 b
  · rw [writeWord_within within, wordByte_readWord m a within]
    rw [BitVec.ofNat_toNat, BitVec.setWidth_eq, BitVec.add_comm, BitVec.sub_add_cancel]
  · exact writeWord_outside within

/-- A word read depends on its eight bytes only. -/
theorem readWord_congr {m n : Memory} {a : Address}
    (agree : ∀ b, Within a 8 b → m b = n b)
    : readWord m a = readWord n a := by
  apply word_ext
  intro i bound
  rw [wordByte_readWord m a bound, wordByte_readWord n a bound]
  apply agree
  rw [Within, BitVec.toNat_sub, BitVec.toNat_add, BitVec.toNat_ofNat]
  omega

/-- A word reads back as it was written. -/
@[simp] theorem readWord_writeWord (m : Memory) (a : Address) (v : Word)
    : readWord (writeWord m a v) a = v := by
  apply word_ext
  intro i bound
  have distance : (a + BitVec.ofNat 64 i - a).toNat = i := by
    rw [BitVec.toNat_sub, BitVec.toNat_add, BitVec.toNat_ofNat]
    omega
  rw [wordByte_readWord _ a bound, writeWord_within (by rw [Within, distance]; exact bound),
    distance]

/-- Of two writes to one word the second counts. -/
@[simp] theorem writeWord_writeWord (m : Memory) (a : Address) (v w : Word)
    : writeWord (writeWord m a v) a w = writeWord m a w := by
  funext b
  by_cases within : Within a 8 b
  · rw [writeWord_within within, writeWord_within within]
  · rw [writeWord_outside within, writeWord_outside within, writeWord_outside within]

theorem writeBytes_outside {m : Memory} {a b : Address} {bytes : List Byte}
    (outside : ¬Within a bytes.length b)
    : writeBytes m a bytes b = m b := by
  rw [Within, not_lt] at outside
  rw [writeBytes, List.getD_eq_getElem?_getD, List.getElem?_eq_none outside, Option.getD_none]

end ByteMemory
