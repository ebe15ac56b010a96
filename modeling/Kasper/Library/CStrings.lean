import Kasper.Library.ByteMemory
import Mathlib.Data.List.Basic

/-! Strings of bytes that end in a NUL, in a memory whose addresses wrap. -/

namespace CStrings

open ByteMemory

/-- The bytes lie in memory from `a` on. -/
def BytesAt (m : Memory) (a : Address) (bytes : List Byte) : Prop :=
  ∀ i, (inside : i < bytes.length) → m (a + BitVec.ofNat 64 i) = bytes[i]

/-- The C string at `a` has these characters. -/
structure StringAt (m : Memory) (a : Address) (chars : List Byte) : Prop where
  bytes : BytesAt m a (chars ++ [0])
  nonzero : (0 : Byte) ∉ chars

/-- The `n` bytes of memory from `a` on. -/
def readBytes (m : Memory) (a : Address) (n : Nat) : List Byte :=
  (List.range n).map fun i => m (a + BitVec.ofNat 64 i)

variable {m n : Memory} {a b : Address} {bytes more chars : List Byte}

theorem add_ofNat_add (a : Address) (i j : Nat)
    : a + BitVec.ofNat 64 i + BitVec.ofNat 64 j = a + BitVec.ofNat 64 (i + j) := by
  rw [BitVec.ofNat_add, BitVec.add_assoc]

/-- The distance of a byte from the start of its range. -/
theorem toNat_add_sub {i : Nat} (small : i < 2 ^ 64)
    : (a + BitVec.ofNat 64 i - a).toNat = i := by
  rw [BitVec.add_comm, BitVec.add_sub_cancel, BitVec.toNat_ofNat, Nat.mod_eq_of_lt small]

theorem within_add {i k : Nat} (inside : i < k) : Within a k (a + BitVec.ofNat 64 i) := by
  rw [Within, BitVec.add_comm, BitVec.add_sub_cancel, BitVec.toNat_ofNat]
  exact Nat.lt_of_le_of_lt (Nat.mod_le _ _) inside

@[simp] theorem length_readBytes (m : Memory) (a : Address) (n : Nat)
    : (readBytes m a n).length = n := by
  rw [readBytes, List.length_map, List.length_range]

/-- Reading a part of the bytes. -/
theorem BytesAt.readBytes (h : BytesAt m a bytes) {k : Nat} (inside : k ≤ bytes.length)
    : readBytes m a k = bytes.take k := by
  apply List.ext_getElem
  · rw [length_readBytes, List.length_take, Nat.min_eq_left inside]
  · intro i below _
    rw [length_readBytes] at below
    rw [List.getElem_take]
    simpa [CStrings.readBytes] using h i (by omega)

theorem bytesAt_append
    : BytesAt m a (bytes ++ more)
      ↔ BytesAt m a bytes ∧ BytesAt m (a + BitVec.ofNat 64 bytes.length) more := by
  constructor
  · refine fun all => ⟨fun i inside => ?_, fun i inside => ?_⟩
    · rw [all i (by rw [List.length_append]; omega), List.getElem_append_left inside]
    · rw [add_ofNat_add, all _ (by rw [List.length_append]; omega),
        List.getElem_append_right (Nat.le_add_right _ _)]
      simp only [Nat.add_sub_cancel_left]
  · rintro ⟨first, second⟩ i inside
    by_cases left : i < bytes.length
    · rw [first i left, List.getElem_append_left left]
    · have right : i - bytes.length < more.length := by
        rw [List.length_append] at inside
        omega
      have later := second _ right
      rw [add_ofNat_add, Nat.add_sub_of_le (Nat.le_of_not_lt left)] at later
      rw [later, List.getElem_append_right (Nat.le_of_not_lt left)]

/-- Bytes stay where memory does. -/
theorem BytesAt.congr (h : BytesAt m a bytes) (same : ∀ x, Within a bytes.length x → n x = m x)
    : BytesAt n a bytes :=
  fun i inside => (same _ (within_add inside)).trans (h i inside)

theorem bytesAt_writeBytes (fits : bytes.length ≤ 2 ^ 64)
    : BytesAt (writeBytes m a bytes) a bytes := by
  intro i inside
  rw [writeBytes, toNat_add_sub (by omega), List.getD_eq_getElem?_getD,
    List.getElem?_eq_getElem inside, Option.getD_some]

/-- A write hides a shorter one made before it at the same place. -/
theorem writeBytes_hide (hidden : bytes.length ≤ more.length)
    : writeBytes (writeBytes m a bytes) a more = writeBytes m a more := by
  funext x
  simp only [writeBytes, List.getD_eq_getElem?_getD]
  by_cases inside : (x - a).toNat < more.length
  · rw [List.getElem?_eq_getElem inside]
    rfl
  · rw [List.getElem?_eq_none (Nat.le_of_not_lt inside),
      List.getElem?_eq_none (hidden.trans (Nat.le_of_not_lt inside))]
    rfl

/-- Two writes side by side are one. -/
theorem writeBytes_append (fits : bytes.length + more.length ≤ 2 ^ 64)
    : writeBytes (writeBytes m a bytes) (a + BitVec.ofNat 64 bytes.length) more
      = writeBytes m a (bytes ++ more) := by
  funext x
  have distance : (x - (a + BitVec.ofNat 64 bytes.length)).toNat
      = (2 ^ 64 - bytes.length % 2 ^ 64 + (x - a).toNat) % 2 ^ 64 := by
    rw [← BitVec.sub_sub, BitVec.toNat_sub, BitVec.toNat_ofNat]
  have bound := (x - a).isLt
  simp only [writeBytes, List.getD_eq_getElem?_getD, distance]
  by_cases first : (x - a).toNat < bytes.length
  · rw [List.getElem?_append_left first, List.getElem?_eq_none (by omega),
      List.getElem?_eq_getElem first]
    rfl
  · rw [List.getElem?_append_right (by omega), List.getElem?_eq_none (by omega : bytes.length ≤ _)]
    congr 2
    omega

/-- The byte after the characters of a string. -/
theorem StringAt.nul (h : StringAt m a chars) : m (a + BitVec.ofNat 64 chars.length) = 0 := by
  have final := (bytesAt_append.mp h.bytes).2 0 (by simp)
  simpa using final

theorem StringAt.char (h : StringAt m a chars) {i : Nat} (inside : i < chars.length)
    : m (a + BitVec.ofNat 64 i) = chars[i] :=
  (bytesAt_append.mp h.bytes).1 i inside

theorem StringAt.char_ne (h : StringAt m a chars) {i : Nat} (inside : i < chars.length)
    : m (a + BitVec.ofNat 64 i) ≠ 0 := by
  rw [h.char inside]
  exact fun zero => h.nonzero (zero ▸ List.getElem_mem inside)

/-- A string is shorter than the address space. -/
theorem StringAt.length_lt (h : StringAt m a chars) : chars.length < 2 ^ 64 := by
  by_contra long
  have inside : chars.length % 2 ^ 64 < chars.length := by omega
  have wraps : BitVec.ofNat 64 (chars.length % 2 ^ 64) = BitVec.ofNat 64 chars.length :=
    BitVec.eq_of_toNat_eq (by simp)
  exact h.char_ne inside (wraps ▸ h.nul)

/-- A string without its first character. -/
theorem StringAt.tail {c : Byte} (h : StringAt m a (c :: chars)) : StringAt m (a + 1) chars where
  bytes := ((@bytesAt_append m a [c] (chars ++ [0])).mp h.bytes).2
  nonzero := fun inside => h.nonzero (List.mem_cons_of_mem c inside)

theorem StringAt.congr (h : StringAt m a chars)
    (same : ∀ x, Within a (chars.length + 1) x → n x = m x)
    : StringAt n a chars where
  bytes := h.bytes.congr (by simpa using same)
  nonzero := h.nonzero

/-- Two ranges with no address in common fit into the address space side by side. -/
theorem length_add_le {i k : Nat} (left : 0 < i) (right : 0 < k)
    (apart : ∀ x, Within a i x → ¬Within b k x)
    : i + k ≤ 2 ^ 64 := by
  have after := apart a (by simpa [Within] using left)
  have before : ¬Within a i b := fun inside => apart b inside (by simpa [Within] using right)
  rw [Within, Nat.not_lt] at after before
  have around : (a - b).toNat + (b - a).toNat ≤ 2 ^ 64 := by
    rw [BitVec.toNat_sub, BitVec.toNat_sub]
    omega
  omega

/-- Characters and a NUL, written, are a string. -/
theorem stringAt_writeBytes (nonzero : (0 : Byte) ∉ chars) (fits : chars.length < 2 ^ 64)
    : StringAt (writeBytes m a (chars ++ [0])) a chars :=
  ⟨bytesAt_writeBytes (by rw [List.length_append]; exact fits), nonzero⟩

end CStrings
