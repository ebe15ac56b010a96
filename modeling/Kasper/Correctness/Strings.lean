import Kasper.Runtime.Sample
import Kasper.Runtime.Strings

/-! The string functions on C strings in memory. A string built from parts by one
`kspecem_strlcpy` and any number of `kspecem_strlcat` keeps what fits, ends in a NUL, and
touches only its buffer; the results tell whether anything was cut off.
-/

namespace Kasper

open ByteMemory CStrings

variable {onFail : SpecAssert → RtM Unit} {s : Rt} {dest src : Address} {size : Word}
  {chars kept : List Byte}

/-- The cursor stops at the NUL, by induction on the characters before it. -/
theorem strlenLoop_eq {fuel : Nat} (text : StringAt s.mem src chars)
    (enough : chars.length < fuel)
    : strlenLoop fuel src s = .ok (src + BitVec.ofNat 64 chars.length) s := by
  induction chars generalizing src fuel with
  | nil =>
      obtain ⟨fuel, rfl⟩ := Nat.exists_eq_add_of_lt enough
      have nul : s.mem src = 0 := by simpa using text.nul
      simp only [List.length_nil, Nat.zero_add, strlenLoop, Exits.run_get_bind, nul, ne_eq,
        not_true_eq_false, if_false, BitVec.ofNat_eq_ofNat, BitVec.add_zero]
      rfl
  | cons c chars ih =>
      obtain ⟨fuel, rfl⟩ := Nat.exists_eq_add_of_lt (Nat.zero_lt_of_lt enough)
      rw [Nat.zero_add] at enough ⊢
      have more : s.mem src ≠ 0 := by simpa using text.char_ne (i := 0) (Nat.zero_lt_succ _)
      rw [strlenLoop, Exits.run_get_bind, if_pos more, ih text.tail (Nat.lt_of_succ_lt_succ enough)]
      rw [List.length_cons, Nat.add_comm, ← add_ofNat_add]
      rfl

theorem strlen_eq (text : StringAt s.mem src chars)
    : strlen src s = .ok (BitVec.ofNat 64 chars.length) s := by
  have loop := strlenLoop_eq text text.length_lt
  have distance : src + BitVec.ofNat 64 chars.length - src = BitVec.ofNat 64 chars.length := by
    rw [BitVec.add_comm, BitVec.add_sub_cancel]
  rw [strlen, Exits.run_bind _ loop, distance]
  rfl

/-- The length both functions copy: what leaves room for a NUL. -/
theorem toNat_cut {n : Nat} (small : n < 2 ^ 64) (room : size ≠ 0)
    : (if BitVec.ofNat 64 n ≥ size then size - 1 else BitVec.ofNat 64 n).toNat
      = min n (size.toNat - 1) := by
  have positive : 0 < size.toNat := Nat.pos_of_ne_zero fun zero => room (BitVec.eq_of_toNat_eq zero)
  have exact : (BitVec.ofNat 64 n).toNat = n := by
    rw [BitVec.toNat_ofNat, Nat.mod_eq_of_lt small]
  have less : (size - 1).toNat = size.toNat - 1 := by
    rw [BitVec.toNat_sub_of_le (by rw [BitVec.le_def]; exact positive)]
    rfl
  by_cases long : size.toNat ≤ n
  · rw [if_pos (by rw [ge_iff_le, BitVec.le_def, exact]; exact long), less,
      Nat.min_eq_right (by omega)]
  · rw [if_neg (by rw [ge_iff_le, BitVec.le_def, exact]; exact long), exact,
      Nat.min_eq_left (by omega)]

/-- Characters copied from a string, with a NUL stored after them. -/
theorem copyBytes_putByte (text : StringAt s.mem src chars) {len : Word} {n : Nat}
    (cut : len.toNat = min chars.length n) {α : Type} (next : RtM α)
    : (do copyBytes dest src len.toNat; putByte (dest + len) 0; next) s
      = next { s with mem := writeBytes s.mem dest (chars.take n ++ [0]) } := by
  have read : readBytes s.mem src len.toNat = chars.take n := by
    rw [(bytesAt_append.mp text.bytes).1.readBytes (cut ▸ Nat.min_le_left _ _), cut,
      Nat.min_comm, ← List.take_eq_take_min]
  have after : dest + len = dest + BitVec.ofNat 64 (chars.take n).length := by
    rw [List.length_take, Nat.min_comm, ← cut, BitVec.ofNat_toNat, BitVec.setWidth_eq]
  have fits : (chars.take n).length + [(0 : Byte)].length ≤ 2 ^ 64 := by
    rw [List.length_take, List.length_singleton]
    exact Nat.succ_le_of_lt (Nat.lt_of_le_of_lt (Nat.min_le_right _ _) text.length_lt)
  rw [← writeBytes_append fits, ← after, ← read]
  rfl

/-- What `kspecem_strlcpy` does to memory when its destination has room for a NUL. -/
theorem strlcpy_eq (dest : Address) (text : StringAt s.mem src chars) (room : size ≠ 0)
    : strlcpy dest src size s
      = .ok (BitVec.ofNat 64 chars.length)
        { s with mem := writeBytes s.mem dest (chars.take (size.toNat - 1) ++ [0]) } := by
  rw [strlcpy, Exits.run_bind _ (strlen_eq text), if_pos room]
  exact copyBytes_putByte text (toNat_cut text.length_lt room) _

/-- What `kspecem_strlcat` does to memory when its destination has room for a NUL. -/
theorem strlcat_eq (onFail : SpecAssert → RtM Unit) (old : StringAt s.mem dest kept)
    (text : StringAt s.mem src chars) (room : kept.length < size.toNat)
    : strlcat onFail dest src size s
      = .ok (BitVec.ofNat 64 (kept.length + chars.length))
        { s with
          mem :=
            writeBytes s.mem (dest + BitVec.ofNat 64 kept.length)
              (chars.take (size.toNat - kept.length - 1) ++ [0]) } := by
  have exact : (BitVec.ofNat 64 kept.length).toNat = kept.length := by
    rw [BitVec.toNat_ofNat, Nat.mod_eq_of_lt old.length_lt]
  have below : BitVec.ofNat 64 kept.length < size := by rw [BitVec.lt_def, exact]; exact room
  have rest : (size - BitVec.ofNat 64 kept.length).toNat = size.toNat - kept.length := by
    rw [BitVec.toNat_sub_of_le (BitVec.le_of_lt below), exact]
  have left : size - BitVec.ofNat 64 kept.length ≠ 0 := by
    intro zero
    rw [zero] at rest
    exact Nat.sub_ne_zero_of_lt room rest.symm
  have cut := toNat_cut text.length_lt left
  rw [rest] at cut
  rw [strlcat, Exits.run_bind _ (strlen_eq old), Exits.run_bind _ (strlen_eq text), ltAssert,
    if_pos below, BitVec.ofNat_add]
  exact copyBytes_putByte text cut _

-----------------------------------------------------------------------------------------
-- Strings built from parts
-----------------------------------------------------------------------------------------

/-- Copy the first part to a buffer and append the others, collecting the results. -/
def buildString (onFail : SpecAssert → RtM Unit) (dest : Address) (size : Word) (first : Address)
    (rest : List Address)
    : RtM (List Word) := do
  let copied ← strlcpy dest first size
  let appended ← rest.mapM fun src => strlcat onFail dest src size
  return copied :: appended

/-- A part of a string: where it lies, and its characters. -/
structure Part where
  src : Address
  chars : List Byte

/-- The part is a C string in memory, apart from the buffer it is to be copied to. -/
structure Part.Apart (part : Part) (m : Memory) (dest : Address) (size : Word) : Prop where
  text : StringAt m part.src part.chars
  clear : ∀ x, Within dest size.toNat x → ¬Within part.src (part.chars.length + 1) x

/-- The memory whose buffer holds what fits of the characters. -/
def holding (m : Memory) (dest : Address) (size : Word) (chars : List Byte) : Memory :=
  writeBytes m dest (chars.take (size.toNat - 1) ++ [0])

variable {m : Memory} {part : Part}

theorem length_held (room : size ≠ 0) (chars : List Byte)
    : (chars.take (size.toNat - 1) ++ [(0 : Byte)]).length ≤ size.toNat := by
  have positive : size.toNat ≠ 0 := fun zero => room (BitVec.eq_of_toNat_eq zero)
  rw [List.length_append, List.length_take, List.length_singleton]
  omega

theorem holding_outside (room : size ≠ 0) {x : Address} (outside : ¬Within dest size.toNat x)
    : holding m dest size chars x = m x :=
  writeBytes_outside fun inside => outside (Nat.lt_of_lt_of_le inside (length_held room chars))

theorem stringAt_holding (room : size ≠ 0) (nonzero : (0 : Byte) ∉ chars)
    : StringAt (holding m dest size chars) dest (chars.take (size.toNat - 1)) := by
  refine stringAt_writeBytes (fun inside => nonzero (List.mem_of_mem_take inside)) ?_
  have held := length_held room chars
  rw [List.length_append, List.length_singleton] at held
  exact Nat.lt_of_succ_le (held.trans (Nat.le_of_lt size.isLt))

theorem Part.Apart.holding (apart : part.Apart m dest size) (room : size ≠ 0)
    : StringAt (holding m dest size chars) part.src part.chars :=
  apart.text.congr fun x inside => holding_outside room fun within => apart.clear x within inside

/-- Appending to what the buffer holds is holding the longer string. -/
theorem holding_append (room : size ≠ 0) (more : List Byte)
    : writeBytes (holding m dest size chars)
        (dest + BitVec.ofNat 64 (chars.take (size.toNat - 1)).length)
        (more.take (size.toNat - (chars.take (size.toNat - 1)).length - 1) ++ [0])
      = holding m dest size (chars ++ more) := by
  have joined : chars.take (size.toNat - 1)
      ++ more.take (size.toNat - (chars.take (size.toNat - 1)).length - 1)
      = (chars ++ more).take (size.toNat - 1) := by
    rw [List.take_append, List.length_take]
    congr 2
    omega
  have whole := (length_held room (chars ++ more)).trans (Nat.le_of_lt size.isLt)
  have first := (length_held room chars).trans (Nat.le_of_lt size.isLt)
  rw [← joined, List.append_assoc, List.length_append] at whole
  rw [List.length_append] at first
  rw [holding, holding, ← joined, List.append_assoc, ← writeBytes_append first,
    writeBytes_hide, writeBytes_append whole]
  rw [List.length_append]
  exact Nat.le_add_left _ _

/-- The result of one append, in numbers. -/
theorem appended_lt (room : size ≠ 0) (apart : part.Apart m dest size)
    : BitVec.ofNat 64 ((chars.take (size.toNat - 1)).length + part.chars.length) < size
      ↔ (chars.take (size.toNat - 1)).length + part.chars.length < size.toNat := by
  have positive : 0 < size.toNat := Nat.pos_of_ne_zero fun zero => room (BitVec.eq_of_toNat_eq zero)
  have both := length_add_le positive (Nat.succ_pos _) apart.clear
  have held : (chars.take (size.toNat - 1)).length < size.toNat := by
    rw [List.length_take]
    omega
  rw [BitVec.lt_def, BitVec.toNat_ofNat, Nat.mod_eq_of_lt (by omega)]

/-- The appends after the first copy, by induction on the parts still to come; `chars` is
what was handed to the functions so far, with or without a cut.
-/
theorem append_builds (onFail : SpecAssert → RtM Unit) {rest : List Part} (room : size ≠ 0)
    (memory : s.mem = holding m dest size chars)
    (nonzero : (0 : Byte) ∉ chars) (apart : ∀ part ∈ rest, part.Apart m dest size)
    : ∃ results,
        (rest.map Part.src).mapM (fun src => strlcat onFail dest src size) s
          = .ok results
            { s with mem := holding m dest size (chars ++ (rest.map Part.chars).flatten) }
        ∧ ∀ k,
            (chars.length < size.toNat ∧ ∀ result ∈ results.take k, result < size)
              ↔ (chars ++ ((rest.take k).map Part.chars).flatten).length < size.toNat := by
  induction rest generalizing s chars with
  | nil =>
      refine ⟨[], ?_, fun k => by simp⟩
      simp only [List.map_nil, List.mapM_nil, List.flatten_nil, List.append_nil, ← memory]
      rfl
  | cons part rest ih =>
      obtain ⟨first, others⟩ := List.forall_mem_cons.mp apart
      have old : StringAt s.mem dest (chars.take (size.toNat - 1)) := by
        rw [memory]
        exact stringAt_holding room nonzero
      have text : StringAt s.mem part.src part.chars := by
        rw [memory]
        exact first.holding room
      have below : (chars.take (size.toNat - 1)).length < size.toNat := by
        have positive : size.toNat ≠ 0 := fun zero => room (BitVec.eq_of_toNat_eq zero)
        rw [List.length_take]
        omega
      have appended := strlcat_eq onFail old text below
      rw [memory, holding_append room] at appended
      obtain ⟨results, run, cuts⟩ :=
        ih (s := { s with mem := holding m dest size (chars ++ part.chars) }) rfl
          (by
            rw [List.mem_append]
            exact fun found => found.elim nonzero first.text.nonzero)
          others
      refine ⟨BitVec.ofNat 64 ((chars.take (size.toNat - 1)).length + part.chars.length) :: results,
        ?_, fun k => ?_⟩
      · rw [List.map_cons, List.mapM_cons, Exits.run_bind _ appended, Exits.run_bind _ run,
          List.map_cons, List.flatten_cons, List.append_assoc]
        rfl
      · cases k with
        | zero => simp
        | succ k =>
            rw [List.take_succ_cons, List.take_succ_cons, List.forall_mem_cons,
              appended_lt room first, List.map_cons, List.flatten_cons, ← List.append_assoc,
              ← cuts k, ← and_assoc, List.length_append, List.length_take]
            refine and_congr_left fun _ => ?_
            omega

/-- A string built from parts keeps what fits of them, ends in a NUL and leaves everything
else as it was; the first result that is not below the size belongs to the first part that
did not fit.
-/
theorem buildString_builds (onFail : SpecAssert → RtM Unit) (s : Rt) (dest : Address)
    (size : Word) (first : Part) (rest : List Part) (room : size ≠ 0)
    (apart : ∀ part ∈ first :: rest, part.Apart s.mem dest size)
    : ∃ results t,
        buildString onFail dest size first.src (rest.map Part.src) s = .ok results t
        ∧ StringAt t.mem dest
            (((first :: rest).map Part.chars).flatten.take (size.toNat - 1))
        ∧ (∀ x, ¬Within dest size.toNat x → t.mem x = s.mem x)
        ∧ { t with mem := s.mem } = s
        ∧ ∀ k,
            (∀ result ∈ results.take k, result < size)
              ↔ (((first :: rest).take k).map Part.chars).flatten.length < size.toNat := by
  obtain ⟨start, others⟩ := List.forall_mem_cons.mp apart
  have copied := strlcpy_eq dest start.text room
  obtain ⟨results, run, cuts⟩ :=
    append_builds onFail (s := { s with mem := holding s.mem dest size first.chars }) room rfl
      start.text.nonzero others
  have nonzero : (0 : Byte) ∉ ((first :: rest).map Part.chars).flatten := by
    rintro found
    obtain ⟨_, member, inside⟩ := List.mem_flatten.mp found
    obtain ⟨part, listed, rfl⟩ := List.mem_map.mp member
    exact (apart part listed).text.nonzero inside
  refine ⟨BitVec.ofNat 64 first.chars.length :: results,
    { s with mem := holding s.mem dest size ((first :: rest).map Part.chars).flatten },
    ?_, stringAt_holding room nonzero, fun x => holding_outside room, rfl, fun k => ?_⟩
  · rw [buildString, Exits.run_bind _ copied]
    exact Exits.run_bind _ run
  · cases k with
    | zero => simpa using Nat.pos_of_ne_zero fun zero => room (BitVec.eq_of_toNat_eq zero)
    | succ k =>
        have exact : BitVec.ofNat 64 first.chars.length < size
            ↔ first.chars.length < size.toNat := by
          rw [BitVec.lt_def, BitVec.toNat_ofNat, Nat.mod_eq_of_lt start.text.length_lt]
        rw [List.take_succ_cons, List.take_succ_cons, List.forall_mem_cons, exact, cuts k]
        rfl

/-- One letter at `0x1000` and one at `0x2000`. -/
def lettersMemory : Memory :=
  fun a => if a = 0x1000 then 0x61 else if a = 0x2000 then 0x62 else 0

theorem lettersMemory_first : (Part.mk 0x1000 [0x61]).Apart lettersMemory 0x3000 2 where
  text := {
    bytes := fun i inside => by
      have low : i < 2 := inside
      interval_cases i <;> rfl
    nonzero := by decide }
  clear := fun x => by
    simp only [Within, List.length_singleton]
    bv_omega

theorem lettersMemory_second : (Part.mk 0x2000 [0x62]).Apart lettersMemory 0x3000 2 where
  text := {
    bytes := fun i inside => by
      have low : i < 2 := inside
      interval_cases i <;> rfl
    nonzero := by decide }
  clear := fun x => by
    simp only [Within, List.length_singleton]
    bv_omega

/-- Two letters do not fit into two bytes with a NUL: the second result shows it. -/
theorem buildString_builds_sample
    : ∃ results t,
        buildString (fun _ => pure ()) 0x3000 2 0x1000 [0x2000]
            { sampleRt with mem := lettersMemory }
          = .ok results t
        ∧ StringAt t.mem 0x3000 [0x61] ∧ ¬∀ result ∈ results.take 2, result < 2 := by
  obtain ⟨results, t, run, text, _, _, cuts⟩ :=
    buildString_builds (fun _ => pure ()) { sampleRt with mem := lettersMemory } 0x3000 2
      (Part.mk 0x1000 [0x61]) [Part.mk 0x2000 [0x62]] (by decide)
      (List.forall_mem_cons.mpr
        ⟨lettersMemory_first, List.forall_mem_singleton.mpr lettersMemory_second⟩)
  exact ⟨results, t, run, text, fun below => absurd ((cuts 2).mp below) (by decide)⟩

end Kasper
