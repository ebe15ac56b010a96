import Kasper.Library.ByteMemory

/-! Numerals of the kernel log: `kspecem_itoa` and the reversal it ends with, from
`kspecem_utils.c`. A string is a buffer of bytes by offset.
-/

namespace Kasper

open ByteMemory

abbrev Buffer := Nat → Byte

/-- Store one character. -/
def Buffer.put (str : Buffer) (i : Nat) (c : Byte) : Buffer :=
  fun j => if j = i then c else str j

/-- The loop of `kspecem_reverse_str` while `start` is below `stop`. -/
def reverseLoop (str : Buffer) (start stop : Nat) : Buffer :=
  if start < stop then
    let tmp := str stop
    let str := str.put stop (str start)
    let str := str.put start tmp
    reverseLoop str (start + 1) (stop - 1)
  else
    str
termination_by stop - start

/-- `kspecem_reverse_str`. -/
def reverseStr (str : Buffer) (length : Nat) : Buffer :=
  reverseLoop str 0 (length - 1)

/-- The character `kspecem_itoa` stores for a remainder. -/
def remChar (rem : Int) : Byte :=
  if rem > 9 then BitVec.ofInt 8 (rem - 10 + 0x61) else BitVec.ofInt 8 (rem + 0x30)

/-- The digit loop of `kspecem_itoa` for at most `fuel` tests of its condition, with C's
truncating remainder and quotient.
-/
def itoaLoop (base : Int) : (fuel : Nat) → (num : Int) → (str : Buffer) → (i : Nat)
    → Option (Buffer × Nat)
  | 0, _, _, _ => none
  | fuel + 1, num, str, i =>
      if num ≠ 0 then
        let rem := num.tmod base
        itoaLoop base fuel (num.tdiv base) (str.put i (remChar rem)) (i + 1)
      else
        some (str, i)

/-- `kspecem_itoa`; negating the least `long long` wraps around to itself. -/
def itoa (fuel : Nat) (num : BitVec 64) (str : Buffer) (base : Int) : Option Buffer := do
  if num = 0 then
    return (str.put 0 0x30).put 1 0
  let isNegative := num.toInt < 0 ∧ base = 10
  let num := if isNegative then -num else num
  let (str, i) ← itoaLoop base fuel num.toInt str 0
  let (str, i) := if isNegative then (str.put i 0x2d, i + 1) else (str, i)
  return reverseStr (str.put i 0) i

end Kasper
