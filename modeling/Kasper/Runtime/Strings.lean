import Kasper.Library.CStrings
import Kasper.Runtime.Whitelist

/-! The string and memory functions of `kspecem_utils.c`, on the bytes of memory. -/

namespace Kasper

open ByteMemory CStrings

/-- The loop of `kspecem_strlen` for at most `fuel` tests of its condition. -/
def strlenLoop : (fuel : Nat) → (sc : Address) → RtM Address
  | 0, _ => throw .diverged
  | fuel + 1, sc => do
      if (← get).mem sc ≠ 0 then
        strlenLoop fuel (sc + 1)
      else
        return sc

/-- `kspecem_strlen`; its cursor meets every address before it comes back to the first. -/
def strlen (s : Address) : RtM Word := do
  let sc ← strlenLoop (2 ^ 64) s
  return sc - s

/-- `memcpy` of bytes that do not overlap their destination. -/
def copyBytes (dest src : Address) (len : Nat) : RtM Unit :=
  modify fun s => { s with mem := writeBytes s.mem dest (readBytes s.mem src len) }

/-- Store one byte. -/
def putByte (a : Address) (value : Byte) : RtM Unit :=
  modify fun s => { s with mem := writeBytes s.mem a [value] }

/-- `kspecem_strlcpy`. -/
def strlcpy (dest src : Address) (size : Word) : RtM Word := do
  let ret ← strlen src
  if size ≠ 0 then
    let len := if ret ≥ size then size - 1 else ret
    copyBytes dest src len.toNat
    putByte (dest + len) 0
  return ret

/-- `kspecem_strlcat`. -/
def strlcat (onFail : SpecAssert → RtM Unit) (dest src : Address) (count : Word)
    : RtM Word := do
  let dsize ← strlen dest
  let len ← strlen src
  let res := dsize + len
  ltAssert onFail (dsize < count) "kspecem_utils.c" 40 "dsize < count"
  let dest := dest + dsize
  let count := count - dsize
  let len := if len ≥ count then count - 1 else len
  copyBytes dest src len.toNat
  putByte (dest + len) 0
  return res

end Kasper
