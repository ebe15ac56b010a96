import Kasper.Runtime.State

/-! The task filter of `kspecem_whitelist.c`, with the string comparison it uses. -/

namespace Kasper

open ByteMemory

/-- `TASK_COMM_LEN`. -/
def taskCommLen : Nat := 16

/-- `kspecem_strncmp`; a list stands for a C string without its final NUL. -/
def strncmp : (cs ct : List (BitVec 8)) → (count : Nat) → Int
  | _, _, 0 => 0
  | cs, ct, count + 1 =>
      let c1 := cs.headD 0
      let c2 := ct.headD 0
      if c1 ≠ c2 then
        if c1 < c2 then -1 else 1
      else if c1 = 0 then
        0
      else
        strncmp cs.tail ct.tail count

/-- The characters of a string literal. -/
def cString (text : String) : List (BitVec 8) :=
  text.toList.map fun c => BitVec.ofNat 8 c.toNat

/-- The `KSPECEM_WHITELIST_TASKS` case of `kspecem_is_whitelist_task`. -/
def isWhitelistedName (comm : List (BitVec 8)) : Bool :=
  let syzExecutor := cString "syz-executor"
  strncmp comm (cString "kasper_task") taskCommLen = 0
  || strncmp comm syzExecutor syzExecutor.length = 0
  || strncmp comm (cString "mkdir") taskCommLen = 0
  || strncmp comm (cString "pwd") taskCommLen = 0
  || strncmp comm (cString "cat") taskCommLen = 0
  || strncmp comm (cString "tail") taskCommLen = 0
  || strncmp comm (cString "ls") taskCommLen = 0

/-- `kspecem_is_whitelist_task`; the system call case falls through to the task case. -/
def isWhitelistTask (whitelist : WhitelistType) (task : Task) : Bool :=
  match whitelist with
  | .disabled => true
  | .syscall =>
      if task.syscallNr < 600 ∨ task.syscallNr > 1200 then false
      else isWhitelistedName task.comm
  | .tasks => isWhitelistedName task.comm
  | .unlisted _ => true

end Kasper
