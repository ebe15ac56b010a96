import Mathlib.Data.List.Infix
import Kasper.Runtime.State

/-! The calls of `KSpecEm.cpp`: which function a call reaches, which inline assembly may run
in speculation, and where a restart hook goes.
-/

namespace Kasper

/-- What a `char *` parameter reads of a string literal: the text up to the first NUL. -/
def literalText (literal : String) : List Char :=
  literal.toList.takeWhile (· ≠ '\x00')

/-- `std::string::rfind`: the last position up to `pos` where `text` occurs. -/
def rfind (string text : List Char) : (pos : Nat) → Option Nat
  | 0 => if text.isPrefixOf string then some 0 else none
  | pos + 1 => if text.isPrefixOf (string.drop (pos + 1)) then some (pos + 1) else rfind string text pos

/-- One test of the list of safe inline assembly; a guarded one also asks for constraints
without memory.
-/
inductive AsmTest
  | contains (literal : String)
  | startsWith (literal : String)
  | equals (literal : String)
  deriving DecidableEq, Repr

/-- The string test as the source writes it; `npos` is a position behind the string. -/
def AsmTest.passes (asmString : List Char) : AsmTest → Bool
  | .contains literal => rfind asmString (literalText literal) asmString.length != none
  | .startsWith literal => rfind asmString (literalText literal) 0 == some 0
  | .equals literal => asmString == literalText literal

/-- The tests without a look at the constraints. -/
def unguardedTests : List AsmTest :=
  [.startsWith "# __raw_save_flags\n\tpushf ; pop $0",
    .contains "#KSPECEM_NO_RESTART",
    .equals "push $0 ; popf",
    .equals "cli",
    .equals "sti",
    .equals "str $0",
    .equals "rep; nop"]

/-- The tests that also ask for constraints without memory. In C++ `\0` before a `9` or an
`A` is a NUL, and `\22` is the character with octal code 22.
-/
def guardedTests : List AsmTest :=
  [.equals "mull %edx",
    .equals "bswapq $0",
    .equals "rep; bsf $1,$0",
    .equals "movl %cs,$0",
    .equals "movl %ds,$0",
    .equals "movl %es,$0",
    .equals "movl %fs,$0",
    .equals "movl %gs,$0",
    .startsWith "mov $0, %db",
    .startsWith "mov %db",
    .startsWith
      "1:\x009.byte 0x0f, 0x0b\x00A.pushsection __bug_table,\x12aw\x12",
    .startsWith
      "$\x7b0:c\x7d:\x00A\x009.pushsection .discard.reachable\x00A\x009.long $\x7b0:c\x7db",
    .equals "movq $\x7b1:P\x7d,$0",
    .equals "movq $1,$0",
    .equals "decl $0",
    .equals "incl $0",
    .equals "incq $0",
    .equals "bswapl $0",
    .equals "orl $1,$0",
    .equals "andb $1,$0",
    .equals "addq $1, $0",
    .equals "mov $0,%cr3",
    .equals "mov %cr4,$0",
    .equals "mov %cr8,$0",
    .equals "mov %cr3,$0"]

/-- The `Codes` of each constraint, as `InlineAsm::ParseConstraints` returns them. -/
abbrev Constraints := List (List String)

/-- `hasMemoryGlobber`. -/
def hasMemoryGlobber (constraints : Constraints) : Bool :=
  constraints.any fun codes => codes.any fun code => code == "\x7bmemory\x7d" || code == "m"

/-- The condition on a nonempty template under which the call is left alone. -/
def safeInlineAsm (asmString : List Char) (constraints : Constraints) : Bool :=
  unguardedTests.any (·.passes asmString)
  || (guardedTests.any (·.passes asmString) && !hasMemoryGlobber constraints)

/-- What a call instruction calls. -/
inductive CalledOperand
  | function (name : String)
  | bitCast (name : String)
  | value (address : String)
  | inlineAsm (asmString : List Char) (constraints : Constraints)
  deriving DecidableEq, Repr

/-- The results of `getCalledFunction`: the function, `*return_type` (at first -1) and
`*calledValue`.
-/
structure CalledFunction where
  function : Option String
  returnType : Int
  calledValue : Option String
  deriving DecidableEq, Repr

/-- `KSpecEmFunction::getCalledFunction`. -/
def getCalledFunction : CalledOperand → CalledFunction
  | .function name => { function := some name, returnType := 1, calledValue := none }
  | .bitCast name => { function := some name, returnType := 2, calledValue := none }
  | .value address => { function := none, returnType := 2, calledValue := some address }
  | .inlineAsm asmString constraints =>
      if asmString.length > 0 then
        if safeInlineAsm asmString constraints then
          { function := none, returnType := -1, calledValue := none }
        else
          { function := none, returnType := 3, calledValue := none }
      else
        { function := none, returnType := -1, calledValue := none }

/-- A call of `kspecem_hook_restart` that the pass inserts; its first argument is null. -/
structure RestartHook where
  restartType : Int
  calledFunc : Option String
  deriving DecidableEq, Repr

/-- `KSpecEmPassVisitor::visitCallInst`; `nospec` says that the calling function is listed
as such.
-/
def visitCallInst (nospec : Bool) (called : CalledOperand) : Option RestartHook :=
  if nospec then
    none
  else
    let result := getCalledFunction called
    if result.returnType ≠ -1 ∧ result.function = none then
      some { restartType := result.returnType, calledFunc := result.calledValue }
    else
      none

end Kasper
