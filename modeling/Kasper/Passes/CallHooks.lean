import Kasper.Runtime.Machine

/-! The hooks `KSpecEmSpec` and `KSpecEm` put at the entry of a function and before its
returns. Both passes read the same list of functions.
-/

namespace Kasper

open ByteMemory

/-- The categories of the list of functions. -/
inductive Category
  | blacklist
  | timer
  | exception
  | nospec
  deriving DecidableEq, Repr

/-- A function with what `KSpecEmABIList::isIn` says of it. -/
structure ListedFunction where
  name : String
  address : Address
  isIn : Category → Bool

/-- A hook at the entry of a function. -/
inductive EntryHook
  | checkCallDepth
  | restart (restartType : RestartType) (calledFunc : Address)
  | interruptTimer
  | interruptException (exceptionType : Int)
  deriving DecidableEq, Repr

/-- The functions `KSpecEmSpec::visitor` returns early for. -/
def ListedFunction.unspeculated (f : ListedFunction) : Bool :=
  f.isIn .blacklist || f.isIn .exception || f.isIn .timer || f.isIn .nospec

/-- What `KSpecEmSpec::visitor` puts before the first instruction. -/
def KSpecEmSpec.entryHook (f : ListedFunction) : Option EntryHook :=
  if f.unspeculated then none else some .checkCallDepth

/-- The functions whose branches `KSpecEmSpecPassVisitor` gives a checkpoint. -/
def KSpecEmSpec.takesCheckpoints (f : ListedFunction) : Bool := !f.unspeculated

/-- The third argument of `insertExceptionInterruptHook`. -/
def exceptionTypeOf (f : ListedFunction) : Int :=
  if f.name = "exc_page_fault" then 1 else 0

/-- What `KSpecEm::visitor` puts before the first instruction. -/
def KSpecEm.entryHook (f : ListedFunction) : Option EntryHook :=
  if f.isIn .blacklist then
    some (.restart .restartBlacklist f.address)
  else if f.isIn .timer then
    some .interruptTimer
  else if f.isIn .exception then
    some (.interruptException (exceptionTypeOf f))
  else
    none

/-- `KSpecEmPassVisitor::visitReturnInst`: the type of the restart hook before a return; the
hook's last argument is the return address.
-/
def visitReturnInst (nospec : Bool) : Option RestartType :=
  if nospec then none else some .restartReturn

/-- What `KSpecEm::visitor` puts before each return; it visits no listed function but the
`nospec` ones.
-/
def KSpecEm.returnHook (f : ListedFunction) : Option RestartType :=
  if f.isIn .blacklist || f.isIn .timer || f.isIn .exception then
    none
  else
    visitReturnInst (f.isIn .nospec)

/-- The stack addresses a hook of a call runs with, and the arguments of an interrupt
handler.
-/
structure CallSite where
  frames : Frames
  task : Task
  regs : Address
  frameaddr : Address

def CallSite.env (kernel : Kernel) (site : CallSite) : Env where
  kernel := kernel
  frames := site.frames
  task := site.task

def EntryHook.run (kernel : Kernel) (site : CallSite) : EntryHook → RtM Unit
  | .checkCallDepth => hookCheckCallDepth (site.env kernel) (site.env kernel).onFail
  | .restart restartType calledFunc => do
      let _ ← hookRestart (site.env kernel) (site.env kernel).onFail true restartType calledFunc
  | .interruptTimer =>
      hookInterruptTimer (site.env kernel) (site.env kernel).onFail site.regs site.frameaddr
  | .interruptException exceptionType => do
      let _ ← hookInterruptException (site.env kernel) (site.env kernel).onFail site.regs
        site.frameaddr exceptionType

/-- Entering a function runs what the passes put there; no function has two entry hooks. -/
def enterFunction (kernel : Kernel) (f : ListedFunction) (site : CallSite) : RtM Unit := do
  if let some hook := KSpecEmSpec.entryHook f then
    hook.run kernel site
  if let some hook := KSpecEm.entryHook f then
    hook.run kernel site

/-- What runs before a return of a function. -/
def leaveFunction (kernel : Kernel) (f : ListedFunction) (site : CallSite)
    (returnAddress : Address)
    : RtM Unit := do
  if let some restartType := KSpecEm.returnHook f then
    let _ ← hookRestart (site.env kernel) (site.env kernel).onFail true restartType returnAddress

/-- A function counts its frames at entry exactly when it counts them off at its returns. -/
theorem entryHook_iff_returnHook (f : ListedFunction)
    : KSpecEmSpec.entryHook f = some .checkCallDepth
      ↔ KSpecEm.returnHook f = some .restartReturn := by
  cases blacklist : f.isIn .blacklist <;> cases timer : f.isIn .timer <;>
    cases exception : f.isIn .exception <;> cases nospec : f.isIn .nospec <;>
    simp [KSpecEmSpec.entryHook, KSpecEm.returnHook, ListedFunction.unspeculated,
      visitReturnInst, blacklist, timer, exception, nospec]

/-- A function that is in no category. -/
def ListedFunction.instrumented (f : ListedFunction) : Bool :=
  [Category.blacklist, .timer, .exception, .nospec].all fun category => !f.isIn category

theorem unspeculated_eq (f : ListedFunction) : f.unspeculated = !f.instrumented := by
  simp only [ListedFunction.unspeculated, ListedFunction.instrumented, List.all_cons,
    List.all_nil, Bool.and_true, Bool.not_and, Bool.not_not]
  cases f.isIn .blacklist <;> cases f.isIn .timer <;> simp [Bool.or_comm]

/-- Entering an instrumented function checks the call depth and does nothing else. -/
theorem enterFunction_instrumented {f : ListedFunction} (instrumented : f.instrumented = true)
    (kernel : Kernel) (site : CallSite)
    : enterFunction kernel f site
      = hookCheckCallDepth (site.env kernel) (site.env kernel).onFail := by
  have free : f.isIn .blacklist = false ∧ f.isIn .timer = false ∧ f.isIn .exception = false
      ∧ f.isIn .nospec = false := by
    simpa [ListedFunction.instrumented] using instrumented
  obtain ⟨blacklist, timer, exception, _⟩ := free
  simp [enterFunction, KSpecEmSpec.entryHook, KSpecEm.entryHook, unspeculated_eq, instrumented,
    blacklist, timer, exception, EntryHook.run]

/-- Before its returns it may be rolled back. -/
theorem leaveFunction_instrumented {f : ListedFunction} (instrumented : f.instrumented = true)
    (kernel : Kernel) (site : CallSite) (returnAddress : Address)
    : leaveFunction kernel f site returnAddress
      = (do
          let _ ← hookRestart (site.env kernel) (site.env kernel).onFail true .restartReturn
            returnAddress) := by
  have hook : KSpecEm.returnHook f = some .restartReturn := by
    rw [← entryHook_iff_returnHook, KSpecEmSpec.entryHook, unspeculated_eq, instrumented]
    rfl
  simp only [leaveFunction, hook]

/-- Nothing runs before the returns of any other function. -/
theorem leaveFunction_other {f : ListedFunction} (other : f.instrumented = false)
    (kernel : Kernel) (site : CallSite) (returnAddress : Address)
    : leaveFunction kernel f site returnAddress = pure () := by
  have hook : KSpecEm.returnHook f = none := by
    cases found : KSpecEm.returnHook f with
    | none => rfl
    | some restartType =>
        have returns : KSpecEm.returnHook f = some .restartReturn := by
          simp only [KSpecEm.returnHook, visitReturnInst] at found ⊢
          split_ifs at found ⊢
          rfl
        have enters := (entryHook_iff_returnHook f).mpr returns
        simp [KSpecEmSpec.entryHook, unspeculated_eq, other] at enters
  simp only [leaveFunction, hook]

end Kasper
