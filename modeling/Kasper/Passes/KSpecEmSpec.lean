import Kasper.Runtime.Machine

/-! The code `KSpecEmSpec` puts between its hooks and the conditional branch: it reads the
swap flag, chooses the branch condition by it, and clears it.
-/

namespace Kasper

open ByteMemory

/-- The predicates of an integer comparison. -/
inductive IcmpPredicate
  | eq | ne | ugt | uge | ult | ule | sgt | sge | slt | sle
  deriving DecidableEq, Repr

def IcmpPredicate.holds {width : Nat} (left right : BitVec width) : IcmpPredicate → Bool
  | .eq => left == right
  | .ne => left != right
  | .ugt => right.ult left
  | .uge => right.ule left
  | .ult => left.ult right
  | .ule => left.ule right
  | .sgt => right.slt left
  | .sge => right.sle left
  | .slt => left.slt right
  | .sle => left.sle right

/-- `CmpInst::getInversePredicate` on integer comparisons. -/
def IcmpPredicate.inverse : IcmpPredicate → IcmpPredicate
  | .eq => .ne
  | .ne => .eq
  | .ugt => .ule
  | .uge => .ult
  | .ult => .uge
  | .ule => .ugt
  | .sgt => .sle
  | .sge => .slt
  | .slt => .sge
  | .sle => .sgt

/-- How two floating-point operands lie to each other. -/
inductive FloatOrder
  | unordered
  | less
  | greater
  | equal
  deriving DecidableEq, Repr

/-- What a conditional branch tests. A floating-point predicate is the set of orders it
accepts.
-/
inductive Condition
  | icmp {width : Nat} (predicate : IcmpPredicate) (left right : BitVec width)
  | fcmp (predicate : FloatOrder → Bool) (order : FloatOrder)
  | value (holds : Bool)

def Condition.holds : Condition → Bool
  | .icmp predicate left right => predicate.holds left right
  | .fcmp predicate order => predicate order
  | .value holds => holds

/-- The `invertedCondition` of `visitBranchInst`. -/
def Condition.inverted : Condition → Condition
  | .icmp predicate left right => .icmp predicate.inverse left right
  | .fcmp predicate order => .fcmp (fun order => !predicate order) order
  | .value holds => .value (!holds)

theorem IcmpPredicate.inverse_holds {width : Nat} (predicate : IcmpPredicate)
    (left right : BitVec width)
    : predicate.inverse.holds left right = !predicate.holds left right := by
  cases predicate <;>
    simp only [inverse, holds, bne, Bool.not_not, BitVec.ule_eq_not_ult, BitVec.sle_eq_not_slt]

theorem Condition.inverted_holds (condition : Condition)
    : condition.inverted.holds = !condition.holds := by
  cases condition with
  | icmp predicate left right => exact predicate.inverse_holds left right
  | fcmp predicate order => rfl
  | value holds => rfl

/-- A load of the type the pass declares the flag with, `i32`. -/
def loadInt32 (m : Memory) (a : Address) : BitVec 32 :=
  m (a + 3) ++ m (a + 2) ++ m (a + 1) ++ m a

/-- A store of the same type. -/
def storeInt32 (m : Memory) (a : Address) (value : BitVec 32) : Memory :=
  writeBytes m a
    [value.extractLsb' 0 8, value.extractLsb' 8 8, value.extractLsb' 16 8, value.extractLsb' 24 8]

/-- What `visitBranchInst` inserts after the hooks; the result is the condition the branch
then takes. The flag is a mapped variable, so neither access faults.
-/
def branchSelect (kernel : Kernel) (condition : Condition) : RtM Bool := do
  let swapBranchCondition := loadInt32 (← get).mem kernel.swapBranchCondition
  let cond := swapBranchCondition == 1
  let newCondition := if cond then condition.inverted else condition
  modify fun s => { s with mem := storeInt32 s.mem kernel.swapBranchCondition 0 }
  return newCondition.holds

end Kasper
