import Kasper.Passes.CallHooks
import Kasper.Passes.KSpecEm
import Kasper.Passes.KSpecEmPfChecker

/-! Functions of the compiler's intermediate language, as far as the passes look at them, and
the four passes on whole functions. What a pass inserts carries the number of its run; a
value it defines is a `Temp`, and a block it creates has a label with that number.
-/

namespace Kasper.Ir

open ByteMemory

/-- A basic block of the program, or one that a run of `KSpecEm` splits off or creates. -/
inductive Label
  | block (index : Nat)
  | split (pass : Nat) (of : Label)
  | returnBlock (pass : Nat)
  deriving DecidableEq, Repr

/-- The values that inserted instructions define, named as in the passes. -/
inductive TempName
  | irqFlags
  | frameAddress
  | registersPtr
  | invertedCondition
  | swapBranchCondition
  | cond
  | newCondition
  | newPtr
  | inSpec
  | isNull
  | returnAddress
  | unused
  deriving DecidableEq, Repr

structure Temp where
  pass : Nat
  name : TempName
  deriving DecidableEq, Repr

/-- An operand of the program: the one it was written with, or a value put in its place. -/
inductive Operand
  | own
  | temp (t : Temp)
  deriving DecidableEq, Repr

/-- What a pass can ask of an access: whether it carries `is-asan-instr`, whether its
pointer is an `i8*` already, and the pointer.
-/
structure Access where
  isAsanInstr : Bool
  bytePtr : Bool
  ptr : Operand

variable {Op : Type}

/-- Where a store hook's address comes from: an access, or the flag's variable. -/
inductive Target (Op : Type)
  | ptr (operand : Operand) (op : Op)
  | swapBranchCondition

/-- The size a pass hands the access hook. -/
inductive AccessSize (Op : Type)
  | typeStoreSize (size : Nat)
  | length (op : Op)

/-- The last argument of a restart hook. -/
inductive CallArg (Op : Type)
  | null
  | function (address : Address)
  | calledValue (op : Op)
  | returnAddress

/-- An instruction that a pass inserts. -/
inductive Inserted (Op : Type)
  | cast
  | returnAddress
  | frameAddress
  | checkCallDepth
  | newCheckpoint
  | saveStack
  | loadRegistersPtr
  | saveRegisters
  | leaveRt
  | invertCondition (condition : Operand) (op : Op)
  | loadSwapBranchCondition
  | icmpOne
  | select (condition : Operand) (op : Op)
  | storeSwapBranchCondition
  | restart (restartType : RestartType) (callArg : CallArg Op)
  | store (target : Target Op)
  | memcpy (ptr : Operand) (op : Op)
  | access (ptr : Operand) (size : AccessSize Op) (op : Op)
  | interruptTimer
  | interruptException (exceptionType : Int)
  | isNull
  | checkSpecLength (bbInstCount : BitVec 32)

/-- The value an inserted instruction defines. -/
def Inserted.name : Inserted Op → TempName
  | .returnAddress => .returnAddress
  | .frameAddress => .frameAddress
  | .newCheckpoint => .irqFlags
  | .loadRegistersPtr => .registersPtr
  | .invertCondition _ _ => .invertedCondition
  | .loadSwapBranchCondition => .swapBranchCondition
  | .icmpOne => .cond
  | .select _ _ => .newCondition
  | .access _ _ _ => .newPtr
  | .interruptException _ => .inSpec
  | .isNull => .isNull
  | _ => .unused

/-- An instruction before the terminator; what no pass looks at is `plain`. -/
inductive Inst (Op : Type)
  | plain (op : Op)
  | call (called : CalledOperand) (op : Op)
  | load (access : Access) (typeStoreSize : Nat) (op : Op)
  | store (access : Access) (typeStoreSize : Nat) (op : Op)
  | memIntrinsic (access : Access) (narrowLength : Bool) (op : Op)
  | inserted (pass : Nat) (inst : Inserted Op)

/-- The last two come with the exception hook: the branch on its result, and the return for
an exception in speculation.
-/
inductive Terminator (Op : Type)
  | ret (op : Op)
  | br (target : Label)
  | condBr (condition : Operand) (op : Op) (yes no : Label)
  | other (op : Op) (targets : List Label)
  | ifNull (pass : Nat) (yes no : Label)
  | retVoid (pass : Nat)

/-- A PHI node, by its predecessors. -/
structure Phi (Op : Type) where
  incoming : List (Label × Op)

structure Block (Op : Type) where
  phis : List (Phi Op)
  insts : List (Inst Op)
  term : Terminator Op

/-- `std::distance(bb->begin(), bb->end())`. -/
def Block.size (bb : Block Op) : Nat := bb.phis.length + bb.insts.length + 1

/-- A function with a body, and what the list of functions says of it. -/
structure Function (Op : Type) where
  listed : ListedFunction
  entry : Label
  block : Label → Option (Block Op)

structure Module (Op : Type) where
  name : String
  functions : List (Function Op)

/-- Rewrite every block. -/
def Function.mapBlocks (f : Function Op) (visit : Label → Block Op → Block Op) : Function Op :=
  { f with block := fun l => (f.block l).map (visit l) }

/-- Insert instructions at the beginning of the entry block. -/
def Function.atEntry (f : Function Op) (insts : List (Inst Op)) : Function Op :=
  f.mapBlocks fun l bb => if l = f.entry then { bb with insts := insts ++ bb.insts } else bb

-----------------------------------------------------------------------------------------
-- KSpecEmSpec
-----------------------------------------------------------------------------------------

/-- `insertNewCheckpointHook`, then the select on the swap flag; what the run number `pass`
of the pass puts before a conditional branch.
-/
def KSpecEmSpec.beforeBranch (pass : Nat) (condition : Operand) (op : Op) : List (Inst Op) :=
  [ .inserted pass .newCheckpoint,
    .inserted pass .frameAddress,
    .inserted pass .saveStack,
    .inserted pass .loadRegistersPtr,
    .inserted pass .saveRegisters,
    .inserted pass .leaveRt,
    .inserted pass (.invertCondition condition op),
    .inserted pass .loadSwapBranchCondition,
    .inserted pass .icmpOne,
    .inserted pass (.select condition op),
    .inserted pass .storeSwapBranchCondition ]

/-- `KSpecEmSpecPassVisitor::visitBranchInst`, on the block that ends in the branch. -/
def KSpecEmSpec.visitBranchInst (pass : Nat) (bb : Block Op) : Block Op :=
  match bb.term with
  | .condBr condition op yes no =>
      { bb with
        insts := bb.insts ++ beforeBranch pass condition op
        term := .condBr (.temp ⟨pass, .newCondition⟩) op yes no }
  | _ => bb

/-- `KSpecEmSpec::visitor`. -/
def KSpecEmSpec.visitor (pass : Nat) (f : Function Op) : Function Op :=
  if f.listed.unspeculated then
    f
  else
    let f := f.atEntry [.inserted pass .returnAddress, .inserted pass .checkCallDepth]
    f.mapBlocks fun _ bb => visitBranchInst pass bb

-----------------------------------------------------------------------------------------
-- KSpecEm
-----------------------------------------------------------------------------------------

/-- `visitStoreInst`: what goes before a store. -/
def KSpecEm.beforeStore (pass : Nat) (f : ListedFunction) (target : Target Op)
    : List (Inst Op) :=
  if StringRef.startswith f.name "kspecem_" then
    []
  else
    [.inserted pass .cast, .inserted pass (.store target)]

/-- `visitMemIntrinsic`: what goes before a memory intrinsic; a narrow length is extended. -/
def KSpecEm.beforeMemIntrinsic (pass : Nat) (f : ListedFunction) (access : Access)
    (narrowLength : Bool) (op : Op)
    : List (Inst Op) :=
  if StringRef.startswith f.name "kspecem_" then
    []
  else
    .inserted pass .cast
      :: (if narrowLength then [.inserted pass .cast] else [])
      ++ [.inserted pass (.memcpy access.ptr op)]

/-- The restart types as `visitCallInst` numbers them. -/
def restartTypeOf : Int → RestartType
  | 1 => .restartCall
  | 2 => .restartCallUndefined
  | 3 => .restartCallInlineAsm
  | code => .unlisted code

/-- `visitCallInst`: what goes before a call. -/
def KSpecEm.beforeCall (pass : Nat) (f : ListedFunction) (called : CalledOperand) (op : Op)
    : List (Inst Op) :=
  match Kasper.visitCallInst (f.isIn .nospec) called with
  | none => []
  | some hook =>
      match hook.calledFunc with
      | some _ =>
          [.inserted pass .cast,
            .inserted pass (.restart (restartTypeOf hook.restartType) (.calledValue op))]
      | none => [.inserted pass (.restart (restartTypeOf hook.restartType) .null)]

/-- What `KSpecEmPassVisitor` puts before an instruction. The calls that passes insert are
direct and get no hook, but the flag's store is a store.
-/
def KSpecEmPassVisitor.visit (pass : Nat) (f : ListedFunction) : Inst Op → List (Inst Op)
  | .call called op => KSpecEm.beforeCall pass f called op
  | .store access _ op => KSpecEm.beforeStore pass f (.ptr access.ptr op)
  | .memIntrinsic access narrowLength op =>
      KSpecEm.beforeMemIntrinsic pass f access narrowLength op
  | .inserted _ .storeSwapBranchCondition => KSpecEm.beforeStore pass f .swapBranchCondition
  | .plain _ | .load _ _ _ | .inserted _ _ => []

/-- `visitReturnInst`: what goes before a return. -/
def KSpecEm.beforeReturn (pass : Nat) (f : ListedFunction) : List (Inst Op) :=
  match visitReturnInst (f.isIn .nospec) with
  | none => []
  | some restartType =>
      [.inserted pass .returnAddress, .inserted pass (.restart restartType .returnAddress)]

/-- The same, for the terminators that return. -/
def KSpecEmPassVisitor.visitTerminator (pass : Nat) (f : ListedFunction)
    : Terminator Op → List (Inst Op)
  | .ret _ | .retVoid _ => KSpecEm.beforeReturn pass f
  | _ => []

def KSpecEmPassVisitor.visitBlock (pass : Nat) (f : ListedFunction) (bb : Block Op)
    : Block Op :=
  { bb with
    insts :=
      bb.insts.flatMap (fun inst => visit pass f inst ++ [inst])
        ++ visitTerminator pass f bb.term }

/-- `insertTimerInterruptHook`. -/
def KSpecEm.timerInterruptHook (pass : Nat) : List (Inst Op) :=
  [.inserted pass .frameAddress, .inserted pass .cast, .inserted pass .interruptTimer]

/-- `insertExceptionInterruptHook`, and the test of its result. -/
def KSpecEm.exceptionInterruptHook (pass : Nat) (f : ListedFunction) : List (Inst Op) :=
  [ .inserted pass .frameAddress,
    .inserted pass .cast,
    .inserted pass (.interruptException (exceptionTypeOf f)),
    .inserted pass .isNull ]

/-- `SplitBlock` gives the PHI nodes behind the old block the new one as their predecessor. -/
def Phi.relabel (old new : Label) (phi : Phi Op) : Phi Op where
  incoming := phi.incoming.map fun (l, op) => (if l = old then new else l, op)

def Block.relabel (old new : Label) (bb : Block Op) : Block Op :=
  { bb with phis := bb.phis.map (Phi.relabel old new) }

/-- What `visitor` makes of an exception handler: its entry block is split before the first
instruction, and the hook's result decides between the new block and a return.
-/
def KSpecEm.exceptionHandler (pass : Nat) (f : Function Op) : Function Op :=
  let newBB := Label.split pass f.entry
  let returnBB := Label.returnBlock pass
  { f with
    block := fun l =>
      if l = f.entry then
        (f.block f.entry).map fun bb =>
          { phis := (bb.relabel f.entry newBB).phis
            insts := exceptionInterruptHook pass f.listed
            term := .ifNull pass newBB returnBB }
      else if l = newBB then
        (f.block f.entry).map fun bb => { bb with phis := [] }
      else if l = returnBB then
        some { phis := [], insts := [], term := .retVoid pass }
      else
        (f.block l).map (Block.relabel f.entry newBB) }

/-- `KSpecEm::visitor`. -/
def KSpecEm.visitor (pass : Nat) (f : Function Op) : Function Op :=
  if f.listed.isIn .blacklist then
    f.atEntry [.inserted pass (.restart .restartBlacklist (.function f.listed.address))]
  else if f.listed.isIn .timer then
    f.atEntry (timerInterruptHook pass)
  else if f.listed.isIn .exception then
    exceptionHandler pass f
  else
    f.mapBlocks fun _ bb => KSpecEmPassVisitor.visitBlock pass f.listed bb

-----------------------------------------------------------------------------------------
-- KSpecEmCheckSpecLength
-----------------------------------------------------------------------------------------

/-- The body of the visitor's loop. -/
def KSpecEmCheckSpecLength.visitBlock (pass : Nat) (bb : Block Op) : Block Op :=
  { bb with insts := bb.insts ++ [.inserted pass (.checkSpecLength (BitVec.ofNat 32 bb.size))] }

/-- `KSpecEmCheckSpecLength::visitor`. -/
def KSpecEmCheckSpecLength.visitor (pass : Nat) (f : Function Op) : Function Op :=
  if IrFunction.skipped (⟨f.listed.name, []⟩ : IrFunction Op) then
    f
  else
    f.mapBlocks fun _ bb => visitBlock pass bb

-----------------------------------------------------------------------------------------
-- KSpecEmPfChecker
-----------------------------------------------------------------------------------------

/-- `CreateBitCast` of or to the pointer's type, which for an `i8*` is the pointer itself. -/
def KSpecEmPfChecker.pointerCast (pass : Nat) (bytePtr : Bool) : List (Inst Op) :=
  if bytePtr then [] else [.inserted pass .cast]

/-- The access hook between the casts of the pointer, before an instruction that then uses
the hook's result.
-/
def KSpecEmPfChecker.redirected (pass : Nat) (access : Access) (size : AccessSize Op) (op : Op)
    (inst : Access → Inst Op)
    : List (Inst Op) :=
  pointerCast pass access.bytePtr
    ++ .inserted pass (.access access.ptr size op) :: pointerCast pass access.bytePtr
    ++ [inst { access with ptr := .temp ⟨pass, .newPtr⟩ }]

/-- `KSpecEmPfCheckerPassVisitor`; the destination of a memory intrinsic is an `i8*`. -/
def KSpecEmPfCheckerPassVisitor.visit (pass : Nat) : Inst Op → List (Inst Op)
  | .load access typeStoreSize op =>
      if !access.isAsanInstr then
        [.load access typeStoreSize op]
      else
        KSpecEmPfChecker.redirected pass access (.typeStoreSize typeStoreSize) op
          fun access => .load access typeStoreSize op
  | .store access typeStoreSize op =>
      if !access.isAsanInstr then
        [.store access typeStoreSize op]
      else
        KSpecEmPfChecker.redirected pass access (.typeStoreSize typeStoreSize) op
          fun access => .store access typeStoreSize op
  | .memIntrinsic access narrowLength op =>
      if !access.isAsanInstr then
        [.memIntrinsic access narrowLength op]
      else
        (if narrowLength then [.inserted pass .cast] else [])
          ++ [.inserted pass (.access access.ptr (.length op) op),
            .memIntrinsic { access with ptr := .temp ⟨pass, .newPtr⟩ } narrowLength op]
  | inst => [inst]

/-- `KSpecEmPfChecker::visitor`. -/
def KSpecEmPfChecker.visitor (pass : Nat) (f : Function Op) : Function Op :=
  f.mapBlocks fun _ bb =>
    { bb with insts := bb.insts.flatMap (KSpecEmPfCheckerPassVisitor.visit pass) }

-----------------------------------------------------------------------------------------
-- Modules
-----------------------------------------------------------------------------------------

/-- The passes, by their names on the command line. -/
inductive Pass
  | kspecem
  | kspecemSpec
  | kspecemCheckSpecLength
  | kspecemPfChecker
  deriving DecidableEq, Repr

/-- The `visitor` of each. -/
def Pass.visitor (pass : Nat) : Pass → Function Op → Function Op
  | .kspecem => KSpecEm.visitor pass
  | .kspecemSpec => KSpecEmSpec.visitor pass
  | .kspecemCheckSpecLength => KSpecEmCheckSpecLength.visitor pass
  | .kspecemPfChecker => KSpecEmPfChecker.visitor pass

/-- The modules the `runImpl` of each leaves alone. -/
def Pass.excludes (name : String) : Pass → Bool
  | .kspecemCheckSpecLength => IrModule.excluded (⟨name, []⟩ : IrModule Unit)
  | _ => StringRef.contains name "libkspecem.a"

/-- The `runImpl` of each. -/
def Pass.runImpl (pass : Nat) (p : Pass) (m : Module Op) : Module Op :=
  if p.excludes m.name then m else { m with functions := m.functions.map (p.visitor pass) }

/-- Passes run one after another; the numbers of their runs count from `pass`. -/
def runPasses : (pass : Nat) → List Pass → Module Op → Module Op
  | _, [], m => m
  | pass, p :: rest, m => runPasses (pass + 1) rest (p.runImpl pass m)

end Kasper.Ir
