import Kasper.Passes.Ir
import Kasper.Passes.KSpecEmSpec

/-! Running functions with inserted hooks: the program's instructions mean what they mean,
and a hook runs on the runtime. Inserted instructions are silent; what the program does
shows. The program has no access to the four bytes that the inserted accesses to the swap
flag reach.
-/

namespace Kasper.Ir

open ByteMemory

/-- Two memories with the same bytes off the flag's accesses. -/
def Agree (kernel : Kernel) (mem other : Memory) : Prop :=
  ∀ b, ¬Within kernel.swapBranchCondition 4 b → mem b = other b

/-- What the program's instructions mean. An instruction may fail to complete; a call enters a
function of the module or runs code from elsewhere.
-/
structure Meaning (kernel : Kernel) (Op V : Type) where
  exec : Op → (ptr : Address) → V → Memory → Option (V × Memory)
  pointer : Op → V → Address
  length : Op → V → Word
  condition : Op → V → Condition
  calledAddress : Op → V → Address
  callee : Op → V → Option String
  arguments : Op → V → V
  result : (call ret : Op) → (caller callee : V) → V
  phi : List (Option Op) → V → V
  successor : Op → V → List Label → Option Label
  exec_spares
    : ∀ op ptr values mem values' mem',
        exec op ptr values mem = some (values', mem')
        → ∀ b, Within kernel.swapBranchCondition 4 b → mem' b = mem b
  exec_agree
    : ∀ op ptr values mem other values' mem',
        Agree kernel mem other
        → exec op ptr values mem = some (values', mem')
        → ∃ other', exec op ptr values other = some (values', other') ∧ Agree kernel mem' other'
  phi_nil : ∀ values, phi [] values = values
  successor_mem
    : ∀ op values targets target, successor op values targets = some target → target ∈ targets

/-- What a hook gets from the machine where it is called. -/
structure Site where
  frames : Frames
  inInterrupt : Bool
  frameaddress : Address
  rsp : Address
  returnAddress : Address
  regs : Address
  cpu : PtRegs
  resumeAddress : Word
  pfDummyRegion : Address
  addrValid : Bool
  frameaddress_ne : frameaddress ≠ 0

abbrev Temps := Temp → Word

/-- Define a value. -/
def Temps.put (temps : Temps) (t : Temp) (value : Word) : Temps :=
  fun other => if other = t then value else temps other

def boolWord (b : Bool) : Word := if b then 1 else 0

section
variable {kernel : Kernel} {Op V : Type} (meaning : Meaning kernel Op V) (values : V)
  (temps : Temps)

def Operand.address (op : Op) : Operand → Address
  | .own => meaning.pointer op values
  | .temp t => temps t

def Operand.holds (op : Op) : Operand → Bool
  | .own => (meaning.condition op values).holds
  | .temp t => temps t != 0

def Target.address : Target Op → Address
  | .ptr operand op => operand.address meaning values temps op
  | .swapBranchCondition => kernel.swapBranchCondition

def AccessSize.word : AccessSize Op → Word
  | .typeStoreSize size => BitVec.ofNat 64 size
  | .length op => meaning.length op values

def CallArg.address (pass : Nat) : CallArg Op → Address
  | .null => 0
  | .function address => address
  | .calledValue op => meaning.calledAddress op values
  | .returnAddress => temps ⟨pass, .returnAddress⟩

/-- Run an inserted instruction; the result is the value it defines. -/
def Inserted.run (task : Task) (site : Site) (pass : Nat) : Inserted Op → RtM Word
  | .cast => return 0
  | .returnAddress => return site.returnAddress
  | .frameAddress => return site.frameaddress
  | .checkCallDepth => do
      hookCheckCallDepth ⟨kernel, site.frames, task⟩ (Env.onFail ⟨kernel, site.frames, task⟩)
      return 0
  | .newCheckpoint =>
      hookNewCheckpoint ⟨kernel, site.frames, task⟩ (Env.onFail ⟨kernel, site.frames, task⟩)
        site.inInterrupt
  | .saveStack => do
      hookSaveStack (Env.onFail ⟨kernel, site.frames, task⟩) (temps ⟨pass, .irqFlags⟩)
        (temps ⟨pass, .frameAddress⟩) site.rsp
      return 0
  | .loadRegistersPtr => return kernel.registers
  | .saveRegisters => do
      Kasper.saveRegisters site.cpu site.resumeAddress (temps ⟨pass, .irqFlags⟩)
      return 0
  | .leaveRt => do
      hookLeaveRt ⟨kernel, site.frames, task⟩ (Env.onFail ⟨kernel, site.frames, task⟩)
        (temps ⟨pass, .irqFlags⟩)
      return 0
  | .invertCondition condition op =>
      return boolWord <|
        match condition with
        | .own => (meaning.condition op values).inverted.holds
        | .temp t => temps t == 0
  | .loadSwapBranchCondition => do
      return (loadInt32 (← get).mem kernel.swapBranchCondition).setWidth 64
  | .icmpOne => return boolWord (temps ⟨pass, .swapBranchCondition⟩ == 1)
  | .select condition op =>
      return if temps ⟨pass, .cond⟩ ≠ 0 then
        temps ⟨pass, .invertedCondition⟩
      else
        boolWord (condition.holds meaning values temps op)
  | .storeSwapBranchCondition => do
      modify fun s => { s with mem := storeInt32 s.mem kernel.swapBranchCondition 0 }
      return 0
  | .restart restartType callArg => do
      let _ ← hookRestart ⟨kernel, site.frames, task⟩ (Env.onFail ⟨kernel, site.frames, task⟩)
        true restartType (callArg.address meaning values temps pass)
      return 0
  | .store target => do
      hookStore ⟨kernel, site.frames, task⟩ (Env.onFail ⟨kernel, site.frames, task⟩)
        (target.address meaning values temps)
      return 0
  | .memcpy ptr op => do
      hookMemcpy ⟨kernel, site.frames, task⟩ (Env.onFail ⟨kernel, site.frames, task⟩)
        (ptr.address meaning values temps op) (meaning.length op values)
      return 0
  | .access ptr size op =>
      hookAccess (Env.onFail ⟨kernel, site.frames, task⟩) site.pfDummyRegion
        (ptr.address meaning values temps op) (size.word meaning values) site.addrValid
  | .interruptTimer => do
      hookInterruptTimer ⟨kernel, site.frames, task⟩ (Env.onFail ⟨kernel, site.frames, task⟩)
        site.regs (temps ⟨pass, .frameAddress⟩)
      return 0
  | .interruptException exceptionType => do
      let inSpec ← hookInterruptException ⟨kernel, site.frames, task⟩
        (Env.onFail ⟨kernel, site.frames, task⟩) site.regs (temps ⟨pass, .frameAddress⟩)
        exceptionType
      return BitVec.ofInt 64 inSpec
  | .isNull => return boolWord (temps ⟨pass, .inSpec⟩ == 0)
  | .checkSpecLength bbInstCount => do
      hookCheckSpecLength ⟨kernel, site.frames, task⟩ (Env.onFail ⟨kernel, site.frames, task⟩)
        bbInstCount
      return 0

end

-----------------------------------------------------------------------------------------
-- Steps
-----------------------------------------------------------------------------------------

variable {kernel : Kernel} {Op V : Type}

/-- A function somewhere inside a block: the rest of the block, and the values so far. -/
structure Frame (Op V : Type) where
  code : Function Op
  label : Label
  rest : List (Inst Op)
  term : Terminator Op
  values : V
  temps : Temps

/-- The running function, its callers with the calls they wait for, and the runtime. -/
structure State (Op V : Type) where
  top : Frame Op V
  callers : List (Op × Frame Op V)
  rt : Rt

/-- What a step of the program shows. -/
inductive Shown (Op : Type)
  | exec (op : Op) (ptr : Address)
  | enter (call : Op) (name : String)
  | leave (op : Op)
  | leaveVoid
  | branch (op : Op) (taken : Bool)
  | goto (target : Label)

/-- Go to a block of the running function. -/
def Frame.goto (meaning : Meaning kernel Op V) (q : Frame Op V) (target : Label)
    : Option (Frame Op V) :=
  (q.code.block target).map fun bb =>
    { q with
      label := target
      rest := bb.insts
      term := bb.term
      values := meaning.phi (bb.phis.map fun phi => phi.incoming.lookup q.label) q.values }

/-- Begin a function. -/
def Function.frame (f : Function Op) (values : V) : Option (Frame Op V) :=
  (f.block f.entry).map fun bb =>
    { code := f, label := f.entry, rest := bb.insts, term := bb.term, values, temps := fun _ => 0 }

def Module.find (m : Module Op) (name : String) : Option (Function Op) :=
  m.functions.find? fun f => f.listed.name == name

/-- The function of the module that a call enters, if it does. -/
def Module.called (m : Module Op) (meaning : Meaning kernel Op V) (op : Op) (values : V)
    : Option (Function Op) :=
  (meaning.callee op values).bind m.find

/-- The program runs an instruction at the given address. -/
def State.exec (meaning : Meaning kernel Op V) (q : State Op V) (op : Op) (ptr : Address)
    (rest : List (Inst Op))
    : Option (Option (Shown Op) × State Op V) :=
  (meaning.exec op ptr q.top.values q.rt.mem).map fun (values, mem) =>
    (some (.exec op ptr),
      { q with top := { q.top with rest, values }, rt := { q.rt with mem } })

/-- The running function goes to a block. -/
def State.goto (meaning : Meaning kernel Op V) (q : State Op V) (target : Label)
    (shown : Option (Shown Op))
    : Option (Option (Shown Op) × State Op V) :=
  (q.top.goto meaning target).map fun top => (shown, { q with top })

/-- The running function returns, where there is a caller. -/
def State.leave (q : State Op V) (shown : Shown Op) (result : (call : Op) → (caller : V) → V)
    : Option (Option (Shown Op) × State Op V) :=
  match q.callers with
  | [] => none
  | (call, caller) :: callers =>
      some
        (some shown,
          { q with top := { caller with values := result call caller.values }, callers })

/-- One step of a module in one task; `place` says where on the machine a hook runs. A hook
that control leaves by an exit ends the run.
-/
def Module.step (m : Module Op) (meaning : Meaning kernel Op V) (task : Task)
    (place : State Op V → Site) (q : State Op V)
    : Option (Option (Shown Op) × State Op V) :=
  match q.top.rest with
  | .inserted pass inst :: rest =>
      match inst.run meaning q.top.values q.top.temps task (place q) pass q.rt with
      | .ok value rt =>
          some
            (none,
              { q with
                top := { q.top with rest, temps := q.top.temps.put ⟨pass, inst.name⟩ value }
                rt })
      | .error _ _ => none
  | .plain op :: rest => q.exec meaning op 0 rest
  | .call _ op :: rest =>
      match m.called meaning op q.top.values with
      | none => q.exec meaning op 0 rest
      | some f =>
          (f.frame (meaning.arguments op q.top.values)).map fun top =>
            (some (.enter op f.listed.name),
              { q with top, callers := (op, { q.top with rest }) :: q.callers })
  | .load access _ op :: rest =>
      q.exec meaning op (access.ptr.address meaning q.top.values q.top.temps op) rest
  | .store access _ op :: rest =>
      q.exec meaning op (access.ptr.address meaning q.top.values q.top.temps op) rest
  | .memIntrinsic access _ op :: rest =>
      q.exec meaning op (access.ptr.address meaning q.top.values q.top.temps op) rest
  | [] =>
      match q.top.term with
      | .ret op => q.leave (.leave op) fun call caller => meaning.result call op caller q.top.values
      | .br target => q.goto meaning target (some (.goto target))
      | .condBr condition op yes no =>
          let taken := condition.holds meaning q.top.values q.top.temps op
          q.goto meaning (if taken then yes else no) (some (.branch op taken))
      | .other op targets =>
          (meaning.successor op q.top.values targets).bind fun target =>
            q.goto meaning target (some (.goto target))
      | .ifNull pass yes no =>
          q.goto meaning (if q.top.temps ⟨pass, .isNull⟩ ≠ 0 then yes else no) none
      | .retVoid _ => q.leave .leaveVoid fun _ caller => caller

/-- A run begins with a function of the module. -/
def Module.start (m : Module Op) (name : String) (values : V) (rt : Rt) : Option (State Op V) :=
  ((m.find name).bind fun f => f.frame values).map fun top => { top, callers := [], rt }

end Kasper.Ir
