import Kasper.Correctness.ProgramHooks

/-! An instrumented program and its runtime. What the processor does on a wrong path is any
order of hooks, interrupts, faults and hooked writes there that do not reach the runtime's
own variables.
-/

namespace Kasper

open ByteMemory Exits

/-- Where an instrumented program stands: before a statement, or behind the saved registers
of a branch, with the token of its checkpoint.
-/
inductive Control
  | program (regs : PtRegs)
  | branching (regs : PtRegs) (token : Word)

structure Process where
  machine : Machine
  control : Control

-----------------------------------------------------------------------------------------
-- The runtime's variables
-----------------------------------------------------------------------------------------

/-- The words a hook may save for its write. A rollback writes them. -/
def WriteHook.Saves (addr w : Address) : WriteHook → Prop
  | .store => SavedBy addr w
  | .memcpy size => w ∈ memcpyWords (addr + size) (memcpyRounds + 1) (alignDown 2 addr)

/-- Neither a hook nor its write reaches the runtime's variables: no byte of them is written,
and none is in a word that the hook may save.
-/
structure RuntimeVariables.Spared {kernel : Kernel} (own : RuntimeVariables kernel)
    (hook : Option WriteHook) (target : Address) (length : Nat)
    : Prop where
  written : own.Apart (Within target length)
  saved : ∀ found, hook = some found → own.Apart fun b => found.Saves target (wordOf b)

/-- The action does not reach the runtime's variables, as a write, a hook for one, a saved
stack frame or an interrupt frame.
-/
def Action.OffVariables {kernel : Kernel} (own : RuntimeVariables kernel)
    : Action → Prop
  | .saveStack _ frameaddress rsp
  | .branch _ _ _ frameaddress rsp _ _ =>
      own.Apart (Within rsp (frameaddress - rsp).toNat)
  | .store addr => own.Spared (some .store) addr 0
  | .memcpy addr size => own.Spared (some (.memcpy size)) addr 0
  | .timer _ regs _ _
  | .exception regs _ _ _ => own.Apart (Within regs sizeofPtregs)
  | .write target bytes => own.Spared none target bytes.length
  | _ => True

-----------------------------------------------------------------------------------------
-- Outside speculation
-----------------------------------------------------------------------------------------

/-- The action writes no byte of the region. -/
def Action.OffRegion {kernel : Kernel} (region : Region kernel) : Action → Prop
  | .timer _ regs _ _
  | .exception regs _ _ _ => ∀ b, region.holds b → ¬Within regs sizeofPtregs b
  | .write target bytes => ∀ b, region.holds b → ¬Within target bytes.length b
  | _ => True

/-- What else goes on between two statements: an interrupt, another task, a hook that takes
no checkpoint.
-/
structure Event.Background {kernel : Kernel} (own : RuntimeVariables kernel)
    (region : Region kernel) (event : Event)
    : Prop where
  placed : event.action.Placed kernel
  offVariables : event.action.OffVariables own
  closed : ¬event.action.MayOpen
  off : event.action.OffRegion region

-----------------------------------------------------------------------------------------
-- On a wrong path
-----------------------------------------------------------------------------------------

/-- A replay takes no word of the region for one of a live frame, the saved frame apart. -/
def Region.Spared {kernel : Kernel} (region : Region kernel) (stack : StackLog)
    (skip : Address → Bool)
    : Prop :=
  ∀ b, region.holds b → ¬stack.Holds b → skip (wordOf b) = false

/-- The region lies off the live frames of a restart and off the interrupt frames, which are
apart from the saved frame. The program passes the tokens its branches got, which in
speculation are none.
-/
def Action.SparesRegion (env : Env) (region : Region env.kernel) (s : Rt) : Action → Prop
  | .saveStack token _ _ => token = noCheckpoint
  | .saveRegisters _ _ token => token = noCheckpoint
  | .branch _ leaveFrames _ _ _ _ _ =>
      region.Spared s.stack (restartSkips { env with frames := leaveFrames } true 0 0)
  | .timer _ regs frameaddr _
  | .exception regs frameaddr _ _ =>
      FrameApart regs s.stack ∧ region.Spared s.stack (restartSkips env false frameaddr regs)
  | .write _ _ => False
  | _ => True

/-- An event of a wrong path, by its place and those of the region and the variables. -/
structure Event.OnWrongPath {kernel : Kernel} (own : RuntimeVariables kernel)
    (region : Region kernel) (event : Event) (s : Rt)
    : Prop where
  placed : event.action.Placed kernel
  offVariables : event.action.OffVariables own
  frames : region.Spared s.stack (restartSkips (event.env kernel) true 0 0)
  action : event.action.SparesRegion (event.env kernel) region s

-----------------------------------------------------------------------------------------
-- Steps
-----------------------------------------------------------------------------------------

/-- One step, with what it shows of the program. A statement that faults is tried again after
its exception; a checkpoint takes the program behind the saved registers, and as long as
the episode lasts what happens is silent. No step writes the runtime's variables but the
runtime's own.
-/
inductive Process.Step {kernel : Kernel} (P : Program kernel)
    : Process → Option Label → Process → Prop
  | compute {m : Machine} {regs regs' : PtRegs} (running : m.phase = .running)
      (idle : m.rt.inSpeculativeEmulation = false)
      (next : P.next regs m.rt.mem = .compute regs')
      : Step P ⟨m, .program regs⟩ (some .compute) ⟨m, .program regs'⟩
  | write {m : Machine} {regs regs' : PtRegs} {hook : Option WriteHook} {target : Address}
      {bytes : List Byte} {frames : Frames} {task : Task} {t : Rt}
      (running : m.phase = .running) (idle : m.rt.inSpeculativeEmulation = false)
      (next : P.next regs m.rt.mem = .write hook target bytes regs')
      (written : hookedWrite ⟨kernel, frames, task⟩ hook target bytes m.rt = .ok () t)
      : Step P ⟨m, .program regs⟩ (some (.write target bytes))
          ⟨⟨t, .running⟩, .program regs'⟩
  | writeFails {m : Machine} {regs regs' : PtRegs} {hook : Option WriteHook}
      {target : Address} {bytes : List Byte} {frames : Frames} {task : Task} {e : Exit} {t : Rt}
      (running : m.phase = .running) (idle : m.rt.inSpeculativeEmulation = false)
      (next : P.next regs m.rt.mem = .write hook target bytes regs')
      (fails : hookedWrite ⟨kernel, frames, task⟩ hook target bytes m.rt = .error e t)
      : Step P ⟨m, .program regs⟩ none ⟨.after (.error e t), .program regs⟩
  | opens {m : Machine} {regs cpu : PtRegs} {returnAddress token : Word}
      {frames saveFrames : Frames} {task : Task} {inInterrupt : Bool}
      {frameaddress rsp : Address} {t : Rt}
      (running : m.phase = .running) (idle : m.rt.inSpeculativeEmulation = false)
      (next : P.next regs m.rt.mem = .branch cpu returnAddress)
      (placed : ¬Within rsp (frameaddress - rsp).toNat kernel.swapBranchCondition)
      (offVariables : P.own.Apart (Within rsp (frameaddress - rsp).toNat))
      (opened
        : openBranch ⟨kernel, frames, task⟩ ⟨kernel, saveFrames, task⟩ inInterrupt
            frameaddress rsp cpu returnAddress m.rt
          = .ok token t)
      : Step P ⟨m, .program regs⟩ none ⟨⟨t, .running⟩, .branching regs token⟩
  | openFails {m : Machine} {regs cpu : PtRegs} {returnAddress token : Word}
      {frames saveFrames : Frames} {task : Task} {inInterrupt : Bool}
      {frameaddress rsp : Address} {e : Exit} {t : Rt}
      (running : m.phase = .running) (idle : m.rt.inSpeculativeEmulation = false)
      (next : P.next regs m.rt.mem = .branch cpu returnAddress)
      (placed : ¬Within rsp (frameaddress - rsp).toNat kernel.swapBranchCondition)
      (offVariables : P.own.Apart (Within rsp (frameaddress - rsp).toNat))
      (fails
        : openBranch ⟨kernel, frames, task⟩ ⟨kernel, saveFrames, task⟩ inInterrupt
            frameaddress rsp cpu returnAddress m.rt
          = .error e t)
      : Step P ⟨m, .program regs⟩ none ⟨.after (.error e t), .branching regs token⟩
  | finishes {m : Machine} {regs : PtRegs} {token : Word} {frames : Frames} {task : Task}
      {taken : Bool} {t : Rt} (running : m.phase = .running)
      (idle : m.rt.inSpeculativeEmulation = false)
      (finished : P.finishBranch frames task token m.rt = .ok taken t)
      : Step P ⟨m, .branching regs token⟩ (some (.branch taken))
          ⟨⟨t, .running⟩, .program (P.target m.rt.cpu taken)⟩
  | finishFails {m : Machine} {regs : PtRegs} {token : Word} {frames : Frames} {task : Task}
      {e : Exit} {t : Rt} (running : m.phase = .running)
      (idle : m.rt.inSpeculativeEmulation = false)
      (fails : P.finishBranch frames task token m.rt = .error e t)
      : Step P ⟨m, .branching regs token⟩ none ⟨.after (.error e t), .branching regs token⟩
  | wrongEvent {m next : Machine} {regs : PtRegs} {token : Word} {event : Event}
      (inSpec : m.rt.inSpeculativeEmulation = true)
      (wrong : event.OnWrongPath P.own (P.live regs) m.rt)
      (steps : m.step kernel event = some next)
      : Step P ⟨m, .branching regs token⟩ none ⟨next, .branching regs token⟩
  | wrongWrite {m : Machine} {regs : PtRegs} {token : Word} {hook : Option WriteHook}
      {target : Address} {bytes : List Byte} {frames : Frames} {task : Task}
      (running : m.phase = .running) (inSpec : m.rt.inSpeculativeEmulation = true)
      (placed : (Action.write target bytes).Placed kernel)
      (offVariables : P.own.Spared hook target bytes.length)
      (spared
        : (P.live regs).Spared m.rt.stack (restartSkips ⟨kernel, frames, task⟩ true 0 0))
      (covered : (P.live regs).Covered m.rt.stack hook target bytes.length)
      : Step P ⟨m, .branching regs token⟩ none
          ⟨.after (hookedWrite ⟨kernel, frames, task⟩ hook target bytes m.rt),
            .branching regs token⟩
  | wrongSelect {m : Machine} {regs : PtRegs} {token : Word} {condition : Condition}
      {taken : Bool} {t : Rt} (running : m.phase = .running)
      (inSpec : m.rt.inSpeculativeEmulation = true)
      (selected : branchSelect kernel condition m.rt = .ok taken t)
      : Step P ⟨m, .branching regs token⟩ none ⟨⟨t, .running⟩, .branching regs token⟩
  | background {m next : Machine} {regs : PtRegs} {event : Event}
      (idle : m.rt.inSpeculativeEmulation = false)
      (allowed : event.Background P.own (P.live regs))
      (steps : m.step kernel event = some next)
      : Step P ⟨m, .program regs⟩ none ⟨next, .program regs⟩

end Kasper
