import Kasper.Runtime.Machine

/-! One small kernel image, booted: the concrete input on which theorems are instantiated. -/

namespace Kasper

open ByteMemory

/-- All pages mapped, the variables below `0x9000`, a text of two pages. -/
def sampleKernel : Kernel where
  readablePage := fun _ => true
  writablePage := fun _ => true
  swapBranchCondition := 0x8000
  wlPosition := 0x8010
  writelogEnabled := 0x8018
  writelogAddrs := 0x8020
  writelogData := 0x8028
  registers := 0x8100
  nmiCount := 0x8800
  text := 0x400000
  etext := 0x402000
  labelInfo := fun _ => ""
  panicDepth := 3
  panicDepth_pos := by decide
  nmiCount_aligned := by decide
  nmiCount_writable := fun _ => rfl
  nmiCount_ne_wlPosition := by decide
  nmiCount_ne_writelogEnabled := by decide
  nmiCount_clear := by decide

/-- A hook call deep in the kernel stack. -/
def sampleFrames : Frames where
  rsp := 0x70000
  restart := 0x70040
  returnAddress := 0x400100
  addrSlot := 0x70008
  iSlot := 0x70010
  numEntriesSlot := 0x70018
  rsp_ne := by decide
  addrSlot_ne := by decide

def sampleEnv : Env where
  kernel := sampleKernel
  frames := sampleFrames
  task := { comm := [], syscallNr := 0 }

def sampleHeap : Heap where
  specStatistics := 0x1000000
  totalStatistics := 0x1100000
  inlineasmRestartStats := 0x1200000
  previousBugsMap := 0x1300000
  previousBugsBlock := fun _ => 0x1400000
  bugs := 0x2000000
  wlStack := 0x2100000
  writelogAddrs := 0x3000000
  writelogData := 0x4000000
  writelogMeta := 0x5000000
  staleBytes := fun _ => 0
  staleWords := fun _ => 0

def sampleSwitches : Switches where
  whitelistType := .disabled
  maxCallDepth := 100
  printLevel := .printDefault
  swapBranchEnabled := true
  inlineasmRestartStatsEnabled := false
  kdfIsInitDone := false
  kdfIsInRt := false
  kdfinitIsInitDone := false
  kdfinitIsInRt := false

/-- The state a run ends in, on whatever way. -/
def endState {α : Type} (c : RtM α) (s : Rt) : Rt :=
  match c s with
  | .ok _ t => t
  | .error _ t => t

def sampleStatic : Rt := Rt.static sampleSwitches (fun _ => 0) (fun _ => 0) true

/-- The sample kernel after its late initialisation. -/
def sampleRt : Rt :=
  endState (commonLateInit sampleEnv sampleEnv.onFail sampleHeap) sampleStatic

theorem sampleRt_booted
    : commonLateInit sampleEnv sampleEnv.onFail sampleHeap sampleStatic = .ok () sampleRt := by
  rfl

/-- An event of the sample kernel. -/
def sampleEvent (action : Action) : Event where
  frames := sampleFrames
  task := sampleEnv.task
  action := action

/-- A conditional branch whose frame is `0x100` bytes long. -/
def sampleBranch : Event :=
  sampleEvent
    (.branch sampleFrames sampleFrames false 0x70200 0x70100 (fun _ => 0) 0x400200)

/-- The machine a list of events leads to. -/
def machineAfter (events : List Event) (m : Machine) : Machine :=
  events.foldl (fun m event => .after (event.run sampleKernel m.rt)) m

/-- Booted, and ready for the first event. -/
def sampleMachine : Machine := ⟨sampleRt, .running⟩

end Kasper
