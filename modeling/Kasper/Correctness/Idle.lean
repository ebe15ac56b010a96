import Kasper.Correctness.Events

/-! Outside speculation the runtime's sections do the same each time, and the late
initialisation leaves a coherent state.
-/

namespace Kasper

open ByteMemory Exits

section
variable {env : Env} {onFail : SpecAssert → RtM Unit} {E : Exit → Rt → Prop} {s : Rt}

/-- The state inside a section that was entered with the log disabled. -/
def Rt.entered (kernel : Kernel) (s : Rt) : Rt :=
  { s.counted kernel 1 with isInRt := true, irqsEnabled := false }

/-- The state after a section was left with the log disabled. -/
def Rt.left (kernel : Kernel) (s : Rt) (irqFlags : Word) : Rt :=
  { s.counted kernel (-1) with isInRt := false, irqsEnabled := irqsEnabledIn irqFlags }

theorem countNmi_disabled {Q : Unit → Rt → Prop} {delta : Word}
    (disabled : s.log.enabled = false)
    : Ends (countNmi env onFail delta) Q E s ↔ Q () (s.counted env.kernel delta) := by
  rw [countNmi, ends_bind, hookStore, ends_bind, ends_get, if_pos disabled]
  exact Iff.rfl

theorem enterKspecemRt_disabled {Q : Word → Rt → Prop} (disabled : s.log.enabled = false)
    : Ends (enterKspecemRt env onFail) Q E s
      ↔ Q (irqFlags s.irqsEnabled) (s.entered env.kernel) := by
  rw [enterKspecemRt, ends_bind, setRt, ends_modify, ends_bind, localIrqSave]
  simp only [ends_bind, ends_get, ends_modify, ends_pure, stopNmi]
  exact countNmi_disabled disabled

theorem leaveKspecemRt_disabled {Q : Unit → Rt → Prop} {line : Nat} {irqFlags : Word}
    {file : String} (disabled : s.log.enabled = false) (irqs : s.irqsEnabled = false)
    : Ends (leaveKspecemRt env onFail line irqFlags file) Q E s
      ↔ Q () (s.left env.kernel irqFlags) := by
  simp only [leaveKspecemRt, ends_bind, ends_get, ltAssert, if_pos irqs, ends_pure,
    restartNmi]
  rw [countNmi_disabled disabled]
  exact Iff.rfl

/-- Entering and leaving a section gives the counter back. -/
theorem counted_back (kernel : Kernel) (s : Rt)
    : ((s.counted kernel 1).counted kernel (-1)).mem = s.mem := by
  have back (count : Word) : count + 1 + -1 = count := by bv_omega
  simp only [Rt.counted, readWord_writeWord, writeWord_writeWord, back, writeWord_readWord]

end

/-- The runtime as its late initialisation leaves it. -/
structure Booted (kernel : Kernel) (switches : Switches) (s : Rt) : Prop where
  coherent : Coherent kernel s
  idle : s.inSpeculativeEmulation = false
  asserted : s.asserted = []
  specAssert : s.specAssert = none
  isInRt : s.isInRt = false
  isInRestart : s.isInRestart = false
  index : s.reports.nextBugIndex = 0
  size : s.reports.bugs.size = bugsListSize
  slots : ∀ i < bugsListSize, s.reports.bugs.cell i = Bug.zero
  printed : s.reports.printed = []
  printLevel : s.reports.printLevel = switches.printLevel
  mapSize : s.reports.previousBugsMap.size = (allocBlocks kernel).toNat
  blocks
    : ∀ i < 2 ^ 31,
        (s.reports.previousBugsMap.cell i).size = blockBytes
        ∧ ∀ j, (s.reports.previousBugsMap.cell i).cell j = 0
  maxCallDepth : s.maxCallDepth = switches.maxCallDepth
  maxSpeculativeInstructions : s.maxSpeculativeInstructions = 250

/-- The part of `Booted` that holds all through the late initialisation. -/
structure Booting (switches : Switches) (s : Rt) : Prop where
  idle : s.inSpeculativeEmulation = false
  disabled : s.log.enabled = false
  irqs : s.irqsEnabled = false
  asserted : s.asserted = []
  specAssert : s.specAssert = none
  isInRestart : s.isInRestart = false
  printed : s.reports.printed = []
  printLevel : s.reports.printLevel = switches.printLevel
  maxCallDepth : s.maxCallDepth = switches.maxCallDepth
  maxSpeculativeInstructions : s.maxSpeculativeInstructions = 250

/-- The report tables as `kspecem_report_init` leaves them. -/
structure ReportsReady (kernel : Kernel) (reports : Reports) : Prop where
  index : reports.nextBugIndex = 0
  size : reports.bugs.size = bugsListSize
  slots : ∀ i < bugsListSize, reports.bugs.cell i = Bug.zero
  mapSize : reports.previousBugsMap.size = (allocBlocks kernel).toNat
  blocks
    : ∀ i < 2 ^ 31,
        (reports.previousBugsMap.cell i).size = blockBytes
        ∧ ∀ j, (reports.previousBugsMap.cell i).cell j = 0

section
variable {env : Env} {onFail : SpecAssert → RtM Unit} {heap : Heap} {switches : Switches}
  {s : Rt}

/-- Outside speculation an assertion holds wherever it is passed. -/
theorem FailsLoudly.ltAssert (loud : FailsLoudly onFail)
    (idle : s.inSpeculativeEmulation = false) {holds : Prop} [Decidable holds]
    {file condition : String} {line : Nat}
    : Ends (Kasper.ltAssert onFail holds file line condition) (fun _ t => holds ∧ t = s)
        (fun _ _ => True) s :=
  ends_ltAssert (fun pass => ⟨pass, rfl⟩)
    (fun _ => (loud _ s idle).imp (fun _ _ no => no.elim) (fun _ _ _ => trivial))

/-- Allocating the statistics tables changes the statistics only. -/
theorem statsInlineasmInit_boot
    : Ends (statsInlineasmInit heap) (fun _ t => OnlyStats s t) (fun _ _ => True) s := by
  rw [statsInlineasmInit, ends_bind, ends_get, ends_ite]
  exact ⟨fun _ => rfl, fun _ => rfl⟩

theorem reportInit_boot {mapBase bugsBase : Address} {blockBase : Nat → Address}
    (loud : FailsLoudly onFail) (idle : s.inSpeculativeEmulation = false)
    : Ends (reportInit env.kernel onFail mapBase bugsBase blockBase)
        (fun _ t =>
          OnlyReports s t
          ∧ ReportsReady env.kernel t.reports
          ∧ t.reports.printed = s.reports.printed
          ∧ t.reports.printLevel = s.reports.printLevel)
        (fun _ _ => True) s := by
  rw [reportInit, ends_bind, ends_modify]
  refine Ends.bind (loud.ltAssert (by exact idle)) ?_
  rintro _ t ⟨_, rfl⟩
  rw [reportClearGlobals, ends_bind, ends_get, ends_ite]
  refine ⟨fun _ => trivial, fun _ => ?_⟩
  rw [ends_modify]
  refine ⟨rfl, ⟨rfl, rfl, fun i below => if_pos below, rfl, fun i below => ?_⟩, rfl, rfl⟩
  simp only [if_pos below]
  exact ⟨rfl, fun _ => rfl⟩

/-- The state after `kspecem_init_data`. -/
def Rt.dataInit (kernel : Kernel) (s : Rt) : Rt :=
  { s with
    inSpeculativeEmulation := false
    mem := writeBytes s.mem kernel.swapBranchCondition [0]
    speculativeInstrCount := 0
    specCallDepth := 0
    callDepth := 0 }

theorem stackInit_boot (loud : FailsLoudly onFail) (idle : s.inSpeculativeEmulation = false)
    : Ends (stackInit onFail heap)
        (fun _ t => t = { s with stack := t.stack } ∧ t.stack.baseAddress = 0 ∧ t.stack.len = 0)
        (fun _ _ => True) s := by
  rw [stackInit, ends_bind, ends_modify]
  refine Ends.bind (loud.ltAssert (by exact idle)) ?_
  rintro _ t ⟨_, rfl⟩
  exact ⟨rfl, rfl, rfl⟩

theorem writelogInit_boot (loud : FailsLoudly onFail)
    (idle : s.inSpeculativeEmulation = false)
    (fits : heap.writelogAddrs.toNat + writelogBytes < 2 ^ 64)
    : Ends (writelogInit onFail heap)
        (fun _ t =>
          t = { s with log := t.log }
          ∧ t.log.Allocated
          ∧ t.log.position = 0
          ∧ t.log.enabled = false)
        (fun _ _ => True) s := by
  rw [writelogInit, ends_bind, ends_modify]
  refine Ends.bind (loud.ltAssert (by exact idle)) ?_
  rintro _ t ⟨addrs, rfl⟩
  refine Ends.bind (loud.ltAssert (by exact idle)) ?_
  rintro _ t ⟨data, rfl⟩
  refine Ends.bind (loud.ltAssert (by exact idle)) ?_
  rintro _ t ⟨_, rfl⟩
  exact ⟨rfl, ⟨rfl, rfl, rfl, addrs, data, fits⟩, rfl, rfl⟩

/-- The late initialisation, when it returns, leaves the runtime booted: the allocator
handed out a log array that does not wrap.
-/
theorem commonLateInit_booted {mem : Memory} {cpu : PtRegs} {irqsEnabled : Bool}
    (fits : heap.writelogAddrs.toNat + writelogBytes < 2 ^ 64)
    : Ends (commonLateInit env env.onFail heap) (fun _ t => Booted env.kernel switches t)
        (fun _ _ => True) (Rt.static switches mem cpu irqsEnabled) := by
  have loud : FailsLoudly env.onFail := kspecemPanic_loud env env.kernel.panicDepth
  have early : (Rt.static switches mem cpu irqsEnabled).initDone = false := rfl
  rw [commonLateInit, ends_bind, ends_get, if_pos early, ends_bind, enterKspecemRt_disabled rfl]
  have booting : Booting switches ((Rt.static switches mem cpu irqsEnabled).entered env.kernel) :=
    ⟨rfl, rfl, rfl, rfl, rfl, rfl, rfl, rfl, rfl, rfl⟩
  generalize (Rt.static switches mem cpu irqsEnabled).entered env.kernel = s at booting ⊢
  rw [ends_bind, statisticsInit, ends_modify]
  -- each table in turn, with what of the static image it leaves alone
  refine Ends.bind statsInlineasmInit_boot (fun _ t counted => ?_)
  have booting : Booting switches t := by
    rw [counted]
    exact ⟨booting.idle, booting.disabled, booting.irqs, booting.asserted, booting.specAssert,
      booting.isInRestart, booting.printed, booting.printLevel, booting.maxCallDepth,
      booting.maxSpeculativeInstructions⟩
  clear counted
  rw [ends_bind, statsRestartsInit, ends_modify]
  refine Ends.bind (reportInit_boot loud (by exact booting.idle)) ?_
  rintro _ u ⟨frame, ready, printed, printLevel⟩
  have booting : Booting switches u := by
    refine ⟨?_, ?_, ?_, ?_, ?_, ?_, printed.trans booting.printed,
      printLevel.trans booting.printLevel, ?_, ?_⟩ <;> rw [frame]
    · exact booting.idle
    · exact booting.disabled
    · exact booting.irqs
    · exact booting.asserted
    · exact booting.specAssert
    · exact booting.isInRestart
    · exact booting.maxCallDepth
    · exact booting.maxSpeculativeInstructions
  clear frame
  rw [initData, ends_bind, ends_bind, ends_modify, ends_bind, setSwapBranchCondition,
    ends_modify, ends_modify]
  refine Ends.bind (stackInit_boot (s := u.dataInit env.kernel) loud rfl) ?_
  rintro _ v ⟨stacked, base, len⟩
  have idle : v.inSpeculativeEmulation = false := by
    rw [stacked]
    rfl
  refine Ends.bind (writelogInit_boot loud idle fits) ?_
  rintro _ w ⟨logged, allocated, position, disabled⟩
  have frame : w = { u.dataInit env.kernel with stack := v.stack, log := w.log } := by
    rw [logged, stacked]
  have irqs : w.irqsEnabled = false := by
    rw [frame]
    exact booting.irqs
  -- the log is still off, so the section's end leaves the store hook out
  rw [ends_bind, leaveKspecemRt_disabled disabled irqs, ends_modify]
  have flag : w.mem env.kernel.swapBranchCondition = 0 := by
    rw [frame]
    simp [Rt.dataInit, writeBytes]
  have reports : w.reports = u.reports := by
    rw [frame]
    rfl
  have stack : w.stack = v.stack := by
    rw [frame]
  refine {
    coherent := {
      initDone := rfl
      coupled := disabled.trans (congrArg Rt.inSpeculativeEmulation frame).symm
      idleLog := fun _ => position
      idleDepth := fun _ => congrArg Rt.specCallDepth frame
      idleFlag := fun _ => (writeWord_outside env.kernel.nmiCount_clear).trans flag
      frameClear := ?_
      allocated := allocated
      room := ?_
      aligned := ?_
    }
    idle := congrArg Rt.inSpeculativeEmulation frame
    asserted := (congrArg Rt.asserted frame).trans booting.asserted
    specAssert := (congrArg Rt.specAssert frame).trans booting.specAssert
    isInRt := rfl
    isInRestart := (congrArg Rt.isInRestart frame).trans booting.isInRestart
    index := (congrArg Reports.nextBugIndex reports).trans ready.index
    size := (congrArg (fun reports => reports.bugs.size) reports).trans ready.size
    slots := ?_
    printed := (congrArg Reports.printed reports).trans booting.printed
    printLevel := (congrArg Reports.printLevel reports).trans booting.printLevel
    mapSize := (congrArg (fun reports => reports.previousBugsMap.size) reports).trans ready.mapSize
    blocks := ?_
    maxCallDepth := (congrArg Rt.maxCallDepth frame).trans booting.maxCallDepth
    maxSpeculativeInstructions :=
      (congrArg Rt.maxSpeculativeInstructions frame).trans booting.maxSpeculativeInstructions
  }
  · have empty : w.stack.len = 0 := (congrArg StackLog.len stack).trans len
    simp [Rt.left, Rt.counted, StackLog.Holds, Within, empty]
  · exact Nat.le_trans (Nat.le_of_eq position) (Nat.zero_le _)
  · intro i below
    have below : i < w.log.position := below
    rw [position] at below
    exact absurd below (Nat.not_lt_zero i)
  · intro i below
    exact (congrArg (fun reports => reports.bugs.cell i) reports).trans (ready.slots i below)
  · intro i below
    have same : w.reports.previousBugsMap.cell i = u.reports.previousBugsMap.cell i := by
      rw [reports]
    have block := ready.blocks i below
    rw [← same] at block
    exact block

end

end Kasper
