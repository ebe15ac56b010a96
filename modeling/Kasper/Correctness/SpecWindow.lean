import Kasper.Correctness.StateMachine
import Kasper.Passes.KSpecEmCheckSpecLength

/-! The length of an episode in instructions.
The count is the sum of the blocks whose hook has run since the checkpoint, and the hook that
reaches the limit is the last one of its episode.
-/

namespace Kasper

open ByteMemory Exits

/-- The limit, and in speculation the count. -/
structure Metered (count limit : BitVec 32) (s : Rt) : Prop where
  bounded : s.maxSpeculativeInstructions = limit
  counting : s.inSpeculativeEmulation = true → s.speculativeInstrCount = count
  idle : s.inSpeculativeEmulation = false → count = 0

theorem Metered.congr {count limit : BitVec 32} {s t : Rt} (h : Metered count limit s)
    (max : t.maxSpeculativeInstructions = s.maxSpeculativeInstructions)
    (instrCount : t.speculativeInstrCount = s.speculativeInstrCount)
    (inSpec : t.inSpeculativeEmulation = s.inSpeculativeEmulation)
    : Metered count limit t where
  bounded := max.trans h.bounded
  counting := fun spec => instrCount.trans (h.counting (inSpec ▸ spec))
  idle := fun outside => h.idle (inSpec ▸ outside)

/-- The rider of the count in a step that runs no block hook. -/
def Rider.window (kernel : Kernel) (count limit : BitVec 32) : Rider kernel where
  holds := Metered count limit
  rolls := fun s => s.specAssert = none → s.maxSpeculativeInstructions = limit
  landed := fun t => t.maxSpeculativeInstructions = limit
  resumed := fun t => t.maxSpeculativeInstructions = limit
  replay := fun _ _ _ => True
  admits := fun _ _ => True
  spares := fun _ => True
  admitsBlock := fun _ => False
  admitsDepth := True
  admitsFrame := fun _ _ => True
  admitsRegisters := fun _ => True
  admitsBug := fun _ => True
  admitsMemory := fun _ _ => True
  readsFrames := False
  ended := fun _ => True
  section_ := fun _ _ _ h => h.congr rfl rfl rfl
  counters := fun _ _ h => h.congr rfl rfl rfl
  metered := fun _ _ _ _ no => no.elim
  failed := fun _ _ h _ _ => h.congr rfl rfl rfl
  appended := fun _ _ _ _ h _ _ _ => h.congr rfl rfl rfl
  scratched := fun _ _ h _ _ => h.bounded
  counted := fun _ _ _ h _ => h.congr rfl rfl rfl
  redepth := fun _ _ h _ _ => h.congr rfl rfl rfl
  checkpointed := fun _ _ _ h idle =>
    ⟨h.bounded, fun _ => (h.idle idle).symm, fun outside => by contradiction⟩
  framed := fun _ _ _ _ h _ => h.congr rfl rfl rfl
  registered := fun _ _ _ h _ => h.congr rfl rfl rfl
  cpu := fun _ _ h => h.congr rfl rfl rfl
  written := fun _ _ h _ => h.congr rfl rfl rfl
  clobbered := fun _ _ _ h _ _ _ => h.congr rfl rfl rfl
  reported := fun _ _ h _ _ _ _ => h.congr rfl rfl rfl
  printed := fun _ _ _ h _ _ _ _ => h.congr rfl rfl rfl
  admits_busy := fun _ _ _ _ _ => True.intro
  admits_flush := fun _ _ _ _ => True.intro
  nested := fun _ _ _ h _ _ _ => h.congr rfl rfl rfl
  rolls_of_holds := fun _ h _ _ => h.bounded
  doomed := fun _ _ _ _ failed _ _ passed => absurd passed failed
  rolls_written := fun _ _ _ rolls => fun _ => rolls
  starts := fun _ _ => True.intro
  rules := fun s skip _ _ => .vacuous _ skip s
  stopped := by
    intro s stats k u rolls _ replaying passed
    rw [replaying.frame]
    exact rolls (replaying.kept passed).1
  rolledBack := by
    intro s stats restartType u t _ rolls _ _ replayed passed landed
    rw [landed.frame]
    have limit : u.maxSpeculativeInstructions = s.maxSpeculativeInstructions := by
      rw [replayed.frame]
      rfl
    exact limit.trans (rolls (replayed.kept passed).1)
  jumped := fun _ landed => landed
  returned := fun _ _ landed _ => landed
  ended_holds := fun _ _ => True.intro
  ended_rolls := fun _ _ => True.intro
  ended_landed := fun _ _ => True.intro
  ended_rolled := fun _ _ _ _ _ _ => True.intro
  ended_printed := fun _ _ _ _ _ _ _ _ => True.intro

theorem Rider.window_lenient (kernel : Kernel) (count limit : BitVec 32)
    : (Rider.window kernel count limit).Lenient where
  spares := fun _ => True.intro
  frame := fun _ _ => True.intro
  memory := fun _ _ => True.intro
  frames := id

/-- The rider admits every event that is no block hook. -/
theorem Rider.window_admitted {kernel : Kernel} {count limit : BitVec 32} {s : Rt}
    {event : Event} (placed : event.action.Placed kernel)
    (other : ∀ bbInstCount, event.action ≠ .checkSpecLength bbInstCount)
    : event.Admitted kernel (Rider.window kernel count limit) s :=
  (Rider.window_lenient kernel count limit).admitted {
    placed
    block := fun bbInstCount action => absurd action (other bbInstCount)
    depth := fun _ => True.intro
    restarts := fun _ _ => True.intro
    registers := fun _ _ => True.intro
    bug := fun _ _ _ => True.intro }

/-- The guards of the block hook let it count. -/
structure Rt.CountsBlocks (s : Rt) : Prop where
  outside : s.isInRt = false
  kdfinit : ¬(s.kdfinitIsInitDone ∧ s.kdfinitIsInRt)
  kdfsan : ¬(s.kdfIsInitDone ∧ s.kdfIsInRt)

/-- The state after a block hook counted its block. -/
def Rt.blockCounted (s : Rt) (bbInstCount : BitVec 32) : Rt :=
  { s with speculativeInstrCount := s.speculativeInstrCount + bbInstCount }

section
variable {env : Env} {count limit bbInstCount : BitVec 32} {s : Rt}

/-- Counting a block keeps the invariant, with the new count. -/
theorem Inv.blockCounted (inv : Inv env.kernel (Rider.window env.kernel count limit) s)
    (inSpec : s.inSpeculativeEmulation = true) (bbInstCount : BitVec 32)
    : Inv env.kernel (Rider.window env.kernel (count + bbInstCount) limit)
        (s.blockCounted bbInstCount) where
  coherent := inv.coherent.congr rfl rfl rfl rfl rfl (fun _ clear => clear)
  consistent := inv.consistent.congr rfl
  holds := {
    bounded := inv.holds.bounded
    counting := fun _ => congrArg (· + bbInstCount) (inv.holds.counting inSpec)
    idle := fun idle => absurd (inSpec.symm.trans idle) (by decide)
  }

theorem hookCheckSpecLength_idle {E : Exit → Rt → Prop}
    (idle : s.inSpeculativeEmulation = false)
    : Ends (hookCheckSpecLength env env.onFail bbInstCount) (fun _ t => t = s) E s := by
  rw [hookCheckSpecLength, ends_bind, ends_get, if_neg (by simp [idle])]
  rfl

/-- In speculation the block hook returns below the limit, and restarts otherwise. -/
theorem hookCheckSpecLength_counts
    (inv : Inv env.kernel (Rider.window env.kernel count limit) s)
    (inSpec : s.inSpeculativeEmulation = true) (counts : s.CountsBlocks)
    : Ends (hookCheckSpecLength env env.onFail bbInstCount)
        (fun _ t => count + bbInstCount < limit ∧ t = s.blockCounted bbInstCount)
        (fun e t =>
          ¬count + bbInstCount < limit
          ∧ InvExit env.kernel (Rider.window env.kernel (count + bbInstCount) limit) e t)
        s := by
  obtain ⟨outside, kdfinit, kdfsan⟩ := counts
  simp only [hookCheckSpecLength, ends_bind, ends_get, ends_ite, ends_pure, ends_modify]
  refine ⟨fun _ => ⟨?_, fun _ => ⟨?_, fun _ => ⟨?_, fun _ => ⟨fun reached => ?_, ?_⟩⟩⟩⟩, ?_⟩
  · rintro (early | inRt)
    · exact absurd (inv.coherent.initDone.symm.trans early) (by decide)
    · exact absurd (outside.symm.trans inRt) (by decide)
  · exact fun inRt => absurd inRt kdfinit
  · exact fun inRt => absurd inRt kdfsan
  · rw [inv.holds.counting inSpec, inv.holds.bounded] at reached
    have past : ¬count + bbInstCount < limit := BitVec.not_lt.mpr reached
    exact (restartSection_ends (Q := fun _ _ _ => False) env.handler True.intro
      (inv.blockCounted inSpec bbInstCount) inSpec
      (by decide) (by decide)).imp
        (fun _ _ rolled => rolled.imp (fun _ _ no => no.elim) (fun _ _ exit => ⟨past, exit⟩))
        (fun _ _ exit => ⟨past, exit⟩)
  · intro below
    rw [inv.holds.counting inSpec, inv.holds.bounded] at below
    exact ⟨BitVec.not_le.mp below, rfl⟩
  · exact fun idle => absurd inSpec idle

end

-----------------------------------------------------------------------------------------
-- Runs
-----------------------------------------------------------------------------------------

variable {Instruction : Type}

/-- The instructions of a list of blocks. -/
def windowSize (blocks : List (BasicBlock Instruction)) : Nat :=
  (blocks.map BasicBlock.size).sum

theorem windowSize_append (blocks : List (BasicBlock Instruction)) (bb : BasicBlock Instruction)
    : windowSize (blocks ++ [bb]) = windowSize blocks + bb.size := by
  simp [windowSize]

/-- Each block has an instruction at least, by induction on the blocks. -/
theorem length_le_windowSize (blocks : List (BasicBlock Instruction))
    : blocks.length ≤ windowSize blocks := by
  induction blocks with
  | nil => exact Nat.le_refl 0
  | cons bb rest ih =>
      have positive := bb.size_pos
      simp only [windowSize, List.map_cons, List.sum_cons, List.length_cons] at ih ⊢
      omega

/-- A run together with the blocks whose hook has run since the checkpoint. Block hooks run
in blocks of instrumented functions, where their guards let them count.
-/
inductive WindowRun (kernel : Kernel) (program : IrModule Instruction) (start : Machine)
    : Machine → List (BasicBlock Instruction) → Prop
  | refl : WindowRun kernel program start start []
  | other {m next : Machine} {blocks : List (BasicBlock Instruction)} {event : Event}
      (run : WindowRun kernel program start m blocks) (placed : event.action.Placed kernel)
      (other : ∀ bbInstCount, event.action ≠ .checkSpecLength bbInstCount)
      (steps : m.step kernel event = some next)
      : WindowRun kernel program start next
          (if m.rt.inSpeculativeEmulation then blocks else [])
  | block {m next : Machine} {blocks : List (BasicBlock Instruction)} {event : Event}
      {bb : BasicBlock Instruction} {bbInstCount : BitVec 32}
      (run : WindowRun kernel program start m blocks) (runs : program.Runs bb bbInstCount)
      (short : bb.size < 2 ^ 31) (action : event.action = .checkSpecLength bbInstCount)
      (counts : m.rt.CountsBlocks) (steps : m.step kernel event = some next)
      : WindowRun kernel program start next
          (if m.rt.inSpeculativeEmulation then blocks ++ [bb] else [])

/-- What a run has at every machine: the rider's count, and where an episode goes on the
count is the size of its blocks.
-/
structure WindowInv (kernel : Kernel) (limit : BitVec 32) (m : Machine)
    (blocks : List (BasicBlock Instruction)) (count : BitVec 32)
    : Prop where
  inv : MachineInv kernel (Rider.window kernel count limit) m
  size
    : m.phase = .running
      → m.rt.inSpeculativeEmulation = true
      → count.toNat = windowSize blocks ∧ windowSize blocks < limit.toNat

section
variable {kernel : Kernel} {limit count bbInstCount : BitVec 32} {m next : Machine}
  {event : Event} {blocks : List (BasicBlock Instruction)} {bb : BasicBlock Instruction}

/-- After a step outside speculation the count is zero again. -/
theorem MachineStep.windowInv
    (stepped : MachineStep kernel (Rider.window kernel count limit) next)
    (size
      : next.phase = .running
        → next.rt.inSpeculativeEmulation = true
        → count.toNat = windowSize blocks ∧ windowSize blocks < limit.toNat)
    : ∃ count, WindowInv kernel limit next blocks count := by
  cases spec : next.rt.inSpeculativeEmulation with
  | true =>
      refine ⟨count, stepped.inv (fun _ idle _ => ?_), size⟩
      exact absurd (spec.symm.trans idle) (by decide)
  | false =>
      have empty (bounded : next.rt.maxSpeculativeInstructions = limit)
          : Metered 0 limit next.rt :=
        ⟨bounded, fun inSpec => absurd (spec.symm.trans inSpec) (by decide), fun _ => rfl⟩
      refine ⟨0, ⟨stepped.consistent, fun phase => ?_, fun phase => ?_⟩, fun _ inSpec => ?_⟩
      · rcases stepped.running phase with inv | ⟨coherent, _, bounded⟩
        · exact ⟨inv.coherent, inv.consistent, empty inv.holds.bounded⟩
        · exact ⟨coherent, stepped.consistent, empty bounded⟩
      · have standing := stepped.faulted phase
        exact ⟨standing.coherent, standing.consistent, standing.rolls,
          fun idle => empty (standing.holds idle).bounded⟩
      · exact absurd (spec.symm.trans inSpec) (by decide)

/-- Outside speculation the rider's count is zero. -/
theorem WindowInv.idle (h : WindowInv kernel limit m blocks count) (alive : m.phase ≠ .stopped)
    (idle : m.rt.inSpeculativeEmulation = false)
    : count = 0 := by
  cases phase : m.phase with
  | running => exact (h.inv.running phase).holds.idle idle
  | faulted => exact ((h.inv.faulted phase).holds idle).idle idle
  | stopped => exact absurd phase alive

/-- A block hook in an episode: below the limit it returns and counts, and otherwise the
episode does not go on.
-/
theorem WindowInv.block (h : WindowInv kernel limit m blocks count) (bounded : limit.toNat ≤ 2 ^ 31)
    (running : m.phase = .running) (inSpec : m.rt.inSpeculativeEmulation = true)
    (size : bbInstCount.toNat = bb.size) (short : bb.size < 2 ^ 31)
    (action : event.action = .checkSpecLength bbInstCount) (counts : m.rt.CountsBlocks)
    (steps : m.step kernel event = some next)
    : (count + bbInstCount).toNat = windowSize (blocks ++ [bb])
      ∧ MachineStep kernel (Rider.window kernel (count + bbInstCount) limit) next
      ∧ (windowSize (blocks ++ [bb]) < limit.toNat
        → next = ⟨m.rt.blockCounted bbInstCount, .running⟩)
      ∧ (¬windowSize (blocks ++ [bb]) < limit.toNat
        → next.phase = .running
        → next.rt.inSpeculativeEmulation = false) := by
  obtain ⟨sum, below⟩ := h.size running inSpec
  have total : (count + bbInstCount).toNat = windowSize (blocks ++ [bb]) := by
    -- a block is short and the count below the limit, so the sum does not wrap
    rw [windowSize_append, BitVec.toNat_add, sum, size]
    exact Nat.mod_eq_of_lt (by omega)
  have inv := h.inv.running running
  have hook := @hookCheckSpecLength_counts (event.env kernel) count limit bbInstCount m.rt inv
    inSpec counts
  have hook
      : Ends (event.run kernel)
          (fun _ t => count + bbInstCount < limit ∧ t = m.rt.blockCounted bbInstCount)
          (fun e t =>
            ¬count + bbInstCount < limit
            ∧ InvExit kernel (Rider.window kernel (count + bbInstCount) limit) e t)
          m.rt := by
    rw [Event.run, action]
    exact hook
  obtain ⟨_, rfl⟩ := Machine.step_eq steps
  rw [BitVec.lt_def, total] at hook
  refine ⟨total, MachineStep.of_ends (hook.imp ?_ (fun _ _ exit => exit.2)), ?_, ?_⟩
  · rintro _ t ⟨_, rfl⟩
    exact @Inv.blockCounted (event.env kernel) count limit m.rt inv inSpec bbInstCount
  · intro fits
    unfold Ends at hook
    cases result : event.run kernel m.rt with
    | ok _ t =>
        rw [result] at hook
        rw [hook.2]
        rfl
    | error e t =>
        rw [result] at hook
        exact absurd fits hook.1
  · intro past phase
    rcases Machine.after_running phase with ⟨t, result⟩ | ⟨t, result⟩
    · exact absurd (hook.of_ok result).1 past
    · rw [result]
      exact ((hook.of_error result).2.2.1 rfl).2.1

/-- A step without a block hook keeps the count of its episode. -/
theorem WindowInv.other (h : WindowInv kernel limit m blocks count) (positive : 0 < limit.toNat)
    (placed : event.action.Placed kernel)
    (other : ∀ bbInstCount, event.action ≠ .checkSpecLength bbInstCount)
    (steps : m.step kernel event = some next)
    : ∃ count,
        WindowInv kernel limit next (if m.rt.inSpeculativeEmulation then blocks else [])
          count := by
  have admitted : event.Admitted kernel (Rider.window kernel count limit) m.rt :=
    Rider.window_admitted placed other
  refine (h.inv.step admitted steps).windowInv (fun running inSpec => ?_)
  cases spec : m.rt.inSpeculativeEmulation with
  | true =>
      rw [if_pos rfl]
      cases phase : m.phase with
      | running => exact h.size phase spec
      | faulted =>
          have left := h.inv.faulted_leaves admitted phase spec steps running
          exact absurd (inSpec.symm.trans left) (by decide)
      | stopped => exact absurd phase (Machine.alive_of_step steps)
  | false =>
      rw [if_neg (by decide), h.idle (Machine.alive_of_step steps) spec]
      exact ⟨rfl, positive⟩

/-- A block hook keeps the count of its episode. -/
theorem WindowInv.step_block (h : WindowInv kernel limit m blocks count)
    (bounded : limit.toNat ≤ 2 ^ 31) (size : bbInstCount.toNat = bb.size)
    (short : bb.size < 2 ^ 31) (action : event.action = .checkSpecLength bbInstCount)
    (counts : m.rt.CountsBlocks) (steps : m.step kernel event = some next)
    : ∃ count,
        WindowInv kernel limit next
          (if m.rt.inSpeculativeEmulation then blocks ++ [bb] else []) count := by
  have running : m.phase = .running := by
    have enabled := (Machine.step_eq steps).1
    cases phase : m.phase with
    | running => rfl
    | faulted => simp [Machine.Enabled, phase, action] at enabled
    | stopped => simp [Machine.Enabled, phase] at enabled
  cases spec : m.rt.inSpeculativeEmulation with
  | true =>
      rw [if_pos rfl]
      obtain ⟨total, stepped, _, past⟩ :=
        h.block bounded running spec size short action counts steps
      refine stepped.windowInv (fun phase inSpec => ⟨total, ?_⟩)
      by_contra reached
      exact absurd (inSpec.symm.trans (past reached phase)) (by decide)
  | false =>
      have hook : Ends (event.run kernel) (fun _ t => t = m.rt) (fun _ _ => False) m.rt := by
        rw [Event.run, action]
        exact hookCheckSpecLength_idle spec
      have inv := h.inv.running running
      obtain ⟨_, rfl⟩ := Machine.step_eq steps
      have stepped
          : MachineStep kernel (Rider.window kernel count limit)
              (.after (event.run kernel m.rt)) := by
        refine MachineStep.of_ends (hook.imp ?_ (fun _ _ no => no.elim))
        rintro _ t rfl
        exact inv
      refine stepped.windowInv (fun phase inSpec => ?_)
      rcases Machine.after_running phase with ⟨t, result⟩ | ⟨t, result⟩
      · have same : t = m.rt := hook.of_ok result
        rw [result] at inSpec
        exact absurd ((same ▸ spec).symm.trans inSpec) (by decide)
      · exact (hook.of_error result).elim

end

/-- Over every run, the count of an episode is the size of the blocks whose hook has run
since its checkpoint and stays below the limit, so fewer hooks than the limit have run; the
next block hook counts its block if the sum stays below the limit, and otherwise the episode
does not go on, nor does it after a fault on the way back.
-/
theorem specWindow_bounded {env : Env} {heap : Heap} {switches : Switches} {mem : Memory}
    {cpu : PtRegs} {irqsEnabled : Bool} {s : Rt} {m : Machine}
    {program : IrModule Instruction} {blocks : List (BasicBlock Instruction)}
    (fits : heap.writelogAddrs.toNat + writelogBytes < 2 ^ 64)
    (booted
      : commonLateInit env env.onFail heap (Rt.static switches mem cpu irqsEnabled)
        = .ok () s)
    (run : WindowRun env.kernel program ⟨s, .running⟩ m blocks)
    (inSpec : m.rt.inSpeculativeEmulation = true)
    : (m.phase = .running
        → m.rt.speculativeInstrCount.toNat = windowSize blocks
          ∧ windowSize blocks < m.rt.maxSpeculativeInstructions.toNat
          ∧ blocks.length < m.rt.maxSpeculativeInstructions.toNat
          ∧ ∀ event next bb bbInstCount,
              program.Runs bb bbInstCount
              → bb.size < 2 ^ 31
              → event.action = .checkSpecLength bbInstCount
              → m.rt.CountsBlocks
              → m.step env.kernel event = some next
              → (windowSize (blocks ++ [bb]) < m.rt.maxSpeculativeInstructions.toNat
                  → next = ⟨m.rt.blockCounted bbInstCount, .running⟩)
                ∧ (¬windowSize (blocks ++ [bb]) < m.rt.maxSpeculativeInstructions.toNat
                  → next.phase = .running
                  → next.rt.inSpeculativeEmulation = false))
      ∧ (m.phase = .faulted
        → ∀ event next,
            event.action.Placed env.kernel
            → m.step env.kernel event = some next
            → next.phase = .running
            → next.rt.inSpeculativeEmulation = false) := by
  have booted : Booted env.kernel switches s := (commonLateInit_booted fits).of_ok booted
  have invariant : ∃ count, WindowInv env.kernel 250 m blocks count := by
    clear inSpec
    induction run with
    | refl =>
        refine ⟨0, booted.machineInv ⟨booted.maxSpeculativeInstructions, ?_, fun _ => rfl⟩, ?_⟩
        · exact fun spec => absurd (booted.idle.symm.trans spec) (by decide)
        · exact fun _ spec => absurd (booted.idle.symm.trans spec) (by decide)
    | other _ placed other steps ih =>
        obtain ⟨count, inv⟩ := ih
        exact inv.other (by decide) placed other steps
    | block _ runs short action counts steps ih =>
        obtain ⟨count, inv⟩ := ih
        exact inv.step_block (by decide) (runs.toNat short) short action counts steps
  -- every counted block has at least one instruction
  obtain ⟨count, inv⟩ := invariant
  refine ⟨fun phase => ?_, fun phase event next placed steps running => ?_⟩
  · obtain ⟨sum, below⟩ := inv.size phase inSpec
    have holds := (inv.inv.running phase).holds
    have short := length_le_windowSize blocks
    rw [holds.counting inSpec, holds.bounded]
    refine ⟨sum, below, Nat.lt_of_le_of_lt short below, ?_⟩
    intro event next bb bbInstCount runs short action counts steps
    exact (inv.block (by decide) phase inSpec (runs.toNat short) short action counts steps).2.2
  · refine inv.inv.faulted_leaves (Rider.window_admitted placed fun bbInstCount action => ?_) phase
      inSpec steps running
    have enabled := (Machine.step_eq steps).1
    simp [Machine.Enabled, phase, action] at enabled

/-- Two instructions and a terminator, in a module the pass instruments. -/
def sampleBlock : BasicBlock String where
  body := ["load", "add"]
  terminator := "br"

def sampleProgram : IrModule String where
  name := "open.o"
  functions := [{ name := "do_open", blocks := [sampleBlock] }]

/-- The sample episode after the hook of the block. -/
def sampleCounted : Machine :=
  machineAfter [sampleBranch, sampleEvent (.checkSpecLength 3)] sampleMachine

theorem sampleBlock_runs : sampleProgram.Runs sampleBlock 3 := by
  refine ⟨⟨by decide, _, List.mem_singleton_self _, by decide, List.mem_singleton_self _⟩, ?_⟩
  rw [visitBlock_hooks]
  exact List.mem_singleton_self _

theorem specWindow_bounded_sample
    : (sampleCounted.phase = .running
        → sampleCounted.rt.speculativeInstrCount.toNat = windowSize [sampleBlock]
          ∧ windowSize [sampleBlock] < sampleCounted.rt.maxSpeculativeInstructions.toNat
          ∧ [sampleBlock].length < sampleCounted.rt.maxSpeculativeInstructions.toNat
          ∧ ∀ event next bb bbInstCount,
              sampleProgram.Runs bb bbInstCount
              → bb.size < 2 ^ 31
              → event.action = .checkSpecLength bbInstCount
              → sampleCounted.rt.CountsBlocks
              → sampleCounted.step sampleKernel event = some next
              → (windowSize ([sampleBlock] ++ [bb])
                    < sampleCounted.rt.maxSpeculativeInstructions.toNat
                  → next = ⟨sampleCounted.rt.blockCounted bbInstCount, .running⟩)
                ∧ (¬windowSize ([sampleBlock] ++ [bb])
                      < sampleCounted.rt.maxSpeculativeInstructions.toNat
                  → next.phase = .running
                  → next.rt.inSpeculativeEmulation = false))
      ∧ (sampleCounted.phase = .faulted
        → ∀ event next,
            event.action.Placed sampleKernel
            → sampleCounted.step sampleKernel event = some next
            → next.phase = .running
            → next.rt.inSpeculativeEmulation = false) := by
  have opens : sampleMachine.step sampleKernel sampleBranch = some sampleOpen :=
    if_pos (by decide)
  have counts
      : sampleOpen.step sampleKernel (sampleEvent (.checkSpecLength 3)) = some sampleCounted :=
    if_pos (by decide)
  have opened : WindowRun sampleKernel sampleProgram sampleMachine sampleOpen [] := by
    refine WindowRun.other .refl ?_ (fun _ no => by contradiction) opens
    exact (by decide : ¬Within 0x70100 0x100 sampleKernel.swapBranchCondition)
  refine @specWindow_bounded String sampleEnv sampleHeap sampleSwitches (fun _ => 0)
    (fun _ => 0) true _ _ sampleProgram [sampleBlock] (by decide) sampleRt_booted ?_ rfl
  exact opened.block sampleBlock_runs (by decide) rfl ⟨rfl, by decide, by decide⟩ counts

end Kasper
