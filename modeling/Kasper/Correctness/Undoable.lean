import Kasper.Correctness.Environment
import Kasper.Runtime.Program

/-! What an episode gives back of a program: the bytes of a region and the registers of the
checkpoint. Outside speculation the runtime leaves such a region alone.
-/

namespace Kasper

open ByteMemory Exits

variable {kernel : Kernel} {region : Region kernel}

theorem Region.Agree.trans {mem other third : Memory} (h : region.Agree mem other)
    (h' : region.Agree other third)
    : region.Agree mem third :=
  fun b holds => (h b holds).trans (h' b holds)

theorem Region.off_flag {b : Address} (holds : region.holds b)
    : b ≠ kernel.swapBranchCondition := by
  rintro rfl
  exact region.offFlag _ holds (by simp [Within])

/-- The swap flag is no byte of a region. -/
theorem Region.agree_flag (region : Region kernel) (mem : Memory) (value : Byte)
    : region.Agree (writeBytes mem kernel.swapBranchCondition [value]) mem :=
  fun _ holds => flag_byte (Region.off_flag holds) mem value

/-- Nor is the NMI counter. -/
theorem Region.agree_counted (region : Region kernel) (s : Rt) (delta : Word)
    : region.Agree (s.counted kernel delta).mem s.mem := by
  intro b holds
  refine writeWord_outside (fun within => ?_)
  exact (kernel.within_counter b).mp within (region.offCounter b holds)

-----------------------------------------------------------------------------------------
-- The log
-----------------------------------------------------------------------------------------

section
variable {free : Address → Prop} {start : Memory} {s : Rt}

/-- Filling an entry with the present contents of its word keeps the log sound. -/
theorem LogSound.appended {w : Address}
    (h : LogSound kernel free start s.log s.mem s.log.position) (aligned : wordOf w = w)
    (room : s.log.position < logCapacity) (returnAddress : Address)
    : LogSound kernel free start (s.appended w returnAddress).log s.mem (s.log.position + 1) := by
  have allocated : (s.appended w returnAddress).log.Allocated :=
    h.allocated.congr ⟨rfl, rfl⟩ ⟨rfl, rfl⟩ rfl
  refine h.push room aligned allocated (fun i below => ?_) ?_ ?_
  · have different := Nat.ne_of_lt below
    exact ⟨Table.put_cell_other _ _ different, Table.put_cell_other _ _ different⟩
  · exact Table.put_cell_same _ _ _
  · exact Table.put_cell_same _ _ _

/-- An entry that was not counted says nothing. -/
theorem LogSound.scratched (h : LogSound kernel free start s.log s.mem s.log.position)
    (w : Address)
    : LogSound kernel free start (s.scratched w).log s.mem s.log.position := by
  have allocated : (s.scratched w).log.Allocated :=
    h.allocated.congr ⟨rfl, rfl⟩ ⟨rfl, rfl⟩ rfl
  refine h.congr allocated (fun i below => ?_) (fun _ _ => rfl)
  exact Table.put_cell_other _ _ (Nat.ne_of_lt below)

end

-----------------------------------------------------------------------------------------
-- Episodes
-----------------------------------------------------------------------------------------

/-- What a rollback must not lose: the saved frame and registers of the checkpoint. -/
structure Kept where
  stack : StackLog
  registers : PtRegs

/-- The bytes that the log need not give back. -/
def Kept.Free (kept : Kept) (region : Region kernel) (b : Address) : Prop :=
  kept.stack.Holds b ∨ ¬region.holds b

/-- An episode whose log and saved frame still hold what changed of a region since `start`. -/
structure Rt.Undoable (region : Region kernel) (start : Memory) (kept : Kept) (s : Rt)
    : Prop where
  inSpec : s.inSpeculativeEmulation = true
  sound : LogSound kernel (kept.Free region) start s.log s.mem s.log.position
  stack : s.stack = kept.stack
  registers : s.registers = kept.registers
  saved
    : ∀ b,
        kept.stack.Holds b
        → region.holds b
        → kept.stack.stack.cell (b - (kept.stack.baseAddress - kept.stack.len)).toNat = start b

/-- A change of memory that leaves the region alone, the saved frame and logged words apart. -/
def Rt.Covers (region : Region kernel) (kept : Kept) (s : Rt) (mem : Memory) : Prop :=
  ∀ b,
    ¬kept.Free region b
    → mem b = s.mem b ∨ s.log.Has (wordOf b) ∧ kernel.writable b = true

/-- The region and the registers are those of the checkpoint, and no restart is under way. -/
structure Rt.BackAt (region : Region kernel) (start : Memory) (kept : Kept) (s : Rt)
    : Prop where
  agree : region.Agree s.mem start
  registers : s.registers = kept.registers
  rested : s.Rested

namespace Rt.Undoable

variable {start : Memory} {kept : Kept} {s t : Rt}

/-- Only the log, memory, the saved frame and the saved registers matter. -/
theorem congr (h : s.Undoable region start kept)
    (inSpec : t.inSpeculativeEmulation = s.inSpeculativeEmulation) (log : t.log = s.log)
    (mem : t.mem = s.mem) (stack : t.stack = s.stack) (registers : t.registers = s.registers)
    : t.Undoable region start kept where
  inSpec := inSpec.trans h.inSpec
  sound := by
    rw [log, mem]
    exact h.sound
  stack := stack.trans h.stack
  registers := registers.trans h.registers
  saved := h.saved

theorem not_idle (h : s.Undoable region start kept) (idle : s.inSpeculativeEmulation = false)
    : False :=
  absurd (h.inSpec.symm.trans idle) (by decide)

theorem written {mem : Memory} (h : s.Undoable region start kept)
    (covers : s.Covers region kept mem)
    : Rt.Undoable region start kept { s with mem } :=
  { h with
    sound := by
      refine h.sound.write (fun b bound => ?_) (fun b bound readOnly => ?_)
      · exact (covers b bound).imp_right (fun has => has.1.logged)
      · refine (covers b bound).resolve_right (fun has => ?_)
        rw [has.2] at readOnly
        contradiction }

theorem appended {w : Address} (h : s.Undoable region start kept) (aligned : wordOf w = w)
    (room : s.log.position < logCapacity) (returnAddress : Address)
    : (s.appended w returnAddress).Undoable region start kept :=
  { h with sound := h.sound.appended aligned room returnAddress }

theorem scratched (h : s.Undoable region start kept) (w : Address)
    : (s.scratched w).Undoable region start kept :=
  { h with sound := h.sound.scratched w }

theorem counted (h : s.Undoable region start kept) (delta : Word)
    : (s.counted kernel delta).Undoable region start kept := by
  refine h.written (fun b bound => Or.inl (region.agree_counted s delta b ?_))
  exact not_not.mp (fun outside => bound (Or.inr outside))

/-- A replay that was cut off leaves the older entries to the next one. -/
theorem stopped {stats : Statistics} {k : Nat} {u : Rt} {P : Nat → Memory → Prop}
    (h : s.Undoable region start kept) (replaying : Replaying P (s.restarting stats) k u)
    (left : LogSound kernel (kept.Free region) start s.log u.mem k)
    : u.Undoable region start kept where
  inSpec := replaying.inSpec.trans h.inSpec
  sound := by
    rw [replaying.frame]
    refine left.congr ?_ (fun _ _ => rfl) (fun _ _ => rfl)
    exact left.allocated.congr ⟨rfl, rfl⟩ ⟨rfl, rfl⟩ rfl
  stack := by
    rw [replaying.frame]
    exact h.stack
  registers := by
    rw [replaying.frame]
    exact h.registers
  saved := h.saved

/-- A finished rollback has put everything back. -/
theorem rolledBack {stats : Statistics} {restartType : RestartType} {u : Rt}
    {P : Nat → Memory → Prop} (h : s.Undoable region start kept)
    (replayed : Replaying P (s.restarting stats) 0 u) (passed : u.specAssert = none)
    (done : LogSound kernel (kept.Free region) start s.log u.mem 0)
    (landed : Landed restartType (u.discarded kernel) t)
    : t.BackAt region start kept := by
  have stack : u.stack = kept.stack := by
    rw [replayed.frame]
    exact h.stack
  have registers : u.registers = kept.registers := by
    rw [replayed.frame]
    exact h.registers
  rw [landed.frame]
  refine ⟨fun b holds => ?_, registers, rfl, passed⟩
  simp only [Rt.discarded, StackLog.restored, stack]
  by_cases inFrame : kept.stack.Holds b
  · rw [if_pos inFrame]
    exact h.saved b inFrame holds
  · rw [if_neg inFrame, flag_byte (Region.off_flag holds)]
    exact done.restored b (fun free => free.elim inFrame (fun outside => outside holds))

end Rt.Undoable

/-- The rider of an episode's region, from a checkpoint whose memory was `start`. -/
def Rider.undoable (region : Region kernel) (start : Memory) (kept : Kept) : Rider kernel where
  holds := Rt.Undoable region start kept
  rolls := fun s => s.specAssert = none → s.Undoable region start kept
  landed := Rt.BackAt region start kept
  resumed := Rt.BackAt region start kept
  replay := fun s n mem =>
    s.specAssert = none → LogSound kernel (kept.Free region) start s.log mem n
  admits := fun _ _ => True
  spares := fun skip => ∀ b, ¬kept.Free region b → skip (wordOf b) = false
  admitsBlock := fun _ => True
  admitsDepth := True
  admitsFrame := fun _ _ => False
  admitsRegisters := fun _ => False
  admitsBug := fun _ => True
  admitsMemory := Rt.Covers region kept
  readsFrames := False
  ended := fun _ => True
  section_ := fun _ _ _ h => h.congr rfl rfl rfl rfl rfl
  counters := fun _ _ h => h.congr rfl rfl rfl rfl rfl
  metered := fun _ _ h _ _ => h.congr rfl rfl rfl rfl rfl
  failed := fun _ _ h _ _ => h.congr rfl rfl rfl rfl rfl
  appended := fun _ _ returnAddress _ h _ aligned room => h.appended aligned room returnAddress
  scratched := fun _ w h _ _ => h.scratched w
  counted := fun _ delta _ h _ => h.counted delta
  redepth := fun _ _ h _ _ => h.congr rfl rfl rfl rfl rfl
  checkpointed := fun _ _ _ h idle => (h.not_idle idle).elim
  framed := fun _ _ _ _ _ no => no.elim
  registered := fun _ _ _ _ no => no.elim
  cpu := fun _ _ h => h.congr rfl rfl rfl rfl rfl
  written := fun _ _ h covers => h.written covers
  clobbered := fun _ _ _ h _ _ _ => h.congr rfl rfl rfl rfl rfl
  reported := fun _ _ h _ _ _ _ => h.congr rfl rfl rfl rfl rfl
  printed := fun _ _ _ h idle _ _ _ => (h.not_idle idle).elim
  admits_busy := fun _ _ _ _ _ => True.intro
  admits_flush := fun _ _ _ _ => True.intro
  nested := fun _ _ _ h _ _ _ => h.congr rfl rfl rfl rfl rfl
  rolls_of_holds := fun _ h _ _ => h
  doomed := fun _ _ _ _ failed _ _ passed => absurd passed failed
  rolls_written := fun _ _ _ rolls covers passed =>
    ((rolls passed).written covers).congr rfl rfl rfl rfl rfl
  starts := fun _ rolls passed => (rolls passed).sound
  rules := by
    intro s skip _ spares
    have spare (b : Address) (skips : skip (wordOf b) = true) : kept.Free region b := by
      by_contra bound
      rw [spares b bound] at skips
      contradiction
    have rules := @LogSound.rules kernel _ start s.log skip spare
    refine ⟨?_, ?_, ?_⟩
    · exact fun n mem left skips passed => rules.skipped n mem (left passed) skips
    · exact fun n mem left spared writable passed =>
        rules.replayed n mem (left passed) spared writable
    · exact fun n mem left blocked passed => rules.blocked n mem (left passed) blocked
  stopped := by
    intro s stats k u rolls _ replaying passed
    have passed := (replaying.kept passed).1
    exact (rolls passed).stopped replaying (replaying.mem passed)
  rolledBack := by
    intro s stats restartType u t _ rolls _ _ replayed passed landed
    have before := (replayed.kept passed).1
    exact (rolls before).rolledBack replayed passed (replayed.mem before) landed
  jumped := fun _ landed => ⟨landed.agree, landed.registers, landed.rested.1, landed.rested.2⟩
  returned := fun _ _ landed _ =>
    ⟨landed.agree, landed.registers, landed.rested.1, landed.rested.2⟩
  ended_holds := fun _ _ => True.intro
  ended_rolls := fun _ _ => True.intro
  ended_landed := fun _ _ => True.intro
  ended_rolled := fun _ _ _ _ _ _ => True.intro
  ended_printed := fun _ _ _ _ _ _ _ _ => True.intro

-----------------------------------------------------------------------------------------
-- Outside speculation
-----------------------------------------------------------------------------------------

/-- Outside speculation the region is as in `start`, and no restart is under way. -/
def Rt.Untouched (region : Region kernel) (start : Memory) (s : Rt) : Prop :=
  s.inSpeculativeEmulation = false → region.Agree s.mem start ∧ s.Rested

theorem Rt.Untouched.congr {start : Memory} {s t : Rt} (h : s.Untouched region start)
    (inSpec : t.inSpeculativeEmulation = s.inSpeculativeEmulation)
    (agree : region.Agree t.mem s.mem) (isInRestart : t.isInRestart = s.isInRestart)
    (specAssert : t.specAssert = s.specAssert)
    : t.Untouched region start := by
  intro idle
  obtain ⟨same, rested⟩ := h (inSpec.symm.trans idle)
  exact ⟨agree.trans same, isInRestart.trans rested.1, specAssert.trans rested.2⟩

theorem Rt.Untouched.of_speculating {start : Memory} {s : Rt}
    (inSpec : s.inSpeculativeEmulation = true)
    : s.Untouched region start :=
  fun idle => absurd (inSpec.symm.trans idle) (by decide)

/-- The rider of a region outside speculation; what an episode does to it is not followed. -/
def Rider.untouched (region : Region kernel) (start : Memory) : Rider kernel where
  holds := Rt.Untouched region start
  rolls := fun _ => True
  landed := fun _ => True
  resumed := fun _ => True
  replay := fun _ _ _ => True
  admits := fun _ _ => True
  spares := fun _ => True
  admitsBlock := fun _ => True
  admitsDepth := True
  admitsFrame := fun _ _ => True
  admitsRegisters := fun _ => True
  admitsBug := fun _ => True
  admitsMemory := fun s mem => region.Agree mem s.mem
  readsFrames := False
  ended := fun _ => True
  section_ := fun _ _ _ h => h.congr rfl (fun _ _ => rfl) rfl rfl
  counters := fun _ _ h => h.congr rfl (fun _ _ => rfl) rfl rfl
  metered := fun _ _ h _ _ => h.congr rfl (fun _ _ => rfl) rfl rfl
  failed := fun _ _ _ inSpec _ => .of_speculating inSpec
  appended := fun _ _ _ _ h _ _ _ => h.congr rfl (fun _ _ => rfl) rfl rfl
  scratched := fun _ _ _ _ => True.intro
  counted := fun s delta _ h _ => h.congr rfl (region.agree_counted s delta) rfl rfl
  redepth := fun _ _ h _ _ => h.congr rfl (fun _ _ => rfl) rfl rfl
  checkpointed := fun _ _ _ _ _ => .of_speculating rfl
  framed := fun _ _ _ _ h _ => h.congr rfl (fun _ _ => rfl) rfl rfl
  registered := fun _ _ _ h _ => h.congr rfl (fun _ _ => rfl) rfl rfl
  cpu := fun _ _ h => h.congr rfl (fun _ _ => rfl) rfl rfl
  written := fun _ _ h agree => h.congr rfl agree rfl rfl
  clobbered := fun _ _ _ h _ _ _ => h.congr rfl (fun _ _ => rfl) rfl rfl
  reported := fun _ _ h _ _ _ _ => h.congr rfl (fun _ _ => rfl) rfl rfl
  printed := fun _ _ _ h _ _ _ _ => h.congr rfl (fun _ _ => rfl) rfl rfl
  admits_busy := fun _ _ _ _ _ => True.intro
  admits_flush := fun _ _ _ _ => True.intro
  nested := fun _ _ _ _ inSpec _ _ => .of_speculating inSpec
  rolls_of_holds := fun _ _ _ => True.intro
  doomed := fun _ _ _ _ _ _ _ => True.intro
  rolls_written := fun _ _ _ _ _ => True.intro
  starts := fun _ _ => True.intro
  rules := fun s skip _ _ => .vacuous _ skip s
  stopped := fun _ _ _ _ _ _ _ => True.intro
  rolledBack := fun _ _ _ _ _ _ _ _ _ _ _ _ => True.intro
  jumped := fun _ _ => True.intro
  returned := fun _ _ _ _ => True.intro
  ended_holds := fun _ _ => True.intro
  ended_rolls := fun _ _ => True.intro
  ended_landed := fun _ _ => True.intro
  ended_rolled := fun _ _ _ _ _ _ => True.intro
  ended_printed := fun _ _ _ _ _ _ _ _ => True.intro

end Kasper
