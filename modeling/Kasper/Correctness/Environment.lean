import Kasper.Correctness.EpisodeStart

/-! An episode leaves the execution environment as it found it. The NMI counter is one more
logged word: every section saves it before it counts, so a rollback takes back the sections
that were cut off along with the closed ones.
-/

namespace Kasper

open ByteMemory Exits

/-- A byte outside the word `stop_nmi` and `restart_nmi` count in. -/
def Kernel.OffCounter (kernel : Kernel) (b : Address) : Prop :=
  wordOf b ≠ kernel.nmiCount

theorem Kernel.within_counter (kernel : Kernel) (b : Address)
    : Within kernel.nmiCount 8 b ↔ ¬kernel.OffCounter b :=
  (within_word_iff kernel.nmiCount_aligned b).trans not_not.symm

/-- The counter's bytes can be written. -/
theorem Kernel.writable_counter {kernel : Kernel} {b : Address} (on : ¬kernel.OffCounter b)
    : kernel.writable b = true :=
  (writableWord_iff kernel.nmiCount_aligned (not_not.mp on)).mp kernel.nmiCount_writable

/-- An episode whose log and saved registers give back the counter of `start` and disabled
interrupts.
-/
structure Rt.Balanced (kernel : Kernel) (start : Memory) (s : Rt) : Prop where
  inSpec : s.inSpeculativeEmulation = true
  counter : LogSound kernel kernel.OffCounter start s.log s.mem s.log.position
  frame : ∀ b, ¬kernel.OffCounter b → ¬s.stack.Holds b
  masked : irqsEnabledIn (s.registers .eflags) = false

/-- A change of memory that spares the counter, or comes after it was logged. -/
def Rt.Spares (kernel : Kernel) (s : Rt) (mem : Memory) : Prop :=
  (∀ b, ¬kernel.OffCounter b → mem b = s.mem b) ∨ s.log.Has kernel.nmiCount

namespace Rt.Balanced

variable {kernel : Kernel} {start : Memory} {s t : Rt}

/-- Only the log, the counter, the saved frame and the saved registers matter. -/
theorem congr (h : s.Balanced kernel start)
    (inSpec : t.inSpeculativeEmulation = s.inSpeculativeEmulation) (log : t.log = s.log)
    (mem : t.mem = s.mem) (stack : t.stack = s.stack) (registers : t.registers = s.registers)
    : t.Balanced kernel start where
  inSpec := inSpec.trans h.inSpec
  counter := by
    rw [log, mem]
    exact h.counter
  frame := by
    rw [stack]
    exact h.frame
  masked := by
    rw [registers]
    exact h.masked

theorem not_idle (h : s.Balanced kernel start) (idle : s.inSpeculativeEmulation = false)
    : False :=
  absurd (h.inSpec.symm.trans idle) (by decide)

theorem written {mem : Memory} (h : s.Balanced kernel start) (spares : s.Spares kernel mem)
    : Rt.Balanced kernel start { s with mem } :=
  { h with
    counter := by
      refine h.counter.write (fun b on => ?_) (fun b on readOnly => ?_)
      · rcases spares with same | logged
        · exact Or.inl (same b on)
        · rw [not_not.mp on]
          exact Or.inr logged.logged
      · rw [kernel.writable_counter on] at readOnly
        contradiction }

theorem appended {w : Address} (h : s.Balanced kernel start) (aligned : wordOf w = w)
    (room : s.log.position < logCapacity) (returnAddress : Address)
    : (s.appended w returnAddress).Balanced kernel start :=
  { h with
    counter := by
      have allocated : (s.appended w returnAddress).log.Allocated :=
        h.counter.allocated.congr ⟨rfl, rfl⟩ ⟨rfl, rfl⟩ rfl
      refine h.counter.push room aligned allocated (fun i below => ?_) ?_ ?_
      · have different := Nat.ne_of_lt below
        exact ⟨Table.put_cell_other _ _ different, Table.put_cell_other _ _ different⟩
      · exact Table.put_cell_same _ _ _
      · exact Table.put_cell_same _ _ _ }

theorem scratched (h : s.Balanced kernel start) (w : Address)
    : (s.scratched w).Balanced kernel start :=
  { h with
    counter := by
      have allocated : (s.scratched w).log.Allocated :=
        h.counter.allocated.congr ⟨rfl, rfl⟩ ⟨rfl, rfl⟩ rfl
      refine h.counter.congr allocated (fun i below => ?_) (fun _ _ => rfl)
      exact Table.put_cell_other _ _ (Nat.ne_of_lt below) }

/-- The counter is saved before it is counted. -/
theorem counted (h : s.Balanced kernel start) (saved : s.Saved kernel kernel.nmiCount)
    (delta : Word)
    : (s.counted kernel delta).Balanced kernel start := by
  refine h.written (Or.inr ?_)
  have own : SavedBy kernel.nmiCount kernel.nmiCount := Or.inl kernel.nmiCount_aligned.symm
  rcases saved h.inSpec _ own with position | enabled | has
  · exact absurd position kernel.nmiCount_ne_wlPosition
  · exact absurd enabled kernel.nmiCount_ne_writelogEnabled
  · exact has

/-- A replay that was cut off leaves the older entries to the next one. -/
theorem stopped {stats : Statistics} {k : Nat} {u : Rt} {P : Nat → Memory → Prop}
    (h : s.Balanced kernel start) (replaying : Replaying P (s.restarting stats) k u)
    (left : LogSound kernel kernel.OffCounter start s.log u.mem k)
    : u.Balanced kernel start where
  inSpec := replaying.inSpec.trans h.inSpec
  counter := by
    rw [replaying.frame]
    refine left.congr ?_ (fun _ _ => rfl) (fun _ _ => rfl)
    exact left.allocated.congr ⟨rfl, rfl⟩ ⟨rfl, rfl⟩ rfl
  frame := by
    rw [replaying.frame]
    exact h.frame
  masked := by
    rw [replaying.frame]
    exact h.masked

/-- A finished rollback has put the counter back. -/
theorem rolledBack {stats : Statistics} {restartType : RestartType} {u : Rt}
    {P : Nat → Memory → Prop} (h : s.Balanced kernel start)
    (replayed : Replaying P (s.restarting stats) 0 u)
    (done : LogSound kernel kernel.OffCounter start s.log u.mem 0)
    (landed : Landed restartType (u.discarded kernel) t)
    : readWord t.mem kernel.nmiCount = readWord start kernel.nmiCount
      ∧ irqsEnabledIn (t.registers .eflags) = false := by
  have stack : u.stack = s.stack := by
    rw [replayed.frame]
    rfl
  rw [landed.frame]
  refine ⟨readWord_congr (fun b within => ?_), ?_⟩
  · have on := (kernel.within_counter b).mp within
    have outside : ¬u.stack.Holds b := by
      rw [stack]
      exact h.frame b on
    have other : b ≠ kernel.swapBranchCondition := by
      rintro rfl
      exact kernel.nmiCount_clear within
    simp only [Rt.discarded, StackLog.restored, if_neg outside, flag_byte other]
    exact done.restored b on
  · have registers : u.registers = s.registers := by
      rw [replayed.frame]
      rfl
    simp only [Rt.discarded, registers]
    exact h.masked

end Rt.Balanced

/-- The rider of the counter and the saved interrupt flag, from a checkpoint whose memory
was `start`.
-/
def Rider.balanced (kernel : Kernel) (start : Memory) : Rider kernel where
  holds := Rt.Balanced kernel start
  rolls := fun s => s.specAssert = none → s.Balanced kernel start
  landed := fun t =>
    readWord t.mem kernel.nmiCount = readWord start kernel.nmiCount
    ∧ irqsEnabledIn (t.registers .eflags) = false
  resumed := fun t =>
    readWord t.mem kernel.nmiCount = readWord start kernel.nmiCount ∧ t.irqsEnabled = false
  replay := fun s n mem =>
    s.specAssert = none → LogSound kernel kernel.OffCounter start s.log mem n
  admits := fun _ _ => True
  spares := fun skip => skip kernel.nmiCount = false
  admitsBlock := fun _ => True
  admitsDepth := True
  admitsFrame := fun _ _ => False
  admitsRegisters := fun _ => False
  admitsBug := fun _ => True
  admitsMemory := fun s mem => s.Spares kernel mem
  readsFrames := True
  ended := fun _ => True
  section_ := fun _ _ _ h => h.congr rfl rfl rfl rfl rfl
  counters := fun _ _ h => h.congr rfl rfl rfl rfl rfl
  metered := fun _ _ h _ _ => h.congr rfl rfl rfl rfl rfl
  failed := fun _ _ h _ _ => h.congr rfl rfl rfl rfl rfl
  appended := fun _ _ returnAddress _ h _ aligned room => h.appended aligned room returnAddress
  scratched := fun _ w h _ _ => h.scratched w
  counted := fun _ delta _ h saved => h.counted saved delta
  redepth := fun _ _ h _ _ => h.congr rfl rfl rfl rfl rfl
  checkpointed := fun _ _ _ h idle => (h.not_idle idle).elim
  framed := fun _ _ _ _ _ no => no.elim
  registered := fun _ _ _ _ no => no.elim
  cpu := fun _ _ h => h.congr rfl rfl rfl rfl rfl
  written := fun _ _ h spares => h.written spares
  clobbered := fun _ _ _ h _ _ _ => h.congr rfl rfl rfl rfl rfl
  reported := fun _ _ h _ _ _ _ => h.congr rfl rfl rfl rfl rfl
  printed := fun _ _ _ h idle _ _ _ => (h.not_idle idle).elim
  admits_busy := fun _ _ _ _ _ => True.intro
  admits_flush := fun _ _ _ _ => True.intro
  nested := fun _ _ _ h _ _ _ => h.congr rfl rfl rfl rfl rfl
  rolls_of_holds := fun _ h _ _ => h
  doomed := fun _ _ _ _ failed _ _ passed => absurd passed failed
  rolls_written := fun _ _ _ rolls spares passed =>
    ((rolls passed).written spares).congr rfl rfl rfl rfl rfl
  starts := fun _ rolls passed => (rolls passed).counter
  rules := by
    intro s skip _ spares
    have spare (b : Address) (skips : skip (wordOf b) = true) : kernel.OffCounter b := by
      intro same
      rw [same, spares] at skips
      contradiction
    have rules := @LogSound.rules kernel _ start s.log skip spare
    refine ⟨?_, ?_, ?_⟩
    · exact fun n mem left skips passed => rules.skipped n mem (left passed) skips
    · exact fun n mem left spared writable passed =>
        rules.replayed n mem (left passed) spared writable
    · exact fun n mem left blocked passed => rules.blocked n mem (left passed) blocked
  stopped := by
    intro s stats k u rolls _ replaying passed
    have passed := (replaying.kept passed).1
    exact (rolls passed).stopped replaying (replaying.mem passed)
  rolledBack := by
    intro s stats restartType u t _ rolls _ _ replayed passed landed
    have passed := (replayed.kept passed).1
    exact (rolls passed).rolledBack replayed (replayed.mem passed) landed
  jumped := fun _ landed => landed
  returned := fun _ _ landed eflags => ⟨landed.1, (eflags True.intro).trans landed.2⟩
  ended_holds := fun _ _ => True.intro
  ended_rolls := fun _ _ => True.intro
  ended_landed := fun _ _ => True.intro
  ended_rolled := fun _ _ _ _ _ _ => True.intro
  ended_printed := fun _ _ _ _ _ _ _ _ => True.intro

-----------------------------------------------------------------------------------------
-- Opening an episode
-----------------------------------------------------------------------------------------

/-- The hooks of a branch up to the saved registers: a rollback goes on after them. -/
def openBranch (env saveEnv : Env) (inInterrupt : Bool) (frameaddress rsp : Address)
    (cpu : PtRegs) (returnAddress : Word)
    : RtM Word := do
  let token ← hookNewCheckpoint env env.onFail inInterrupt
  hookSaveStack saveEnv.onFail token frameaddress rsp
  saveRegisters cpu returnAddress token
  return token

section
variable {env saveEnv : Env} {s : Rt}

/-- A checkpoint is taken outside the runtime's sections only. -/
theorem hookNewCheckpoint_inactive (inInterrupt : Bool)
    : Ends (hookNewCheckpoint env env.onFail inInterrupt)
        (fun token _ => token ≠ noCheckpoint → s.isInRt = false) (fun _ _ => True) s := by
  simp only [hookNewCheckpoint, ends_bind, ends_get, ends_ite, ends_pure]
  refine ⟨fun _ token => absurd rfl token, fun free => ?_⟩
  have inactive : s.isInRt = false := Bool.of_not_eq_true (fun active => free (Or.inr active))
  refine ⟨fun _ _ => inactive, fun _ => ⟨fun _ _ => inactive, fun _ => ⟨fun _ _ => inactive,
    fun _ => ⟨fun _ _ => inactive, fun _ => ⟨fun _ => ?_, fun _ => ?_⟩⟩⟩⟩⟩
  · exact (Ends.trivial _).imp (fun _ _ _ _ => inactive) (fun _ _ _ => trivial)
  · refine (Ends.trivial _).imp (fun _ _ _ => ?_) (fun _ _ _ => trivial)
    refine (Ends.trivial _).imp (fun _ _ _ => ?_) (fun _ _ _ => trivial)
    exact ⟨fun _ _ => inactive, fun _ _ => inactive⟩

/-- Where control leaves an episode that never gets back to its checkpoint. -/
structure LostEpisode (kernel : Kernel) (e : Exit) (t : Rt) : Prop where
  consistent : t.Consistent
  away : e ≠ .resumed
  fault
    : ∀ isWrite,
        e = .fault isWrite
        → Coherent kernel t ∧ t.inSpeculativeEmulation = true ∧ t.specAssert ≠ none

theorem LostEpisode.final {e : Exit} {t : Rt} (consistent : t.Consistent) (final : e.Final)
    : LostEpisode env.kernel e t where
  consistent := consistent
  away := by
    rintro rfl
    exact final.elim
  fault := by
    rintro isWrite rfl
    exact final.elim

/-- Outside a restart an assertion of an episode holds or never returns. -/
theorem ltAssert_passes {holds : Prop} [Decidable holds] {file condition : String} {line : Nat}
    (speculating : Speculating env.kernel s) (fresh : s.isInRestart = false)
    (other : ¬SpecAssert.OfStateMachine ⟨file, line, condition⟩)
    : Ends (ltAssert env.onFail holds file line condition) (fun _ t => holds ∧ t = s)
        (LostEpisode env.kernel) s := by
  refine ends_ltAssert (fun pass => ⟨pass, rfl⟩) (fun _ => ?_)
  refine (env.handler.rollsBack _ s speculating.inv.coherent speculating.inv.consistent other
    speculating.inSpec fresh).imp (fun _ _ no => no.elim) ?_
  intro e t exit
  refine ⟨exit.consistent, exit.away, fun isWrite fault => ?_⟩
  obtain ⟨coherent, inSpec, failed, _⟩ := exit.fault isWrite fault
  exact ⟨coherent, inSpec, failed⟩

/-- The buffer holds the bytes of a frame at the addresses of their distances from `rsp`. -/
def CopiesFrame (mem : Memory) (frameaddress rsp : Address) (cell : Nat → Byte) : Prop :=
  ∀ b, Within rsp (frameaddress - rsp).toNat b → cell (b - rsp).toNat = mem b

/-- Saving the frame notes where it lies and copies its bytes, nothing else. -/
theorem saveStack_copies {frameaddress rsp : Address} (speculating : Speculating env.kernel s)
    (fresh : s.isInRestart = false)
    (clear : ¬Within rsp (frameaddress - rsp).toNat env.kernel.swapBranchCondition)
    : Ends (saveStack env.onFail frameaddress rsp)
        (fun _ t =>
          ∃ cell,
            t = s.framed frameaddress rsp cell ∧ CopiesFrame s.mem frameaddress rsp cell)
        (LostEpisode env.kernel) s := by
  have bottom : frameaddress - (frameaddress - rsp) = rsp := by bv_omega
  have noted : Speculating env.kernel (s.framed frameaddress rsp s.stack.stack.cell) := by
    refine ⟨⟨speculating.inv.coherent.framed ?_, speculating.inv.consistent.congr rfl,
      True.intro⟩, speculating.inSpec⟩
    simp only [Rt.framed, StackLog.Holds, bottom]
    exact clear
  have final (e : Exit) (final : e.Final) {t : Rt} (asserted : t.asserted = s.asserted)
      : LostEpisode env.kernel e t :=
    .final (speculating.inv.consistent.congr asserted) final
  simp only [saveStack, copyToStackLog, ends_bind, ends_modify, ends_get]
  refine (ltAssert_passes noted fresh (by decide)).imp ?_ (fun _ _ exit => exit)
  rintro _ _ ⟨_, rfl⟩
  refine (ltAssert_passes noted fresh (by decide)).imp ?_ (fun _ _ exit => exit)
  rintro _ _ ⟨_, rfl⟩
  refine (ltAssert_passes noted fresh (by decide)).imp ?_ (fun _ _ exit => exit)
  rintro _ _ ⟨_, rfl⟩
  refine (ltAssert_passes noted fresh (by decide)).imp ?_ (fun _ _ exit => exit)
  rintro _ _ ⟨_, rfl⟩
  rw [ends_ite]
  refine ⟨fun _ => ?_, fun _ => final (.outOfBounds .wlStack) True.intro rfl⟩
  rw [ends_modify, ends_ite]
  refine ⟨fun _ => final (.panicked _) True.intro rfl, fun _ => ⟨_, rfl, fun b within => ?_⟩⟩
  rw [Within] at within
  simp only [Rt.framed, bottom, if_pos within, BitVec.ofNat_toNat, BitVec.setWidth_eq]
  rw [BitVec.add_comm, BitVec.sub_add_cancel]

theorem saveStack_frames {frameaddress rsp : Address} (speculating : Speculating env.kernel s)
    (fresh : s.isInRestart = false)
    (clear : ¬Within rsp (frameaddress - rsp).toNat env.kernel.swapBranchCondition)
    : Ends (saveStack env.onFail frameaddress rsp)
        (fun _ t => ∃ cell, t = s.framed frameaddress rsp cell) (fun _ _ => True) s :=
  (saveStack_copies speculating fresh clear).imp
    (fun _ _ ⟨cell, framed, _⟩ => ⟨cell, framed⟩) (fun _ _ _ => trivial)

/-- Taking a checkpoint counts the section it leaves open. -/
theorem checkpointed_counter (kernel : Kernel) (s : Rt) (stats : Statistics)
    : readWord ((s.entered kernel).checkpointed kernel stats).mem kernel.nmiCount
      = readWord s.mem kernel.nmiCount + 1 := by
  have flag (mem : Memory) (value : Byte)
      : readWord (writeBytes mem kernel.swapBranchCondition [value]) kernel.nmiCount
        = readWord mem kernel.nmiCount := by
    refine readWord_congr (fun b within => flag_byte ?_ mem value)
    rintro rfl
    exact kernel.nmiCount_clear within
  simp only [Rt.checkpointed]
  split
  · rw [flag]
    exact readWord_writeWord _ _ _
  · exact readWord_writeWord _ _ _

/-- With a token the flags given are saved. -/
theorem asmSaveRegisters_eflags (saved cpu : PtRegs) (returnAddress flags : Word) {token : Word}
    (positive : ¬token.toInt ≤ -1)
    : (asmSaveRegisters saved cpu returnAddress flags token).1 .eflags = flags := by
  simp only [asmSaveRegisters, if_neg positive]
  simp

/-- The state in which a branch has opened an episode from `s`. -/
structure Opened (kernel : Kernel) (s : Rt) (token : Word) (t : Rt) : Prop where
  token : token = irqFlags s.irqsEnabled
  inactive : s.isInRt = false
  counter : readWord t.mem kernel.nmiCount = readWord s.mem kernel.nmiCount + 1
  inv : Inv kernel (Rider.balanced kernel t.mem) t

/-- In speculation a branch takes no checkpoint. -/
theorem openBranch_idle {inInterrupt : Bool} {frameaddress rsp : Address} {cpu : PtRegs}
    {returnAddress : Word} (inv : Inv env.kernel (Rider.trivial env.kernel) s)
    : Ends (openBranch env saveEnv inInterrupt frameaddress rsp cpu returnAddress)
        (fun token _ => token ≠ noCheckpoint → s.inSpeculativeEmulation = false)
        (fun _ _ => True) s := by
  rw [openBranch]
  refine Ends.bind ((hookNewCheckpoint_keeps env.handler True.intro inInterrupt inv).imp
    (fun _ _ kept => kept.2) (fun _ _ _ => trivial)) ?_
  intro token _ taken
  refine Ends.bind (Ends.trivial _) (fun _ _ _ => ?_)
  refine Ends.bind (Ends.trivial _) (fun _ _ _ => ?_)
  exact fun some => (taken some).1

/-- A branch that takes a checkpoint starts a balanced episode. -/
theorem openBranch_opens {saveFrames : Frames} {inInterrupt : Bool}
    {frameaddress rsp : Address} {cpu : PtRegs} {returnAddress : Word}
    (clear : ¬Within rsp (frameaddress - rsp).toNat env.kernel.swapBranchCondition)
    (apart : ∀ b, ¬env.kernel.OffCounter b → ¬Within rsp (frameaddress - rsp).toNat b)
    (coherent : Coherent env.kernel s) (consistent : s.Consistent)
    (idle : s.inSpeculativeEmulation = false) (rested : s.Rested)
    : Ends
        (openBranch env { env with frames := saveFrames } inInterrupt frameaddress rsp cpu
          returnAddress)
        (fun token t => token ≠ noCheckpoint → Opened env.kernel s token t)
        (fun _ _ => True) s := by
  rw [openBranch]
  refine Ends.bind (((hookNewCheckpoint_idle coherent idle inInterrupt).and
    (hookNewCheckpoint_inactive inInterrupt)).imp (fun _ _ both => both)
      (fun _ _ _ => trivial)) ?_
  rintro token t ⟨⟨rfl, rfl⟩ | ⟨rfl, stats, rfl⟩, inactive⟩
  -- without a checkpoint the other hooks of the branch do nothing
  · simp only [hookSaveStack, saveRegisters, ends_bind, ends_modify, ne_eq, not_true_eq_false,
      if_false, ends_pure]
    exact fun token => token.elim
  · have token := irqFlags_ne_noCheckpoint s.irqsEnabled
    have entered : Coherent env.kernel (s.entered env.kernel) :=
      (coherent.counted 1).congr rfl rfl rfl rfl rfl (fun _ clear => clear)
    have opened
        : Speculating env.kernel ((s.entered env.kernel).checkpointed env.kernel stats) :=
      ⟨⟨entered.checkpointed stats, consistent.congr rfl, True.intro⟩, rfl⟩
    rw [hookSaveStack, if_pos token]
    refine Ends.bind (@saveStack_frames { env with frames := saveFrames } _ frameaddress rsp
      opened rested.isInRestart clear) ?_
    rintro _ _ ⟨cell, rfl⟩
    have bottom : frameaddress - (frameaddress - rsp) = rsp := by bv_omega
    have framed
        : Coherent env.kernel
            (((s.entered env.kernel).checkpointed env.kernel stats).framed frameaddress rsp
              cell) := by
      refine opened.inv.coherent.framed ?_
      simp only [Rt.framed, StackLog.Holds, bottom]
      exact clear
    -- a token is not negative, so the save routine keeps the flags it was given
    have positive : ¬(irqFlags s.irqsEnabled).toInt ≤ -1 := by
      cases s.irqsEnabled <;> decide
    have eflags := asmSaveRegisters_eflags s.registers cpu returnAddress (irqFlags false) positive
    rw [ends_bind, saveRegisters, ends_modify, ends_pure]
    intro _
    refine ⟨rfl, inactive token, checkpointed_counter env.kernel s stats, ?_, ?_, ?_⟩
    · exact framed.congr rfl rfl rfl rfl rfl (fun _ clear => clear)
    · exact consistent.congr rfl
    · refine ⟨rfl, .empty framed.allocated, fun b on => ?_, ?_⟩
      · simp only [Rt.framed, StackLog.Holds, bottom]
        exact apart b on
      · exact (congrArg irqsEnabledIn eflags).trans (irqsEnabledIn_irqFlags false)

end

-----------------------------------------------------------------------------------------
-- Episodes
-----------------------------------------------------------------------------------------

/-- The counter lies off the stacks: no replay takes it for a live frame, and no interrupt
frame holds it. Interrupts come on a stack apart from the saved frame. The program writes
the counter after it was hooked only, and passes the tokens its branches got, which in
speculation are none.
-/
def Action.SparesCounter (env : Env) (s : Rt) : Action → Prop
  | .saveStack token _ _ => token = noCheckpoint
  | .saveRegisters _ _ token => token = noCheckpoint
  | .branch _ leaveFrames _ _ _ _ _ =>
      restartSkips { env with frames := leaveFrames } true 0 0 env.kernel.nmiCount = false
  | .timer _ regs frameaddr _
  | .exception regs frameaddr _ _ =>
      FrameApart regs s.stack
      ∧ restartSkips env false frameaddr regs env.kernel.nmiCount = false
  | .write target bytes => s.Spares env.kernel (writeBytes s.mem target bytes)
  | _ => True

/-- An event of an episode, by its place and the counter's. -/
structure InEpisode (kernel : Kernel) (event : Event) (m : Machine) : Prop where
  inSpec : m.rt.inSpeculativeEmulation = true
  placed : event.action.Placed kernel
  frames : restartSkips (event.env kernel) true 0 0 kernel.nmiCount = false
  action : event.action.SparesCounter (event.env kernel) m.rt

/-- An interrupt frame the replay skips without the counter does not hold the counter. -/
theorem FrameApart.offCounter {env : Env} {regs frameaddr b : Address} {stack : StackLog}
    (apart : FrameApart regs stack)
    (spared : restartSkips env false frameaddr regs env.kernel.nmiCount = false)
    (on : ¬env.kernel.OffCounter b)
    : ¬Within regs sizeofPtregs b := by
  intro within
  have skips : restartSkips env false frameaddr regs (wordOf b) = true := apart.skips within
  rw [not_not.mp on, spared] at skips
  contradiction

/-- The rider admits the events of an episode. -/
theorem InEpisode.admitted {kernel : Kernel} {start : Memory} {event : Event} {m : Machine}
    (h : InEpisode kernel event m)
    : event.Admitted kernel (Rider.balanced kernel start) m.rt where
  placed := h.placed
  spares := h.frames
  action := by
    have action := h.action
    have interrupt {regs frameaddr : Address} {restartType : RestartType}
        (spares
          : FrameApart regs m.rt.stack
            ∧ restartSkips (event.env kernel) false frameaddr regs kernel.nmiCount = false)
        : AdmitsInterrupt (event.env kernel) (Rider.balanced kernel start) regs frameaddr
            restartType m.rt := by
      refine ⟨fun t mem frame => Or.inl (fun b on => frame b ?_), fun _ => spares.2,
        fun _ => True.intro, fun _ _ => spares.1⟩
      exact @FrameApart.offCounter (event.env kernel) regs frameaddr b _ spares.1 spares.2 on
    cases same : event.action with
    | timer leaving regs frameaddr interrupted =>
        rw [same] at action
        exact interrupt action
    | exception regs frameaddr interrupted exceptionType =>
        rw [same] at action
        exact interrupt action
    | branch saveFrames leaveFrames inInterrupt frameaddress rsp cpu returnAddress =>
        rw [same] at action
        exact ⟨action, fun idle => absurd (h.inSpec.symm.trans idle) (by decide)⟩
    | saveStack irqFlags frameaddress rsp =>
        rw [same] at action
        exact fun token => absurd action token
    | saveRegisters cpu returnAddress token =>
        rw [same] at action
        obtain rfl := (action : token = noCheckpoint)
        exact fun positive => absurd (by decide) positive
    | write target bytes =>
        rw [same] at action
        exact action
    | report call => exact fun _ => True.intro
    | _ => exact True.intro

/-- An episode ends where its checkpoint left off: with the counter of the checkpoint and
interrupts disabled. By cases on the last step of the run.
-/
theorem episode_resumes {kernel : Kernel} {start : Memory} {opened n : Machine}
    (inv : MachineInv kernel (Rider.balanced kernel start) opened)
    (inSpec : opened.rt.inSpeculativeEmulation = true)
    (run : Run kernel (InEpisode kernel) opened n) (running : n.phase = .running)
    (idle : n.rt.inSpeculativeEmulation = false)
    : Coherent kernel n.rt ∧ (Rider.balanced kernel start).resumed n.rt := by
  have kept {m : Machine} (run : Run kernel (InEpisode kernel) opened m)
      (inSpec : m.rt.inSpeculativeEmulation = true)
      : MachineInv kernel (Rider.balanced kernel start) m := by
    induction run with
    | refl => exact inv
    | step run admitted steps ih =>
        have stepped := (ih admitted.inSpec).step admitted.admitted steps
        exact stepped.inv (fun _ idle _ => absurd (inSpec.symm.trans idle) (by decide))
  cases run with
  | refl => exact absurd (inSpec.symm.trans idle) (by decide)
  | step run admitted steps =>
      have stepped := (kept run admitted.inSpec).step admitted.admitted steps
      rcases stepped.running running with inv | ⟨coherent, _, resumed⟩
      · exact absurd (inv.holds.inSpec.symm.trans idle) (by decide)
      · exact ⟨coherent, resumed⟩

/-- What an episode gives back of the state `s` before its checkpoint. -/
structure SameEnvironment (kernel : Kernel) (s t : Rt) : Prop where
  counter : readWord t.mem kernel.nmiCount = readWord s.mem kernel.nmiCount
  irqsEnabled : t.irqsEnabled = s.irqsEnabled
  isInRt : t.isInRt = s.isInRt

/-- From every checkpoint that a reachable kernel takes, through every run of hooks,
interrupts, faults and program writes, and however the episode ends: where execution has
resumed at the checkpoint, `kspecem_hook_leave_rt` returns with the NMI counter, the
interrupt flag and `kspecem_is_in_rt` as they were before `kspecem_hook_new_checkpoint`.
-/
theorem episode_restores_environment {kernel : Kernel} {m n : Machine}
    {frames saveFrames leaveFrames : Frames} {task leaveTask : Task} {inInterrupt : Bool}
    {frameaddress rsp : Address} {cpu : PtRegs} {returnAddress token : Word} {opened : Rt}
    (reached : Reached kernel m) (running : m.phase = .running)
    (placed : ¬Within rsp (frameaddress - rsp).toNat kernel.swapBranchCondition)
    (apart : ∀ b, ¬kernel.OffCounter b → ¬Within rsp (frameaddress - rsp).toNat b)
    (opens
      : openBranch ⟨kernel, frames, task⟩ ⟨kernel, saveFrames, task⟩ inInterrupt frameaddress
          rsp cpu returnAddress m.rt
        = .ok token opened)
    (taken : token ≠ noCheckpoint)
    (run : Run kernel (InEpisode kernel) ⟨opened, .running⟩ n) (back : n.phase = .running)
    (ended : n.rt.inSpeculativeEmulation = false)
    : Ends
        (hookLeaveRt ⟨kernel, leaveFrames, leaveTask⟩
          (Env.onFail ⟨kernel, leaveFrames, leaveTask⟩) token)
        (fun _ t => SameEnvironment kernel m.rt t) (fun _ _ => False) n.rt := by
  have inv := reached.inv.running running
  have idle : m.rt.inSpeculativeEmulation = false :=
    (@openBranch_idle ⟨kernel, frames, task⟩ ⟨kernel, saveFrames, task⟩ m.rt inInterrupt
      frameaddress rsp cpu returnAddress inv).of_ok opens taken
  have start : Opened kernel m.rt token opened :=
    (@openBranch_opens ⟨kernel, frames, task⟩ m.rt saveFrames inInterrupt frameaddress rsp cpu
      returnAddress placed apart inv.coherent inv.consistent idle
      (reached.rested running idle)).of_ok opens taken
  have balanced : MachineInv kernel (Rider.balanced kernel opened.mem) ⟨opened, .running⟩ :=
    ⟨start.inv.consistent, fun _ => start.inv, fun faulted => by contradiction⟩
  obtain ⟨coherent, counter, irqs⟩ := episode_resumes balanced start.inv.holds.inSpec run back ended
  have disabled : n.rt.log.enabled = false := coherent.coupled.trans ended
  rw [hookLeaveRt, if_pos taken, leaveKspecemRt_disabled disabled irqs]
  refine ⟨?_, ?_, start.inactive.symm⟩
  · have restored : readWord (n.rt.left kernel token).mem kernel.nmiCount
        = readWord n.rt.mem kernel.nmiCount + -1 :=
      readWord_writeWord _ _ _
    rw [restored, counter, start.counter]
    bv_omega
  · rw [start.token]
    exact irqsEnabledIn_irqFlags _

/-- The sample kernel where its branch has saved the registers. -/
def sampleOpened : Machine :=
  ⟨endState
    (openBranch sampleEnv sampleEnv false 0x70200 0x70100 (fun _ => 0) 0x400200) sampleRt,
    .running⟩

/-- The hooks of the sample episode: a store is logged, then a blacklisted call ends it
inside the section of `kspecem_hook_restart`.
-/
def sampleCutOff : List Event :=
  [sampleEvent (.leaveRt (irqFlags true)), sampleEvent (.store 0x600000),
    sampleEvent (.restart .restartBlacklist 0x400700)]

theorem episode_restores_environment_sample
    : Ends (hookLeaveRt sampleEnv sampleEnv.onFail (irqFlags true))
        (fun _ t => SameEnvironment sampleKernel sampleRt t) (fun _ _ => False)
        (machineAfter sampleCutOff sampleOpened).rt := by
  refine @episode_restores_environment sampleKernel sampleMachine
    (machineAfter sampleCutOff sampleOpened) sampleFrames sampleFrames sampleFrames
    sampleEnv.task sampleEnv.task false 0x70200 0x70100 (fun _ => 0) 0x400200 (irqFlags true)
    sampleOpened.rt sampleReached rfl ?_ ?_ rfl (by decide) ?_ rfl rfl
  · exact (by decide : ¬Within 0x70100 0x100 sampleKernel.swapBranchCondition)
  · intro b on within
    have counter : Within 0x8800 8 b := (sampleKernel.within_counter b).mpr on
    simp only [Within] at within counter
    bv_omega
  · have opened : Run sampleKernel (InEpisode sampleKernel) sampleOpened sampleOpened := .refl
    have left := opened.after (sampleEvent (.leaveRt (irqFlags true)))
      ⟨rfl, trivial, rfl, trivial⟩ trivial
    have stored := left.after (sampleEvent (.store 0x600000)) ⟨rfl, trivial, rfl, trivial⟩ trivial
    exact stored.after (sampleEvent (.restart .restartBlacklist 0x400700))
      ⟨rfl, trivial, rfl, trivial⟩ trivial

end Kasper
