import Kasper.Correctness.Process
import Kasper.Library.Simulation

/-! Speculative emulation does not change what a program does: what an instrumented run shows
is a run of the program without any of the inserted calls.
-/

namespace Kasper

open ByteMemory Exits Simulation

variable {kernel : Kernel} {region : Region kernel} {mem : Memory} {cpu : PtRegs}
  {returnAddress : Word} {own : RuntimeVariables kernel}

/-- The plain program stands before a branch. The runtime emulates its wrong path, from a
checkpoint that agrees with the plain program, or stands behind the saved registers.
-/
inductive AtBranch (region : Region kernel) (mem : Memory) (cpu : PtRegs)
    (returnAddress : Word) (m : Machine)
    : Prop
  | episode {start : Memory} {kept : Kept} (agree : region.Agree start mem)
      (registers : Preserves kept.registers (behindCalls cpu returnAddress))
      (inSpec : m.rt.inSpeculativeEmulation = true)
      (inv : MachineInv kernel (Rider.undoable region start kept) m)
  | behind (running : m.phase = .running) (rests : m.rt.AtRest region mem)
      (registers : Preserves m.rt.cpu (behindCalls cpu returnAddress))

/-- A process and the plain program are at the same place, with the same bytes to read. -/
def Related (P : Program kernel) (p : Process) (q : PlainState) : Prop :=
  p.machine.phase ≠ .stopped
  → match p.control with
    | .program regs => q.regs = regs ∧ p.machine.rt.AtRest (P.live regs) q.mem
    | .branching regs _ =>
        q.regs = regs
        ∧ ∃ cpu returnAddress,
            P.next regs q.mem = .branch cpu returnAddress
            ∧ AtBranch (P.live regs) q.mem cpu returnAddress p.machine

-----------------------------------------------------------------------------------------
-- On a wrong path
-----------------------------------------------------------------------------------------

theorem Preserves.trans {regs other third : PtRegs} (h : Preserves regs other)
    (h' : Preserves other third)
    : Preserves regs third :=
  fun slot member => (h slot member).trans (h' slot member)

/-- What ends well in an episode leaves the process at its branch. -/
theorem AtBranch.of_ends {c : RtM Unit} {s : Rt} {start : Memory} {kept : Kept}
    (agree : region.Agree start mem)
    (registers : Preserves kept.registers (behindCalls cpu returnAddress))
    (ends
      : Ends c (fun _ t => Inv kernel (Rider.undoable region start kept) t)
          (InvExit kernel (Rider.undoable region start kept)) s)
    (loaded : Ends c (fun _ _ => True) Loaded s)
    (alive : (Machine.after (c s)).phase ≠ .stopped)
    : AtBranch region mem cpu returnAddress (.after (c s)) := by
  have stepped := MachineStep.of_ends ends
  cases result : c s with
  | ok _ t =>
      have inv := ends.of_ok result
      exact .episode agree registers inv.holds.inSpec
        ⟨inv.consistent, fun _ => inv, fun faulted => by contradiction⟩
  | error e t =>
      rw [result] at stepped alive
      have exit := ends.of_error result
      cases e with
      | resumed =>
          obtain ⟨coherent, idle, back⟩ := exit.2.1 rfl
          have jumped : Preserves t.cpu t.registers := loaded.of_error result rfl
          refine .behind rfl ⟨coherent, exit.1, idle, back.rested, ?_⟩ ?_
          · exact back.agree.trans agree
          · exact jumped.trans (back.registers ▸ registers)
      | fault isWrite =>
          have standing := stepped.faulted rfl
          have inSpec : t.inSpeculativeEmulation = true := by
            by_contra idle
            have idle := Bool.of_not_eq_true idle
            exact (standing.holds idle).not_idle idle
          exact .episode agree registers inSpec
            ⟨exit.1, fun running => by contradiction, fun _ => standing⟩
      | panicked reason => exact absurd rfl alive
      | outOfBounds table => exact absurd rfl alive
      | stackOverflow => exact absurd rfl alive
      | diverged => exact absurd rfl alive

/-- The words spared by a replay are those a rollback puts back. -/
theorem Region.Spared.admitted {start : Memory} {kept : Kept} {skip : Address → Bool}
    (spared : region.Spared kept.stack skip)
    : (Rider.undoable region start kept).spares skip :=
  fun b bound =>
    spared b (not_not.mp (fun outside => bound (Or.inr outside)))
      (fun inFrame => bound (Or.inl inFrame))

/-- The rider admits the events of a wrong path. -/
theorem Event.OnWrongPath.admitted {start : Memory} {kept : Kept} {event : Event} {s : Rt}
    (h : event.OnWrongPath own region s) (stack : s.stack = kept.stack)
    (inSpec : s.inSpeculativeEmulation = true)
    : event.Admitted kernel (Rider.undoable region start kept) s where
  placed := h.placed
  spares := Region.Spared.admitted (stack ▸ h.frames)
  action := by
    have action := h.action
    have interrupt {regs frameaddr : Address} {restartType : RestartType}
        (spares
          : FrameApart regs s.stack
            ∧ region.Spared s.stack (restartSkips (event.env kernel) false frameaddr regs))
        : AdmitsInterrupt (event.env kernel) (Rider.undoable region start kept) regs
            frameaddr restartType s := by
      have spared := @Region.Spared.admitted _ region start kept _ (stack ▸ spares.2)
      refine ⟨fun t mem frame b bound => Or.inl (frame b (fun within => ?_)),
        fun _ => spared, fun _ => True.intro, fun _ no => no.elim⟩
      have skips : restartSkips (event.env kernel) false frameaddr regs (wordOf b) = true :=
        spares.1.skips within
      rw [spared b bound] at skips
      contradiction
    cases same : event.action with
    | timer leaving regs frameaddr interrupted =>
        rw [same] at action
        exact interrupt action
    | exception regs frameaddr interrupted exceptionType =>
        rw [same] at action
        exact interrupt action
    | branch saveFrames leaveFrames inInterrupt frameaddress rsp cpu returnAddress =>
        rw [same] at action
        exact ⟨Region.Spared.admitted (stack ▸ action),
          fun idle => absurd (inSpec.symm.trans idle) (by decide)⟩
    | saveStack irqFlags frameaddress rsp =>
        rw [same] at action
        exact fun token => absurd action token
    | saveRegisters cpu returnAddress token =>
        rw [same] at action
        obtain rfl := (action : token = noCheckpoint)
        exact fun positive => absurd (by decide) positive
    | write target bytes =>
        rw [same] at action
        exact action.elim
    | report call => exact fun _ => True.intro
    | _ => exact True.intro

/-- The frames of its interrupts are apart from the saved one. -/
theorem Event.OnWrongPath.framesApart {event : Event} {s : Rt}
    (h : event.OnWrongPath own region s)
    : event.action.FramesApart s := by
  have action := h.action
  cases same : event.action with
  | timer leaving regs frameaddr interrupted =>
      rw [same] at action
      exact fun _ => action.1
  | exception regs frameaddr interrupted exceptionType =>
      rw [same] at action
      exact fun _ => action.1
  | _ => exact True.intro

/-- An episode whose saved frame is the machine's: what a failure has doomed is held to
nothing, so any frame will do for it.
-/
theorem MachineInv.ownFrame {m : Machine} {start : Memory} {kept : Kept}
    (inv : MachineInv kernel (Rider.undoable region start kept) m)
    (inSpec : m.rt.inSpeculativeEmulation = true) (alive : m.phase ≠ .stopped)
    : ∃ own : Kept,
        own.registers = kept.registers
        ∧ m.rt.stack = own.stack
        ∧ MachineInv kernel (Rider.undoable region start own) m := by
  cases phase : m.phase with
  | running => exact ⟨kept, rfl, (inv.running phase).holds.stack, inv⟩
  | faulted =>
      have standing := inv.faulted phase
      by_cases passed : m.rt.specAssert = none
      · exact ⟨kept, rfl, (standing.rolls inSpec passed).stack, inv⟩
      · refine ⟨⟨m.rt.stack, kept.registers⟩, rfl, rfl, inv.consistent, ?_, fun _ => ?_⟩
        · exact fun running => absurd (phase.symm.trans running) (by decide)
        · exact ⟨standing.coherent, standing.consistent, fun _ none => absurd none passed,
            fun idle => absurd (inSpec.symm.trans idle) (by decide)⟩
  | stopped => exact absurd phase alive

/-- Any event of a wrong path. -/
theorem AtBranch.event {m next : Machine} {event : Event} {start : Memory} {kept : Kept}
    (agree : region.Agree start mem)
    (registers : Preserves kept.registers (behindCalls cpu returnAddress))
    (inSpec : m.rt.inSpeculativeEmulation = true)
    (inv : MachineInv kernel (Rider.undoable region start kept) m)
    (wrong : event.OnWrongPath own region m.rt) (steps : m.step kernel event = some next)
    (alive : next.phase ≠ .stopped)
    : AtBranch region mem cpu returnAddress next := by
  obtain ⟨own, same, stack, inv⟩ := inv.ownFrame inSpec (Machine.alive_of_step steps)
  obtain ⟨enabled, rfl⟩ := Machine.step_eq steps
  have standing : Standing kernel (Rider.trivial kernel) m.rt := by
    refine ⟨?_, inv.consistent, fun _ => True.intro, fun _ => True.intro⟩
    cases phase : m.phase with
    | running => exact (inv.running phase).coherent
    | faulted => exact (inv.faulted phase).coherent
    | stopped => exact absurd phase (Machine.alive_of_step steps)
  have ends := inv.run_keeps (wrong.admitted stack inSpec) enabled
  exact .of_ends agree (same ▸ registers) ends
    (Event.run_loaded standing wrong.placed wrong.framesApart) alive

/-- A hooked write jumps, if at all, with its registers loaded. -/
theorem hookedWrite_loaded {env : Env} {hook : Option WriteHook} {target : Address}
    {bytes : List Byte}
    : Keeps (fun _ => True) Loaded (hookedWrite env hook target bytes) := by
  have write : Keeps (fun _ => True) Loaded (programWrite env.kernel target bytes) :=
    keeps_ite (fun _ => keeps_modify fun _ _ => True.intro)
      (fun _ => keeps_throw fun _ _ => .other (by decide))
  cases hook with
  | none => exact write
  | some hook =>
      refine keeps_bind ?_ (fun _ => write)
      cases hook with
      | store => exact @Action.run_loaded env (.store target) (fun interrupts => interrupts)
      | memcpy size =>
          exact @Action.run_loaded env (.memcpy target size) (fun interrupts => interrupts)

-----------------------------------------------------------------------------------------
-- Opening and background
-----------------------------------------------------------------------------------------

/-- Where a branch opens, the process is at the branch. -/
theorem AtBranch.opened {env : Env} {region : Region env.kernel} {start : Memory} {kept : Kept}
    {s t : Rt} (opened : s.OpenedOver region cpu returnAddress start kept t)
    (rests : s.AtRest region mem)
    : AtBranch region mem cpu returnAddress ⟨t, .running⟩ :=
  .episode (opened.agree.trans rests.agree) opened.registers opened.inv.holds.inSpec
    ⟨opened.inv.consistent, fun _ => opened.inv, fun faulted => by contradiction⟩

/-- A refused checkpoint leaves a process behind the saved registers. -/
theorem AtBranch.refused {s : Rt} {cpu' : PtRegs} (rests : s.AtRest region mem)
    (registers : Preserves cpu' (behindCalls cpu returnAddress))
    : AtBranch region mem cpu returnAddress ⟨{ s with cpu := cpu' }, .running⟩ := by
  have coherent : Coherent kernel { s with cpu := cpu' } :=
    rests.coherent.congr rfl rfl rfl rfl rfl (fun _ clear => clear)
  exact .behind rfl ⟨coherent, rests.consistent.congr rfl, rests.idle,
    rests.rested.congr rfl rfl, rests.agree⟩ registers

/-- An episode that is lost before it has its frame. -/
theorem AtBranch.lost {e : Exit} {t : Rt} (lost : LostEpisode kernel e t)
    (alive : (Machine.after (.error e t)).phase ≠ .stopped)
    : AtBranch region mem cpu returnAddress (.after (.error e t)) := by
  cases e with
  | resumed => exact absurd rfl lost.away
  | fault isWrite =>
      obtain ⟨coherent, inSpec, failed⟩ := lost.fault isWrite rfl
      refine @AtBranch.episode _ _ _ _ _ _ mem ⟨t.stack, behindCalls cpu returnAddress⟩
        (fun _ _ => rfl) (fun _ _ => rfl) inSpec ⟨lost.consistent, ?_, fun _ => ?_⟩
      · exact fun running => by contradiction
      · exact ⟨coherent, lost.consistent, fun _ none => absurd none failed,
          fun idle => absurd (inSpec.symm.trans idle) (by decide)⟩
  | panicked reason => exact absurd rfl alive
  | outOfBounds table => exact absurd rfl alive
  | stackOverflow => exact absurd rfl alive
  | diverged => exact absurd rfl alive

/-- The rider of a region outside speculation admits what goes on in the background. -/
theorem Event.Background.admitted {event : Event} {s : Rt} (h : event.Background own region)
    : event.Admitted kernel (Rider.untouched region mem) s where
  placed := h.placed
  spares := True.intro
  action := by
    have off := h.off
    have closed := h.closed
    have interrupt {regs frameaddr : Address} {restartType : RestartType}
        (off : ∀ b, region.holds b → ¬Within regs sizeofPtregs b)
        : AdmitsInterrupt (event.env kernel) (Rider.untouched region mem) regs frameaddr
            restartType s := by
      refine ⟨fun t mem frame b holds => frame b (off b holds), fun _ => True.intro,
        fun _ => True.intro, fun _ no => no.elim⟩
    cases same : event.action with
    | timer leaving regs frameaddr interrupted =>
        rw [same] at off
        exact interrupt off
    | exception regs frameaddr interrupted exceptionType =>
        rw [same] at off
        exact interrupt off
    | branch saveFrames leaveFrames inInterrupt frameaddress rsp cpu returnAddress =>
        rw [same] at closed
        exact absurd True.intro closed
    | saveStack irqFlags frameaddress rsp => exact fun _ => True.intro
    | saveRegisters cpu returnAddress token => exact fun _ => True.intro
    | write target bytes =>
        rw [same] at off
        exact fun b holds => writeBytes_outside (off b holds)
    | report call => exact fun _ => True.intro
    | _ => exact True.intro

/-- Outside speculation the background leaves a region as it is. -/
theorem Rt.AtRest.background {m next : Machine} {event : Event} (rests : m.rt.AtRest region mem)
    (allowed : event.Background own region) (steps : m.step kernel event = some next)
    (alive : next.phase ≠ .stopped)
    : next.rt.AtRest region mem := by
  have untouched : m.rt.Untouched region mem := fun _ => ⟨rests.agree, rests.rested⟩
  have standing : Standing kernel (Rider.untouched region mem) m.rt :=
    ⟨rests.coherent, rests.consistent, fun _ => True.intro, fun _ => untouched⟩
  have inv : MachineInv kernel (Rider.untouched region mem) m :=
    ⟨rests.consistent, fun _ => ⟨rests.coherent, rests.consistent, untouched⟩,
      fun _ => standing⟩
  obtain ⟨enabled, rfl⟩ := Machine.step_eq steps
  have ends := (inv.run_keeps allowed.admitted enabled).and
    (@Action.run_rests (event.env kernel) event.action allowed.closed m.rt rests.idle)
  unfold Event.run at alive ⊢
  unfold Event.run at ends
  cases result : event.action.run (event.env kernel) m.rt with
  | ok _ t =>
      obtain ⟨inv, idle⟩ := ends.of_ok result
      obtain ⟨agree, rested⟩ := inv.holds idle
      exact ⟨inv.coherent, inv.consistent, idle, rested, agree⟩
  | error e t =>
      obtain ⟨exit, idle, away⟩ := ends.of_error result
      rw [result] at alive
      cases e with
      | resumed => exact absurd rfl away
      | fault isWrite =>
          obtain ⟨coherent, _, holds⟩ := exit.2.2.1 isWrite rfl
          obtain ⟨agree, rested⟩ := holds idle idle
          exact ⟨coherent, exit.1, idle, rested, agree⟩
      | panicked reason => exact absurd rfl alive
      | outOfBounds table => exact absurd rfl alive
      | stackOverflow => exact absurd rfl alive
      | diverged => exact absurd rfl alive

-----------------------------------------------------------------------------------------
-- Simulation
-----------------------------------------------------------------------------------------

/-- What is at rest over a region is at rest over a part of it. -/
theorem Rt.AtRest.part {part : Region kernel} {s : Rt} (rests : s.AtRest region mem)
    (inside : ∀ b, part.holds b → region.holds b)
    : s.AtRest part mem :=
  { rests with agree := fun b holds => rests.agree b (inside b holds) }

/-- Outside speculation a write of the program is that of the plain program. -/
theorem Rt.AtRest.writes {part : Region kernel} {frames : Frames} {task : Task}
    {hook : Option WriteHook} {target : Address} {bytes : List Byte} {s : Rt}
    (rests : s.AtRest region mem)
    (offFlag : ¬Within target bytes.length kernel.swapBranchCondition)
    (inside : ∀ b, part.holds b → region.holds b ∨ Within target bytes.length b)
    : Ends (hookedWrite ⟨kernel, frames, task⟩ hook target bytes)
        (fun _ t =>
          (∀ i : Fin bytes.length, kernel.writable (target + BitVec.ofNat 64 i) = true)
          ∧ t.AtRest part (writeBytes mem target bytes))
        (fun e t => e = .fault true ∧ t = s) s := by
  rw [hookedWrite_disabled rests.disabled, programWrite, ends_ite]
  refine ⟨fun writable => ⟨writable, ?_⟩, fun _ => ⟨rfl, rfl⟩⟩
  refine ⟨?_, rests.consistent.congr rfl, rests.idle, rests.rested.congr rfl rfl, ?_⟩
  · refine rests.coherent.congr rfl rfl rfl rfl rfl (fun _ clear => ?_)
    exact (writeBytes_outside offFlag).trans clear
  · intro b holds
    by_cases within : Within target bytes.length b
    · have byte : (b - target).toNat < bytes.length := within
      simp only [writeBytes, List.getD_eq_getElem?_getD, List.getElem?_eq_getElem byte,
        Option.getD_some]
    · simp only [writeBytes_outside within]
      exact rests.agree b ((inside b holds).resolve_right within)

section
variable {P : Program kernel} {p p' : Process} {q : PlainState} {label : Label}

/-- A silent step leaves the plain program where it is. -/
theorem Process.Step.silent (related : Related P p q) (step : p.Step P none p')
    : Related P p' q := by
  generalize shown : none = visible at step
  intro alive
  cases step with
  | compute | write | finishes => contradiction
  | @writeFails m regs regs' hook target bytes frames task e t running idle next fails =>
      obtain ⟨rfl, rests⟩ := related (by rw [running]; decide)
      rw [P.next_reads _ _ _ rests.agree] at next
      obtain ⟨rfl, rfl⟩ :=
        (rests.writes (P.write_offFlag _ _ _ _ _ _ next) (fun _ holds => Or.inl holds)
          ).of_error fails
      exact ⟨rfl, rests⟩
  | @opens m regs cpu returnAddress token frames saveFrames task inInterrupt frameaddress rsp t
      running idle next placed _ opened =>
      obtain ⟨rfl, rests⟩ := related (by rw [running]; decide)
      rw [P.next_reads _ _ _ rests.agree] at next
      have opens := (@openBranch_undoable cpu returnAddress ⟨kernel, frames, task⟩ m.rt
        (P.live q.regs) saveFrames inInterrupt frameaddress rsp placed rests.coherent
        rests.consistent rests.idle rests.rested).of_ok opened
      refine ⟨rfl, cpu, returnAddress, next, ?_⟩
      rcases opens with ⟨_, _, rfl, registers⟩ | ⟨start, kept, opened⟩
      · exact .refused rests registers
      · exact @AtBranch.opened q.mem _ _ ⟨kernel, frames, task⟩ _ _ _ _ _ opened rests
  | @openFails m regs cpu returnAddress token frames saveFrames task inInterrupt frameaddress rsp
      e t running idle next placed _ fails =>
      obtain ⟨rfl, rests⟩ := related (by rw [running]; decide)
      rw [P.next_reads _ _ _ rests.agree] at next
      have lost := (@openBranch_undoable cpu returnAddress ⟨kernel, frames, task⟩ m.rt
        (P.live q.regs) saveFrames inInterrupt frameaddress rsp placed rests.coherent
        rests.consistent rests.idle rests.rested).of_error fails
      exact ⟨rfl, cpu, returnAddress, next, .lost lost alive⟩
  | @finishFails m regs token frames task e t running idle fails =>
      obtain ⟨rfl, cpu, returnAddress, next, branch⟩ := related (by rw [running]; decide)
      cases branch with
      | episode _ _ inSpec _ => exact absurd (inSpec.symm.trans idle) (by decide)
      | behind _ rests _ =>
          have final : e.Final := (Program.finishBranch_rests rests token).of_error fails
          cases e with
          | resumed | fault => exact final.elim
          | panicked reason => exact absurd rfl alive
          | outOfBounds table => exact absurd rfl alive
          | stackOverflow => exact absurd rfl alive
          | diverged => exact absurd rfl alive
  | @wrongEvent m next regs token event inSpec wrong steps =>
      obtain ⟨rfl, cpu, returnAddress, next, branch⟩ := related (Machine.alive_of_step steps)
      refine ⟨rfl, cpu, returnAddress, next, ?_⟩
      cases branch with
      | episode agree registers _ inv =>
          exact .event agree registers inSpec inv wrong steps alive
      | behind _ rests _ => exact absurd (inSpec.symm.trans rests.idle) (by decide)
  | @wrongWrite m regs token hook target bytes frames task running inSpec placed _ spared
      covered =>
      obtain ⟨rfl, cpu, returnAddress, next, branch⟩ := related (by rw [running]; decide)
      refine ⟨rfl, cpu, returnAddress, next, ?_⟩
      cases branch with
      | episode agree registers _ inv =>
          have inv := inv.running running
          have stack := inv.holds.stack
          refine .of_ends agree registers ?_ (hookedWrite_loaded m.rt True.intro) alive
          exact @hookedWrite_undoable ⟨kernel, frames, task⟩ m.rt _ _ _ hook target bytes
            (Region.Spared.admitted (stack ▸ spared)) placed (stack ▸ covered) inv
      | behind _ rests _ => exact absurd (inSpec.symm.trans rests.idle) (by decide)
  | @wrongSelect m regs token condition taken t running inSpec selected =>
      obtain ⟨rfl, cpu, returnAddress, next, branch⟩ := related (by rw [running]; decide)
      refine ⟨rfl, cpu, returnAddress, next, ?_⟩
      cases branch with
      | episode agree registers _ inv =>
          have inv := (branchSelect_undoable (inv.running running)).of_ok selected
          exact .episode agree registers inv.holds.inSpec
            ⟨inv.consistent, fun _ => inv, fun faulted => by contradiction⟩
      | behind _ rests _ => exact absurd (inSpec.symm.trans rests.idle) (by decide)
  | background idle allowed steps =>
      obtain ⟨rfl, rests⟩ := related (Machine.alive_of_step steps)
      exact ⟨rfl, rests.background allowed steps alive⟩

/-- A visible step is the plain program's next. -/
theorem Process.Step.visible (related : Related P p q) (step : p.Step P (some label) p')
    : ∃ q', P.plainStep q = some (label, q') ∧ Related P p' q' := by
  generalize shown : some label = visible at step
  cases step with
  | writeFails | opens | openFails | finishFails | wrongEvent | wrongWrite | wrongSelect
  | background => contradiction
  | @compute m regs regs' running idle next =>
      obtain rfl := Option.some.inj shown
      obtain ⟨rfl, rests⟩ := related (by rw [running]; decide)
      rw [P.next_reads _ _ _ rests.agree] at next
      refine ⟨⟨regs', q.mem⟩, by rw [Program.plainStep, next], fun _ => ⟨rfl, ?_⟩⟩
      exact rests.part (P.live_compute _ _ _ next)
  | @write m regs regs' hook target bytes frames task t running idle next written =>
      obtain rfl := Option.some.inj shown
      obtain ⟨rfl, rests⟩ := related (by rw [running]; decide)
      rw [P.next_reads _ _ _ rests.agree] at next
      obtain ⟨writable, rests⟩ :=
        (rests.writes (P.write_offFlag _ _ _ _ _ _ next) (P.live_write _ _ _ _ _ _ next)
          ).of_ok written
      refine ⟨⟨regs', writeBytes q.mem target bytes⟩, ?_, fun _ => ⟨rfl, rests⟩⟩
      simp only [Program.plainStep, next, if_pos writable]
  | @finishes m regs token frames task taken t running idle finished =>
      obtain rfl := Option.some.inj shown
      obtain ⟨rfl, cpu, returnAddress, next, branch⟩ := related (by rw [running]; decide)
      cases branch with
      | episode _ _ inSpec _ => exact absurd (inSpec.symm.trans idle) (by decide)
      | behind _ rests registers =>
          obtain ⟨rests, mem', agree, rfl⟩ :=
            (Program.finishBranch_rests rests token).of_ok finished
          rw [P.condition_reads _ _ _ _ _ _ _ next registers agree,
            P.target_preserves _ _ _ _ _ _ next registers]
          refine ⟨⟨_, q.mem⟩, by rw [Program.plainStep, next], fun _ => ⟨rfl, ?_⟩⟩
          exact rests.part (P.live_branch _ _ _ _ _ next)

theorem process_simulates (P : Program kernel)
    : Simulates (Process.Step P) P.plainStep (Related P) where
  silent := fun _ _ _ related step => step.silent related
  visible := fun _ _ _ _ related step => step.visible related

end

-----------------------------------------------------------------------------------------
-- Runs
-----------------------------------------------------------------------------------------

def Control.regs : Control → PtRegs
  | .program regs => regs
  | .branching regs _ => regs

/-- The process stands where the plain program does, and outside speculation it has the
bytes that the plain program may still read.
-/
structure Process.Matches (P : Program kernel) (p : Process) (q : PlainState) : Prop where
  regs : p.control.regs = q.regs
  memory
    : p.machine.rt.inSpeculativeEmulation = false
      → (P.live q.regs).Agree p.machine.rt.mem q.mem

theorem Related.matches {P : Program kernel} {p : Process} {q : PlainState}
    (related : Related P p q) (alive : p.machine.phase ≠ .stopped)
    : p.Matches P q := by
  obtain ⟨m, control⟩ := p
  have related := related alive
  cases control with
  | program regs =>
      obtain ⟨rfl, rests⟩ := related
      exact ⟨rfl, fun _ => rests.agree⟩
  | branching regs token =>
      obtain ⟨rfl, cpu, returnAddress, _, branch⟩ := related
      refine ⟨rfl, fun idle => ?_⟩
      cases branch with
      | episode _ _ inSpec _ => exact absurd (inSpec.symm.trans idle) (by decide)
      | behind _ rests _ => exact rests.agree

/-- From every reachable machine outside speculation, for every program that goes by its live
bytes and preserved registers: through any number of episodes, with any hooks, interrupts,
faults and covered writes on their wrong paths that keep off the runtime's variables, the
writes and branches that an instrumented run shows are those of a run without the inserted
calls, in order, and while the kernel has not stopped it stands where that run does, with the
same bytes to read.
-/
theorem speculation_transparent {P : Program kernel} {m : Machine} {regs : PtRegs}
    {labels : List Label} {p : Process} (reached : Reached kernel m)
    (running : m.phase = .running) (idle : m.rt.inSpeculativeEmulation = false)
    (run : Trace (Process.Step P) ⟨m, .program regs⟩ labels p)
    : ∃ q,
        Path P.plainStep ⟨regs, m.rt.mem⟩ labels q
        ∧ (p.machine.phase ≠ .stopped → p.Matches P q) := by
  have inv := reached.inv.running running
  have start : Related P ⟨m, .program regs⟩ ⟨regs, m.rt.mem⟩ := fun _ =>
    ⟨rfl, inv.coherent, inv.consistent, idle, reached.rested running idle, fun _ _ => rfl⟩
  obtain ⟨q, path, related⟩ := (process_simulates P).path start run
  exact ⟨q, path, related.matches⟩

theorem sampleWord {b : Address} (within : Within 0x600000 8 b) : wordOf b = 0x600000 :=
  (within_word_iff (by decide) b).mp within

theorem sampleWord_off {b w : Address} (within : Within 0x600000 8 b) (other : 0x600000 ≠ w)
    : wordOf b ≠ w :=
  fun same => other ((sampleWord within).symm.trans same)

theorem sampleWord_offOwn {b : Address} (within : Within 0x600000 8 b)
    : ¬Within sampleKernel.swapBranchCondition 4 b
      ∧ wordOf b ≠ sampleKernel.nmiCount
      ∧ wordOf b ≠ sampleKernel.wlPosition
      ∧ wordOf b ≠ sampleKernel.writelogEnabled := by
  refine ⟨fun inside => ?_, sampleWord_off within (by decide), sampleWord_off within (by decide),
    sampleWord_off within (by decide)⟩
  simp only [Within, sampleKernel] at within inside
  bv_omega

/-- One word the sample program relies on. -/
def sampleRegion : Region sampleKernel where
  holds := fun b => Within 0x600000 8 b
  offFlag := fun _ within => (sampleWord_offOwn within).1
  offCounter := fun _ within => (sampleWord_offOwn within).2.1
  offPosition := fun _ within => (sampleWord_offOwn within).2.2.1
  offEnabled := fun _ within => (sampleWord_offOwn within).2.2.2

/-- The sample kernel has the variables of its runtime in one block. -/
def sampleVariables : RuntimeVariables sampleKernel where
  holds := Within 0x8010 0x400
  position := fun _ within => within_inside within (by decide) (by decide)
  enabled := fun _ within => within_inside within (by decide) (by decide)
  addrs := fun _ within => within_inside within (by decide) (by decide)
  data := fun _ within => within_inside within (by decide) (by decide)
  registers := fun _ within => within_inside within (by decide) (by decide)

/-- A block of memory beside the variables. -/
theorem sampleVariables_apart {start : Address} {length : Nat} (above : 0x8410 ≤ start.toNat)
    (below : start.toNat + length < 2 ^ 64)
    : sampleVariables.Apart (Within start length) := by
  intro b held within
  simp only [sampleVariables, Within] at held within
  bv_omega

/-- So is the word a store at one address of it saves. -/
theorem sampleVariables_spared
    : sampleVariables.Spared (some .store) 0x600000 1 where
  written := sampleVariables_apart (by decide) (by decide)
  saved := by
    rintro _ ⟨⟩ b held (word | ⟨unaligned, _⟩)
    · have within : Within 0x600000 8 b := (within_word_iff (by decide) b).mpr word
      exact sampleVariables_apart (by decide) (by decide) b held within
    · exact unaligned (by decide)

/-- The preserved registers at a program counter. -/
def sampleRegs (regs : PtRegs) (rip : Word) : PtRegs :=
  fun slot => if slot ∈ preservedSlots then regs.put .rip rip slot else 0

/-- A program that stores a byte and branches on it. -/
def sampleCode : Program sampleKernel where
  next := fun regs _ =>
    if regs .rip = 0x400300 then
      .write (some .store) 0x600000 [1] (sampleRegs regs 0x400304)
    else if regs .rip = 0x400304 then
      .branch regs 0x400200
    else
      .compute regs
  condition := fun _ mem => .value (mem 0x600000 == 1)
  target := fun regs taken => sampleRegs regs (if taken then 0x400400 else 0x400308)
  live := fun _ => sampleRegion
  own := sampleVariables
  live_offVariables := fun _ => sampleVariables_apart (by decide) (by decide)
  next_reads := fun _ _ _ _ => rfl
  live_compute := fun _ _ _ _ _ holds => holds
  live_write := fun _ _ _ _ _ _ _ _ holds => Or.inl holds
  write_offFlag := by
    intro regs _ hook target bytes regs' next
    split_ifs at next
    cases next
    decide
  write_offVariables := by
    intro regs _ hook target bytes regs' next
    split_ifs at next
    cases next
    exact sampleVariables_spared.written
  live_branch := fun _ _ _ _ _ _ _ holds => holds
  condition_reads := by
    intro _ _ _ _ _ mem other _ _ agree
    have within : Within 0x600000 8 0x600000 := by decide
    have byte : mem 0x600000 = other 0x600000 := agree 0x600000 within
    rw [byte]
  target_preserves := by
    intro _ _ _ _ after taken _ preserves
    funext slot
    by_cases member : slot ∈ preservedSlots
    · simp only [sampleRegs, if_pos member, PtRegs.put]
      split
      · rfl
      · exact preserves slot member
    · simp only [sampleRegs, if_neg member]

/-- The machine after what the sample kernel did, however it ended. -/
def Machine.does {α : Type} (m : Machine) (c : RtM α) : Machine :=
  .after ((c >>= fun _ => pure ()) m.rt)

/-- The registers of the sample program before its store, and before its branch. -/
def sampleEntry : PtRegs := sampleRegs (fun _ => 0) 0x400300

def sampleTest : PtRegs := sampleRegs sampleEntry 0x400304

/-- The sample program has stored its byte. -/
def sampleByteStored : Machine :=
  sampleMachine.does (hookedWrite sampleEnv (some .store) 0x600000 [1])

/-- Its branch has opened an episode. -/
def sampleMispredicted : Machine :=
  sampleByteStored.does (openBranch sampleEnv sampleEnv false 0x70200 0x70100 sampleTest 0x400200)

/-- The episode has taken the wrong branch. -/
def sampleWrong : Machine :=
  machineAfter [sampleEvent (.leaveRt (irqFlags true))] sampleMispredicted
  |>.does (branchSelect sampleKernel (.value true))

/-- It has stored another byte. -/
def sampleOverwritten : Machine :=
  sampleWrong.does (hookedWrite sampleEnv (some .store) 0x600000 [7])

/-- A blacklisted call has ended the episode. -/
def sampleReturned : Machine :=
  machineAfter [sampleEvent (.restart .restartBlacklist 0x400700)] sampleOverwritten

/-- The branch has been taken. -/
def sampleFinished : Machine :=
  sampleReturned.does (sampleCode.finishBranch sampleFrames sampleEnv.task (irqFlags true))

theorem sampleRegion_spared {stack : StackLog} {skip : Address → Bool}
    (spared : skip 0x600000 = false)
    : sampleRegion.Spared stack skip := by
  intro b holds _
  rw [sampleWord holds]
  exact spared

theorem sampleRegion_covered {stack : StackLog} {length : Nat}
    : sampleRegion.Covered stack (some .store) 0x600000 length := by
  intro b holds _ _
  refine ⟨.store, rfl, ?_⟩
  rw [sampleWord holds]
  exact ⟨Or.inl rfl, by decide⟩

theorem speculation_transparent_sample
    : ∃ q,
        Path sampleCode.plainStep ⟨sampleEntry, sampleRt.mem⟩
          [.write 0x600000 [1], .branch true] q
        ∧ (sampleFinished.phase ≠ .stopped
          → Process.Matches sampleCode
              ⟨sampleFinished, .program (sampleRegs sampleReturned.rt.cpu 0x400400)⟩ q) := by
  refine @speculation_transparent sampleKernel sampleCode sampleMachine sampleEntry
    [.write 0x600000 [1], .branch true]
    ⟨sampleFinished, .program (sampleRegs sampleReturned.rt.cpu 0x400400)⟩ sampleReached rfl
    rfl ?_
  have stored
      : Trace (Process.Step sampleCode) ⟨sampleMachine, .program sampleEntry⟩
          [.write 0x600000 [1]] ⟨sampleByteStored, .program sampleTest⟩ :=
    @Trace.visible _ _ _ _ [] _ _ _ .refl
      (@Process.Step.write _ sampleCode sampleMachine _ _ (some .store) 0x600000 [1]
        sampleFrames sampleEnv.task sampleByteStored.rt rfl rfl rfl rfl)
  have opened := stored.silent
    (@Process.Step.opens _ sampleCode sampleByteStored _ _ 0x400200 (irqFlags true) sampleFrames
      sampleFrames sampleEnv.task false 0x70200 0x70100 sampleMispredicted.rt rfl rfl rfl
      (by decide) (sampleVariables_apart (by decide) (by decide)) rfl)
  have left := opened.silent
    (@Process.Step.wrongEvent _ sampleCode sampleMispredicted _ _ _
      (sampleEvent (.leaveRt (irqFlags true))) rfl
      ⟨trivial, trivial, sampleRegion_spared rfl, trivial⟩ (if_pos trivial))
  have selected := left.silent
    (@Process.Step.wrongSelect _ sampleCode _ _ _ (.value true) false sampleWrong.rt rfl rfl rfl)
  have overwritten := selected.silent
    (@Process.Step.wrongWrite _ sampleCode sampleWrong _ _ (some .store) 0x600000 [7]
      sampleFrames sampleEnv.task rfl rfl (fun _ stored => by cases stored)
      sampleVariables_spared (sampleRegion_spared rfl) sampleRegion_covered)
  have returned := overwritten.silent
    (@Process.Step.wrongEvent _ sampleCode sampleOverwritten _ _ _
      (sampleEvent (.restart .restartBlacklist 0x400700)) rfl
      ⟨trivial, trivial, sampleRegion_spared rfl, trivial⟩ (if_pos trivial))
  exact returned.visible
    (@Process.Step.finishes _ sampleCode sampleReturned _ _ sampleFrames sampleEnv.task true
      sampleFinished.rt rfl rfl rfl)

end Kasper
