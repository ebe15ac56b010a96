import Kasper.Correctness.ExitKinds
import Kasper.Correctness.StateMachine

/-! `kspecem_is_in_restart` outside `kspecem_restart`, and what a failed assertion does.
Only a nested return leaves the flag set; without one a failure is the end of its run.
-/

namespace Kasper

open ByteMemory Exits

/-- No assertion has failed, and no restart is under way. -/
structure Clean (s : Rt) : Prop where
  isInRestart : s.isInRestart = false
  asserted : s.asserted = []
  specAssert : s.specAssert = none

/-- The restart that counts a frame off. -/
def CountsOff (restartType : RestartType) (s : Rt) : Prop :=
  s.inSpeculativeEmulation = true ∧ NestedReturn restartType s

theorem Clean.congr {s t : Rt} (h : Clean s) (isInRestart : t.isInRestart = s.isInRestart)
    (asserted : t.asserted = s.asserted) (specAssert : t.specAssert = s.specAssert)
    : Clean t :=
  ⟨isInRestart.trans h.isInRestart, asserted.trans h.asserted, specAssert.trans h.specAssert⟩

/-- Inside a restart no state is clean. -/
theorem Clean.not_inRestart {s : Rt} (h : Clean s) (inRestart : s.isInRestart = true) : False :=
  absurd (inRestart.symm.trans h.isInRestart) (by decide)

/-- The rider of clean states: an episode can be rolled back with a failure recorded, but
it then ends in a panic.
-/
def Rider.clean (kernel : Kernel) : Rider kernel where
  holds := Clean
  rolls := fun s => s.specAssert = none → s.asserted = []
  landed := Clean
  resumed := Clean
  replay := fun _ _ _ => True
  admits := fun restartType s => ¬CountsOff restartType s
  spares := fun _ => True
  admitsBlock := fun _ => True
  admitsDepth := True
  admitsFrame := fun _ _ => True
  admitsRegisters := fun _ => True
  admitsBug := fun _ => True
  admitsMemory := fun _ _ => True
  readsFrames := False
  ended := fun _ => True
  section_ := fun _ _ _ clean => clean.congr rfl rfl rfl
  counters := fun _ _ clean => clean.congr rfl rfl rfl
  metered := fun _ _ clean _ _ => clean.congr rfl rfl rfl
  failed := fun _ _ clean _ inRestart => (clean.not_inRestart inRestart).elim
  appended := fun _ _ _ _ clean _ _ _ => clean.congr rfl rfl rfl
  scratched := fun _ _ clean _ _ => clean.asserted
  counted := fun _ _ _ clean _ => clean.congr rfl rfl rfl
  redepth := fun _ _ clean _ _ => clean.congr rfl rfl rfl
  checkpointed := fun _ _ _ clean _ => clean.congr rfl rfl rfl
  framed := fun _ _ _ _ clean _ => clean.congr rfl rfl rfl
  registered := fun _ _ _ clean _ => clean.congr rfl rfl rfl
  cpu := fun _ _ clean => clean.congr rfl rfl rfl
  written := fun _ _ clean _ => clean.congr rfl rfl rfl
  clobbered := fun _ _ _ clean _ _ _ => clean.congr rfl rfl rfl
  reported := fun _ _ clean _ _ _ _ => clean.congr rfl rfl rfl
  printed := fun _ _ _ clean _ _ _ _ => clean.congr rfl rfl rfl
  admits_busy := fun _ _ _ busy admitted counts =>
    admitted ⟨busy.inSpec.symm.trans counts.1, busy.nested counts.2⟩
  admits_flush := fun _ _ _ other counts => other counts.2.2.1
  nested := fun _ _ _ _ inSpec admitted nested => absurd ⟨inSpec, nested⟩ admitted
  rolls_of_holds := fun _ clean _ _ => clean.asserted
  doomed := fun _ _ _ _ failed _ _ passed => absurd passed failed
  rolls_written := fun _ _ _ rolls => fun _ => rolls
  starts := fun _ _ => True.intro
  rules := fun s skip _ _ => .vacuous _ skip s
  stopped := by
    intro s stats k u rolls _ replaying passed
    obtain ⟨none, same⟩ := replaying.kept passed
    exact same.trans (rolls none)
  rolledBack := by
    intro s stats restartType u t _ rolls _ _ replayed passed landed
    obtain ⟨none, same⟩ := replayed.kept passed
    rw [landed.frame]
    exact ⟨rfl, same.trans (rolls none), passed⟩
  jumped := fun _ clean => clean.congr rfl rfl rfl
  returned := fun _ _ clean _ => clean.congr rfl rfl rfl
  ended_holds := fun _ _ => True.intro
  ended_rolls := fun _ _ => True.intro
  ended_landed := fun _ _ => True.intro
  ended_rolled := fun _ _ _ _ _ _ => True.intro
  ended_printed := fun _ _ _ _ _ _ _ _ => True.intro

/-- The event is a restart of type `RETURN` that only counts a frame off. -/
def Event.CountsOff (event : Event) (s : Rt) : Prop :=
  ∃ restartType callArg,
    event.action = .restart restartType callArg ∧ Kasper.CountsOff restartType s

theorem Rider.clean_lenient (kernel : Kernel)
    : (Rider.clean kernel).Lenient where
  spares := fun _ => True.intro
  frame := fun _ _ => True.intro
  memory := fun _ _ => True.intro
  frames := id

/-- The rider of clean states admits every event that does not count a frame off. -/
theorem Rider.clean_admitted {kernel : Kernel} {s : Rt} {event : Event}
    (placed : event.action.Placed kernel) (other : ¬event.CountsOff s)
    : event.Admitted kernel (Rider.clean kernel) s :=
  (Rider.clean_lenient kernel).admitted {
    placed
    block := fun _ _ => True.intro
    depth := fun _ => True.intro
    restarts := fun restartType ends counts => by
      obtain ⟨callArg, action⟩ := Action.endsBy_return (counts.2.2.1 ▸ ends)
      exact other ⟨restartType, callArg, counts.2.2.1 ▸ action, counts⟩
    registers := fun _ _ => True.intro
    bug := fun _ _ _ => True.intro }

/-- What a failed assertion ends in: the kernel stops, or a fault leaves the episode to the
exception handler with a failure on record.
-/
def Exit.EndsFailure (e : Exit) (t : Rt) : Prop :=
  e.Final ∧ e ≠ .diverged
  ∨ (∃ isWrite, e = .fault isWrite)
    ∧ t.inSpeculativeEmulation = true
    ∧ t.specAssert ≠ none

/-- In every coherent state in speculation outside a restart, a failed assertion rolls back
or stops the kernel: it never returns, and never gets back to the checkpoint.
-/
def FailuresStop (kernel : Kernel) : Prop :=
  ∀ (env : Env) (failed : SpecAssert) (s : Rt),
    env.kernel = kernel
    → Coherent kernel s
    → s.Consistent
    → ¬failed.OfStateMachine
    → s.inSpeculativeEmulation = true
    → s.isInRestart = false
    → Ends (env.onFail failed) (fun _ _ => False) (fun e t => e ≠ .resumed ∧ e.EndsFailure t) s

theorem failuresStop (kernel : Kernel) : FailuresStop kernel := by
  rintro env failed s rfl coherent consistent other inSpec restarts
  have ends : LeavesBy (fun e => e ≠ .diverged) (env.onFail failed) :=
    onFail_leavesBy (fun _ exit => exit.2) (fun _ _ _ => Or.inr (by simp)) failed
  refine ((env.handler.rollsBack failed s coherent consistent other inSpec restarts).and
    (ends s True.intro)).imp (fun _ _ no => no.1) ?_
  rintro e t ⟨doomed, ends⟩
  refine ⟨doomed.away, ?_⟩
  cases e with
  | resumed => exact absurd rfl doomed.away
  | fault isWrite =>
      obtain ⟨_, speculates, failed, _, _⟩ := doomed.fault isWrite rfl
      exact Or.inr ⟨⟨isWrite, rfl⟩, speculates, failed⟩
  | panicked reason => exact Or.inl ⟨True.intro, ends⟩
  | outOfBounds table => exact Or.inl ⟨True.intro, ends⟩
  | stackOverflow => exact Or.inl ⟨True.intro, ends⟩
  | diverged => exact absurd rfl ends

/-- In every run without a nested return the flag is clear wherever no hook runs, and no
assertion has failed where the kernel still runs: a failure in speculation outside a
restart stops the kernel, or leaves it at a fault with the failure on record.
-/
theorem restartFlag_accurate {env : Env} {heap : Heap} {switches : Switches} {mem : Memory}
    {cpu : PtRegs} {irqsEnabled : Bool} {s : Rt} {m : Machine}
    (fits : heap.writelogAddrs.toNat + writelogBytes < 2 ^ 64)
    (booted
      : commonLateInit env env.onFail heap (Rt.static switches mem cpu irqsEnabled)
        = .ok () s)
    (run
      : Run env.kernel
          (fun event m => event.action.Placed env.kernel ∧ ¬event.CountsOff m.rt)
          ⟨s, .running⟩ m)
    : (m.phase = .running → m.rt.isInRestart = false ∧ m.rt.asserted = [])
      ∧ m.rt.Consistent
      ∧ FailuresStop env.kernel := by
  have booted : Booted env.kernel switches s := (commonLateInit_booted fits).of_ok booted
  have clean : Clean s := ⟨booted.isInRestart, booted.asserted, booted.specAssert⟩
  have inv := run.inv (X := Rider.clean env.kernel) (booted.machineInv clean)
    (fun _ _ allowed _ => Rider.clean_admitted allowed.1 allowed.2)
    (fun _ _ _ resumed => resumed)
  refine ⟨fun phase => ?_, inv.consistent, failuresStop env.kernel⟩
  have clean := (inv.running phase).holds
  exact ⟨clean.isInRestart, clean.asserted⟩

/-- The sample branch, a call, and a restart that ends the episode in the callee. -/
def sampleCall : Machine :=
  machineAfter
    [sampleBranch, sampleEvent .checkCallDepth, sampleEvent (.restart .restartCall 0)]
    sampleMachine

theorem restartFlag_accurate_sample
    : (sampleCall.phase = .running
        → sampleCall.rt.isInRestart = false ∧ sampleCall.rt.asserted = [])
      ∧ sampleCall.rt.Consistent
      ∧ FailuresStop sampleKernel := by
  refine @restartFlag_accurate sampleEnv sampleHeap sampleSwitches (fun _ => 0) (fun _ => 0)
    true _ _ (by decide) sampleRt_booted ?_
  refine ((Run.refl.after sampleBranch ?_ ?_).after (sampleEvent .checkCallDepth) ?_ ?_).after
    (sampleEvent (.restart .restartCall 0)) ?_ ?_
  · refine ⟨(by decide : ¬Within 0x70100 0x100 sampleKernel.swapBranchCondition), ?_⟩
    rintro ⟨_, _, action, _⟩
    exact Action.noConfusion action
  · decide
  · refine ⟨True.intro, ?_⟩
    rintro ⟨_, _, action, _⟩
    exact Action.noConfusion action
  · decide
  · refine ⟨True.intro, ?_⟩
    rintro ⟨restartType, _, action, _, _, returns, _⟩
    obtain rfl : .restartCall = restartType := (Action.restart.inj action).1
    exact absurd returns (by decide)
  · decide

/-- The sample branch, a call and the callee's return, which counts its frame off. -/
def sampleNested : Machine :=
  machineAfter
    [sampleBranch, sampleEvent .checkCallDepth, sampleEvent (.restart .restartReturn 0)]
    sampleMachine

/-- Then a store on the wrong path hits the write log's own addresses. -/
def sampleIgnored : Machine :=
  machineAfter [sampleEvent (.store 0x3000000)] sampleNested

/-- After a nested return the flag is set outside `kspecem_restart`, and the assertion that
the next store fails in speculation is gone past.
-/
theorem restartFlag_stale
    : Run sampleKernel (fun event _ => event.action.Placed sampleKernel) sampleMachine
        sampleIgnored
      ∧ (sampleNested.phase = .running ∧ sampleNested.rt.isInRestart = true)
      ∧ sampleIgnored.phase = .running
      ∧ sampleIgnored.rt.inSpeculativeEmulation = true
      ∧ sampleIgnored.rt.asserted
        = [⟨"kspecem_undolog.c", 93, "addr < wl_addrs_start || addr >= wl_addrs_end"⟩] := by
  refine ⟨?_, ⟨rfl, rfl⟩, rfl, rfl, rfl⟩
  refine (((Run.refl.after sampleBranch ?_ ?_).after (sampleEvent .checkCallDepth) ?_ ?_).after
    (sampleEvent (.restart .restartReturn 0)) ?_ ?_).after (sampleEvent (.store 0x3000000)) ?_ ?_
  · exact (by decide : ¬Within 0x70100 0x100 sampleKernel.swapBranchCondition)
  · decide
  · exact True.intro
  · decide
  · exact True.intro
  · decide
  · exact True.intro
  · decide

end Kasper
