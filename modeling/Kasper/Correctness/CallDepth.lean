import Kasper.Correctness.StateMachine

/-! The call depth over calls and returns of instrumented functions.
Entries count a frame where the runtime is not active, returns count one off or roll back.
-/

namespace Kasper

open ByteMemory Exits

/-- A well-bracketed sequence of calls: a call, what its callee calls, its return, and the
calls after it. Entry and return hook run with their own stack addresses.
-/
inductive CallSequence
  | done
  | call (entry : Frames) (body : CallSequence) (exit : Frames) (returnAddress : Address)
      (rest : CallSequence)

/-- The hooks of the calls, in order. -/
def CallSequence.run (env : Env) : CallSequence → RtM Unit
  | .done => pure ()
  | .call entry body exit returnAddress rest => do
      let entryEnv := { env with frames := entry }
      hookCheckCallDepth entryEnv entryEnv.onFail
      body.run env
      let exitEnv := { env with frames := exit }
      let _ ← hookRestart exitEnv exitEnv.onFail true .restartReturn returnAddress
      rest.run env

section
variable {env : Env} {s : Rt}

/-- An episode between two hooks. -/
structure Speculating (kernel : Kernel) (s : Rt) : Prop where
  inv : Inv kernel (Rider.trivial kernel) s
  inSpec : s.inSpeculativeEmulation = true

theorem Speculating.enabled (h : Speculating env.kernel s) : s.log.enabled = true :=
  h.inv.coherent.coupled.trans h.inSpec

theorem Speculating.section_ (h : Speculating env.kernel s) (isInRt : Bool)
    : Speculating env.kernel { s with isInRt } :=
  ⟨(h.inv.busy.section_ isInRt s.irqsEnabled).1, h.inSpec⟩

/-- Inside a runtime section an entry is not counted. -/
theorem hookCheckCallDepth_inRt {E : Exit → Rt → Prop} (inRt : s.isInRt = true)
    : Ends (hookCheckCallDepth env env.onFail) (fun _ t => t = s) E s := by
  simp only [hookCheckCallDepth, ends_bind, ends_get, ends_ite, ends_pure]
  exact ⟨fun _ => trivial, fun outside => absurd (Or.inr inRt) outside⟩

/-- Outside runtime sections an entry that returns has counted one frame. -/
theorem hookCheckCallDepth_counts (speculating : Speculating env.kernel s)
    (outside : s.isInRt = false)
    : Ends (hookCheckCallDepth env env.onFail)
        (fun _ t =>
          Speculating env.kernel t
          ∧ t.isInRt = false
          ∧ t.specCallDepth = s.specCallDepth + 1)
        (fun _ _ => True) s := by
  simp only [hookCheckCallDepth, ends_bind, ends_get, ends_ite, ends_pure, ends_modify]
  refine ⟨fun guarded => ?_, fun _ => ⟨fun _ => ?_, fun disabled => ?_⟩⟩
  · rcases guarded with early | inRt
    · exact absurd (speculating.inv.coherent.initDone.symm.trans early) (by decide)
    · exact absurd (outside.symm.trans inRt) (by decide)
  · refine (addSpecStatistics_stats _ _ _ _ _ s (.refl s)).imp ?_ (fun _ _ _ => trivial)
    intro _ t frame
    have counted : Speculating env.kernel t := by
      rw [frame]
      exact ⟨speculating.inv.counters t.stats, speculating.inSpec⟩
    have deeper
        : Speculating env.kernel { t with specCallDepth := t.specCallDepth + 1 } :=
      ⟨⟨counted.inv.coherent.redepth counted.inSpec _, counted.inv.consistent.congr rfl, trivial⟩,
        counted.inSpec⟩
    refine ⟨fun _ => ?_, fun _ => ⟨deeper, ?_, ?_⟩⟩
    · exact (restartSection_ends env.handler True.intro deeper.inv deeper.inSpec (by decide)
        (by decide)).imp
          (fun _ _ rolled => rolled.imp (fun _ _ kept => kept) (fun _ _ _ => trivial))
        (fun _ _ _ => trivial)
    · rw [frame]
      exact outside
    · rw [frame]
  · exact absurd speculating.enabled disabled

/-- Leaving a section leaves the runtime inactive. -/
theorem leaveKspecemRt_inactive {onFail : SpecAssert → RtM Unit} {line : Nat} {irqFlags : Word}
    {file : String}
    : Ends (leaveKspecemRt env onFail line irqFlags file) (fun _ t => t.isInRt = false)
        (fun _ _ => True) s := by
  rw [leaveKspecemRt, ends_bind, ends_get]
  refine Ends.bind (Ends.trivial _) (fun _ _ _ => Ends.bind (Ends.trivial _) (fun _ _ _ => ?_))
  refine Ends.bind (Ends.trivial _) (fun _ _ _ => ?_)
  rw [unsetRt, ends_modify]

/-- A return that returns has counted one frame off and left the runtime inactive. -/
theorem hookRestart_counts (speculating : Speculating env.kernel s) (returnAddress : Address)
    : Ends (hookRestart env env.onFail true .restartReturn returnAddress)
        (fun _ t =>
          Speculating env.kernel t
          ∧ t.isInRt = false
          ∧ 0 < s.specCallDepth
          ∧ t.specCallDepth = s.specCallDepth - 1)
        (fun _ _ => True) s := by
  rw [hookRestart, ends_bind, ends_get, if_neg (by simp [speculating.inv.coherent.initDone])]
  refine Ends.bind ((enterKspecemRt_keeps env.handler True.intro s speculating.inv.busy).imp
    (fun _ _ kept => kept) (fun _ _ _ => trivial)) ?_
  intro irqFlags t entered
  have inSpec : t.inSpeculativeEmulation = true := entered.2.inSpec.trans speculating.inSpec
  refine Ends.bind (R := fun _ u =>
    Speculating env.kernel u ∧ 0 < t.specCallDepth ∧ u.specCallDepth = t.specCallDepth - 1) ?_ ?_
  · by_cases nested : NestedReturn .restartReturn t
    · refine restart_ends ?_ (fun _ _ _ _ => trivial) ?_ (fun _ rolls => absurd nested rolls)
      · intro idle
        exact absurd (inSpec.symm.trans idle) (by decide)
      · intro _ _ stats
        have restarting : Coherent env.kernel (t.restarting stats) :=
          entered.1.coherent.congr rfl rfl rfl rfl rfl (fun _ clear => clear)
        exact ⟨⟨⟨restarting.redepth inSpec _, entered.1.consistent.congr rfl, trivial⟩, inSpec⟩,
          nested.2.2, rfl⟩
    · exact (restart_direct (Q := fun _ _ => False) env.handler entered.1 inSpec trivial nested
        trivial).imp (fun _ _ no => no.elim) (fun _ _ _ => trivial)
  rintro _ u ⟨returned, positive, depth⟩
  refine Ends.bind ((leaveKspecemRt_keeps env.handler True.intro 102 irqFlags (by decide) u
    returned.inv.busy).and leaveKspecemRt_inactive |>.imp (fun _ _ kept => kept)
    (fun _ _ _ => trivial)) ?_
  rintro _ v ⟨left, inactive⟩
  rw [ends_pure, ← entered.2.depth, left.2.depth, depth]
  exact ⟨⟨left.1, left.2.inSpec.trans returned.inSpec⟩, inactive, positive, rfl⟩

end

section
variable {env : Env} {s : Rt}

/-- The calls and returns leave the depth and the episode as they were. -/
def CallSequence.LeavesDepth (env : Env) (calls : CallSequence) (s : Rt) : Prop :=
  Ends (calls.run env)
    (fun _ t =>
      t.specCallDepth = s.specCallDepth
      ∧ t.inSpeculativeEmulation = s.inSpeculativeEmulation)
    (fun _ _ => False) s

/-- Outside runtime sections every return undoes the count of its entry, by induction on
the calls.
-/
theorem CallSequence.run_outside (calls : CallSequence) {s : Rt}
    (speculating : Speculating env.kernel s) (outside : s.isInRt = false)
    : Ends (calls.run env)
        (fun _ t =>
          Speculating env.kernel t ∧ t.isInRt = false ∧ t.specCallDepth = s.specCallDepth)
        (fun _ _ => True) s := by
  induction calls generalizing s with
  | done => exact ⟨speculating, outside, rfl⟩
  | call entry body exit returnAddress rest body_ih rest_ih =>
      rw [CallSequence.run]
      have counts := @hookCheckCallDepth_counts { env with frames := entry } s speculating outside
      refine Ends.bind counts ?_
      rintro _ t ⟨entered, inactive, deeper⟩
      refine Ends.bind (body_ih entered inactive) ?_
      rintro _ u ⟨back, _, same⟩
      refine Ends.bind (@hookRestart_counts { env with frames := exit } u back returnAddress) ?_
      rintro _ v ⟨returned, inactive, _, depth⟩
      refine (rest_ih returned inactive).imp ?_ (fun _ _ _ => trivial)
      rintro _ w ⟨kept, outside, same'⟩
      refine ⟨kept, outside, ?_⟩
      rw [same', depth, same, deeper, BitVec.add_sub_cancel]

/-- Inside a runtime section the first return is not matched by a count: where it does not
roll back, the depth has become smaller.
-/
theorem CallSequence.run_inside (calls : CallSequence) {s : Rt}
    (speculating : Speculating env.kernel s) (inRt : s.isInRt = true)
    : Ends (calls.run env)
        (fun _ t =>
          calls = .done ∧ t = s
          ∨ Speculating env.kernel t
            ∧ t.isInRt = false
            ∧ t.specCallDepth < s.specCallDepth)
        (fun _ _ => True) s := by
  induction calls generalizing s with
  | done => exact Or.inl ⟨rfl, rfl⟩
  | call entry body exit returnAddress rest body_ih rest_ih =>
      rw [CallSequence.run]
      have uncounted :=
        @hookCheckCallDepth_inRt { env with frames := entry } s (fun _ _ => True) inRt
      refine Ends.bind uncounted ?_
      intro _ t same
      rw [same]
      refine Ends.bind (body_ih speculating inRt) ?_
      intro _ u after
      have back : Speculating env.kernel u ∧ u.specCallDepth ≤ s.specCallDepth := by
        rcases after with ⟨_, rfl⟩ | ⟨back, _, less⟩
        · exact ⟨speculating, BitVec.le_refl _⟩
        · exact ⟨back, BitVec.le_of_lt less⟩
      refine Ends.bind (@hookRestart_counts { env with frames := exit } u back.1 returnAddress) ?_
      rintro _ v ⟨returned, inactive, positive, depth⟩
      have rest_kept := @CallSequence.run_outside env rest v returned inactive
      refine rest_kept.imp ?_ (fun _ _ _ => trivial)
      rintro _ w ⟨kept, outside, same⟩
      refine Or.inr ⟨kept, outside, ?_⟩
      have below := back.2
      rw [same, depth]
      bv_omega

/-- Entry and return agree inside a runtime section only where nothing is called. -/
theorem CallSequence.leavesDepth_iff (calls : CallSequence)
    (speculating : Speculating env.kernel s) (inRt : s.isInRt = true)
    : calls.LeavesDepth env s ↔ calls = .done := by
  constructor
  · intro leaves
    have done : Ends (calls.run env) (fun _ _ => calls = .done) (fun _ _ => calls = .done) s := by
      refine (leaves.and (calls.run_inside speculating inRt)).imp ?_ (fun _ _ no => no.1.elim)
      rintro _ t ⟨⟨depth, _⟩, ⟨done, _⟩ | ⟨_, _, less⟩⟩
      · exact done
      · rw [depth] at less
        exact absurd less (BitVec.lt_irrefl _)
    exact done.const
  · rintro rfl
    exact ⟨rfl, rfl⟩

end

/-- In every reachable speculative state, taken inside a runtime section (as it is between
`local_irq_restore` and `kspecem_unset_rt`), a sequence of calls leaves the depth and the
episode alone exactly when it is empty.
-/
theorem callSequence_leavesDepth_iff {env : Env} {m : Machine} (reached : Reached env.kernel m)
    (running : m.phase = .running) (inSpec : m.rt.inSpeculativeEmulation = true)
    (calls : CallSequence)
    : calls.LeavesDepth env { m.rt with isInRt := true } ↔ calls = .done := by
  have speculating : Speculating env.kernel m.rt := ⟨reached.inv.running running, inSpec⟩
  exact calls.leavesDepth_iff (speculating.section_ true) rfl

/-- One call that calls nothing itself. -/
def sampleCalls : CallSequence := .call sampleFrames .done sampleFrames 0x400300 .done

theorem callSequence_leavesDepth_iff_sample
    : sampleCalls.LeavesDepth sampleEnv { sampleOpen.rt with isInRt := true }
      ↔ sampleCalls = .done :=
  @callSequence_leavesDepth_iff sampleEnv sampleOpen sampleOpen_reached rfl rfl sampleCalls

/-- An episode one call deep. -/
def sampleDeep : Machine :=
  machineAfter [sampleBranch, sampleEvent .checkCallDepth] sampleMachine

/-- One call deep and inside a section, a call and its return lose the outer frame's count. -/
theorem sampleCalls_lose_depth
    : Reached sampleKernel sampleDeep
      ∧ sampleDeep.rt.inSpeculativeEmulation = true
      ∧ ¬sampleCalls.LeavesDepth sampleEnv { sampleDeep.rt with isInRt := true } := by
  refine ⟨?_, rfl, fun leaves => ?_⟩
  · exact sampleOpen_reached.after (sampleEvent .checkCallDepth) True.intro (by decide)
  · have same : (0 : BitVec 32) = 1 := leaves.1
    contradiction

end Kasper
