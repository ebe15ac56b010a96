import Kasper.Correctness.RestartFlag
import Kasper.Correctness.Tours

/-! What becomes of an assertion that fails in speculation. `kspecem_panic` records it in
`kspecem_spec_assert`; a stale restart flag lets the hook go on past it, but the end of the
episode reads the record.
-/

namespace Kasper

open ByteMemory Exits

/-- The last failure is on record, and the episode it came up in goes on. -/
structure Pends (older : List SpecAssert) (s : Rt) : Prop where
  last : s.specAssert = s.asserted.head?
  inSpec : s.asserted ≠ [] → s.inSpeculativeEmulation = true
  kept : older <:+ s.asserted

/-- What is known where control leaves and the kernel runs on. -/
def PendsAway (older : List SpecAssert) (e : Exit) (t : Rt) : Prop :=
  ¬e.Final → Pends older t

section
variable {older : List SpecAssert}

theorem PendsAway.of_final {e : Exit} (final : e.Final) (t : Rt) : PendsAway older e t :=
  fun alive => absurd final alive

theorem Pends.congr {s t : Rt} (h : Pends older s) (specAssert : t.specAssert = s.specAssert)
    (asserted : t.asserted = s.asserted)
    (inSpec : s.asserted ≠ [] → t.inSpeculativeEmulation = true)
    : Pends older t where
  last := by rw [specAssert, asserted, h.last]
  inSpec := fun failed => inSpec (asserted ▸ failed)
  kept := asserted ▸ h.kept

theorem Pends.quiet {s t : Rt} (h : Pends older s) (quiet : Quiet s t) : Pends older t :=
  h.congr quiet.specAssert quiet.asserted fun failed => quiet.inSpec.trans (h.inSpec failed)

/-- Where no failure is on record none has been. -/
theorem Pends.none {s : Rt} (h : Pends older s) (clear : s.specAssert = none)
    : s.asserted = [] :=
  List.head?_eq_none_iff.mp (h.last.symm.trans clear)

theorem pendsTour : Tour (Pends older) (PendsAway older) where
  quiet := fun _ _ quiet h => h.quiet quiet
  final := fun _ s final _ _ _ => .of_final final s
  stores := fun _ h _ => h

end

-----------------------------------------------------------------------------------------
-- Restarts
-----------------------------------------------------------------------------------------

section
variable {older : List SpecAssert} {env : Env} {onFail : SpecAssert → RtM Unit}
  (loud : FailsLoudly onFail)
  (fails : ∀ failed, Keeps (Pends older) (PendsAway older) (onFail failed))
include loud

/-- After a rollback `kspecem_restart` goes on only where no failure is on record. -/
theorem finishRestart_pends {direct : Bool} {restartType : RestartType} {s : Rt}
    (idle : s.inSpeculativeEmulation = false)
    (pends : s.specAssert = none → Pends older s)
    : Ends (finishRestart env onFail direct restartType) (fun _ t => Pends older t)
        (PendsAway older) s := by
  have clear (none : s.specAssert = none) {t : Rt} (specAssert : t.specAssert = s.specAssert)
      (asserted : t.asserted = s.asserted)
      : Pends older t :=
    (pends none).congr specAssert asserted fun failed => absurd ((pends none).none none) failed
  refine finishRestart_ends loud idle ?_ ?_ ?_
  · exact fun _ t exit => .of_final exit.ours.final t
  · intro _ none t landed
    exact clear none (by rw [landed.frame]) (by rw [landed.frame])
  · intro _ none t landed _
    exact clear none (by rw [Rt.resumed, landed.frame]) (by rw [Rt.resumed, landed.frame])

include fails

theorem rollBack_pends (direct : Bool) (restartType : RestartType) (frameaddr regs : Address)
    : Keeps (Pends older) (PendsAway older)
        (rollBack env onFail direct restartType frameaddr regs) := by
  intro s start
  rw [rollBack, ends_bind, ends_get]
  refine Ends.bind (keeps_ltAssert fails _ start) fun _ t start => ?_
  refine Ends.bind (pendsTour.restoreWritelog fails _ _ start) ?_
  rintro r t ⟨restored, start⟩
  -- from here on the episode is over, and the record decides
  have finish {u : Rt} (specAssert : u.specAssert = t.specAssert)
      (asserted : u.asserted = t.asserted) (idle : u.inSpeculativeEmulation = false)
      : Ends (finishRestart env onFail direct restartType) (fun _ t => Pends older t)
          (PendsAway older) u := by
    refine finishRestart_pends loud idle fun none => ?_
    exact start.congr specAssert asserted fun failed =>
      absurd (start.none (specAssert.symm.trans none)) failed
  rw [if_neg restored]
  simp only [setSwapBranchCondition, copyFromStackLog, ends_bind, ends_modify, ends_get, ends_ite,
    ends_throw, ltPanic]
  refine ⟨fun _ => ⟨fun _ => .of_final (by exact True.intro) _, fun _ => ?_⟩,
    fun _ => .of_final (by exact True.intro) _⟩
  exact finish rfl rfl rfl

theorem restart_pends {direct : Bool} {restartType : RestartType}
    {callArg frameaddr regs : Address}
    : Keeps (Pends older) (PendsAway older)
        (restart env onFail direct restartType callArg frameaddr regs) := by
  intro s start
  refine restart_ends (fun _ => start) ?_ ?_ ?_
  · rintro _ e t ⟨⟨_, _, rfl⟩, _⟩
    exact .of_final (by exact True.intro) t
  · exact fun _ _ _ => start.congr rfl rfl start.inSpec
  · exact fun _ _ _ => rollBack_pends loud fails _ _ _ _ _ (start.congr rfl rfl start.inSpec)

theorem pendsHookTour : HookTour env onFail (Pends older) (PendsAway older) where
  toTour := pendsTour
  fails := fails
  restarts := fun _ _ _ => restart_pends loud fails
  sections := fun _ _ start => start.congr rfl rfl start.inSpec
  interrupts := fun _ _ _ _ _ => restart_pends loud fails
  resumes := fun _ start _ => start

end

/-- A failure in speculation is recorded before anything else, by induction on the room for
more failures.
-/
theorem kspecemPanic_pends {older : List SpecAssert} (env : Env) (depth : Nat)
    (failed : SpecAssert)
    : Keeps (Pends older) (PendsAway older) (kspecemPanic env depth failed) := by
  induction depth generalizing failed with
  | zero => exact fun _ _ => .of_final (by exact True.intro) _
  | succ depth ih =>
      intro s start
      have tour := @pendsHookTour older env _ (kspecemPanic_loud env depth) ih
      rw [kspecemPanic, kspecemPanicWith, ends_bind, ends_modify, ends_bind, ends_get, ends_ite]
      refine ⟨fun inSpec => ?_, fun _ => .of_final (by exact True.intro) _⟩
      rw [ends_bind, ends_modify]
      have recorded : Pends older (s.recordFailure failed) :=
        ⟨rfl, fun _ => inSpec, start.kept.trans (List.suffix_cons _ _)⟩
      refine (?_ : Keeps (Pends older) (PendsAway older) _) _ recorded
      refine keeps_read fun _ => keeps_branch ?_ (keeps_pure _)
      refine keeps_bind (tour.hookRestart (fun _ _ _ => Or.inr fun _ pends _ => pends) ?_)
        fun _ => keeps_pure _
      exact restart_pends (kspecemPanic_loud env depth) ih

-----------------------------------------------------------------------------------------
-- Events
-----------------------------------------------------------------------------------------

theorem Env.pendsTour (env : Env) {older : List SpecAssert}
    : HookTour env env.onFail (Pends older) (PendsAway older) :=
  pendsHookTour (kspecemPanic_loud env env.kernel.panicDepth) (kspecemPanic_pends env _)

/-- Whatever happens, failures stay on record and in their episode. -/
theorem Action.run_pends {older : List SpecAssert} {env : Env} (action : Action)
    : Keeps (Pends older) (PendsAway older) (action.run env) := by
  have loads {env : Env} {words : List Address}
      : LoadsFrom (Pends older) (PendsAway older) env.kernel words :=
    fun _ _ _ => Or.inr fun _ pends _ => pends
  have checkpoint (inInterrupt : Bool)
      : Keeps (Pends older) (PendsAway older)
          (hookNewCheckpoint env env.onFail inInterrupt) := by
    intro s start
    refine (@SectionTour.hookNewCheckpoint env env.onFail _ _ env.pendsTour.toSectionTour
      (Pends older) loads inInterrupt s start (fun _ t pends => pends.congr rfl rfl fun _ => rfl)
      (fun _ _ quiet _ pends => pends.quiet quiet)).imp ?_ (fun _ _ exit => exit)
    rintro _ t (⟨_, pends⟩ | ⟨_, pends⟩)
    · exact pends
    · exact pends
  by_cases closed : action.MayOpen
  · cases action with
    | newCheckpoint inInterrupt => exact keeps_bind (checkpoint inInterrupt) fun _ => keeps_pure _
    | branch saveFrames leaveFrames inInterrupt frameaddress rsp cpu returnAddress =>
        refine keeps_bind (keeps_bind (checkpoint inInterrupt) fun token => ?_) fun _ =>
          keeps_pure _
        refine keeps_bind ((Env.pendsTour _).hookSaveStack _ _ _) fun _ => ?_
        refine keeps_bind (Kasper.pendsTour.modify fun _ => ⟨rfl, rfl, rfl, rfl, rfl, rfl, rfl⟩)
          fun _ => ?_
        exact keeps_bind ((Env.pendsTour _).hookLeaveRt loads _) fun _ => keeps_pure _
    | _ => exact closed.elim
  · refine env.pendsTour.run (fun _ pends _ => pends)
      (fun s _ => .of_final (by exact True.intro) s) ?_ closed
      (fun _ _ _ => restart_pends (kspecemPanic_loud env _) (kspecemPanic_pends env _))
    exact keeps_printRestartStatistics (fun s _ => .of_final (by exact True.intro) s)
      fun s _ => Or.inr (.of_final (by exact True.intro) s)

-----------------------------------------------------------------------------------------
-- Runs
-----------------------------------------------------------------------------------------

section
variable {kernel : Kernel} {older : List SpecAssert} {m n : Machine}

/-- One event, from a machine that runs to one that runs. -/
theorem Pends.step {event : Event} (pends : Pends older m.rt)
    (steps : m.step kernel event = some n) (alive : n.phase ≠ .stopped)
    : Pends older n.rt := by
  obtain ⟨_, rfl⟩ := Machine.step_eq steps
  have ends := @Action.run_pends older (event.env kernel) event.action m.rt pends
  unfold Event.run at alive ⊢
  cases result : event.action.run (event.env kernel) m.rt with
  | ok _ t => exact ends.of_ok result
  | error e t =>
      rw [result] at alive
      have away := ends.of_error result
      cases e with
      | resumed => exact away id
      | fault isWrite => exact away id
      | panicked reason => exact absurd rfl alive
      | outOfBounds table => exact absurd rfl alive
      | stackOverflow => exact absurd rfl alive
      | diverged => exact absurd rfl alive

theorem Pends.run {allowed : Event → Machine → Prop}
    (pends : m.phase ≠ .stopped → Pends older m.rt) (run : Run kernel allowed m n)
    (alive : n.phase ≠ .stopped)
    : Pends older n.rt := by
  induction run with
  | refl => exact pends alive
  | step _ _ steps ih => exact (ih (Machine.alive_of_step steps)).step steps alive

theorem Reached.trans (reached : Reached kernel m)
    (run : Run kernel (fun event _ => event.action.Placed kernel) m n)
    : Reached kernel n := by
  induction run with
  | refl => exact reached
  | step _ placed steps ih =>
      obtain ⟨enabled, rfl⟩ := Machine.step_eq steps
      exact ih.after _ placed enabled

theorem Reached.pends (reached : Reached kernel m) (alive : m.phase ≠ .stopped)
    : Pends [] m.rt := by
  obtain ⟨env, heap, switches, mem, cpu, irqsEnabled, s, rfl, fits, booted, run⟩ := reached
  have booted : Booted env.kernel switches s := (commonLateInit_booted fits).of_ok booted
  refine Pends.run (fun _ => ⟨?_, ?_, List.nil_suffix⟩) run alive
  · rw [booted.specAssert, booted.asserted]
    rfl
  · exact fun failed => absurd booted.asserted failed

end

/-- A failure is on record, the last that came up, and its episode goes on. -/
structure Rt.FailurePends (s : Rt) : Prop where
  last : ∃ failed, s.asserted.head? = some failed ∧ s.specAssert = some failed
  inSpec : s.inSpeculativeEmulation = true

/-- Control left the episode by a fault alone, or the run is over. -/
def Exit.EndsOrPends (e : Exit) (t : Rt) : Prop :=
  e.Final ∨ (∃ isWrite, e = .fault isWrite) ∧ t.FailurePends

/-- Failures that are not forgotten leave the last one on record. -/
theorem Pends.failurePends {older : List SpecAssert} {s : Rt} (pends : Pends older s)
    (failed : older ≠ [])
    : s.FailurePends := by
  have some : s.asserted ≠ [] := fun none => failed (List.suffix_nil.mp (none ▸ pends.kept))
  refine ⟨⟨s.asserted.head some, List.head?_eq_some_head some, ?_⟩, pends.inSpec some⟩
  rw [pends.last]
  exact List.head?_eq_some_head some

/-- Once an assertion has failed in a run of the reachable kernel, the last failure is in
`kspecem_spec_assert` as long as the kernel runs, and speculation goes on. Every event leaves
it so, by a return or a fault, or stops the kernel: none gets back to a checkpoint.
-/
theorem failures_pend {kernel : Kernel} {m n : Machine} (reached : Reached kernel m)
    (failed : m.rt.asserted ≠ [])
    (run : Run kernel (fun event _ => event.action.Placed kernel) m n)
    : (n.phase ≠ .stopped → n.rt.FailurePends)
      ∧ ∀ event : Event,
          event.action.Placed kernel
          → n.Enabled event.action
          → Ends (event.run kernel) (fun _ t => t.FailurePends) Exit.EndsOrPends n.rt := by
  have before (alive : m.phase ≠ .stopped) : Pends m.rt.asserted m.rt :=
    { reached.pends alive with kept := List.suffix_rfl }
  have pends := Pends.run before run
  refine ⟨fun alive => (pends alive).failurePends failed, fun event placed enabled => ?_⟩
  have after := @Action.run_pends _ (event.env kernel) event.action n.rt
    (pends (Machine.alive_of_enabled enabled))
  have inv := (reached.trans run).inv.run_keeps (Rider.trivial_admitted placed) enabled
  refine (after.and inv).imp (fun _ _ ok => ok.1.failurePends failed) ?_
  rintro e t ⟨away, exit⟩
  cases e with
  | resumed =>
      have idle := (exit.2.1 rfl).2.1
      have pending := (away id).failurePends failed
      exact absurd (idle.symm.trans pending.inSpec) (by decide)
  | fault isWrite => exact Or.inr ⟨⟨isWrite, rfl⟩, (away id).failurePends failed⟩
  | panicked reason => exact Or.inl True.intro
  | outOfBounds table => exact Or.inl True.intro
  | stackOverflow => exact Or.inl True.intro
  | diverged => exact Or.inl True.intro

/-- A failed assertion that a store went past, and one more of these after it. -/
def sampleIgnoredTwice : Machine :=
  machineAfter [sampleEvent (.store 0x3000000)] sampleIgnored

theorem failures_pend_sample
    : sampleIgnored.rt.asserted ≠ []
      ∧ (sampleIgnoredTwice.phase ≠ .stopped → sampleIgnoredTwice.rt.FailurePends)
      ∧ ∀ event : Event,
          event.action.Placed sampleKernel
          → sampleIgnoredTwice.Enabled event.action
          → Ends (event.run sampleKernel) (fun _ t => t.FailurePends) Exit.EndsOrPends
              sampleIgnoredTwice.rt := by
  have nested : Reached sampleKernel sampleNested :=
    (sampleOpen_reached.after (sampleEvent .checkCallDepth) True.intro (by decide)).after
      (sampleEvent (.restart .restartReturn 0)) True.intro (by decide)
  have ignored : Reached sampleKernel sampleIgnored :=
    nested.after (sampleEvent (.store 0x3000000)) True.intro (by decide)
  have failed : sampleIgnored.rt.asserted ≠ [] := by decide
  exact ⟨failed, failures_pend ignored failed
    (Run.refl.after (sampleEvent (.store 0x3000000)) True.intro (by decide))⟩

end Kasper
