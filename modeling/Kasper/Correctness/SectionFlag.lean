import Kasper.Correctness.SectionNesting

/-! `kspecem_is_in_rt` from the `ENTER` of a section to its `LEAVE`, in sections inside one
another to any depth. `ENTER_KSPECEM_RT` itself calls a store hook, in `stop_nmi`.
-/

namespace Kasper

open ByteMemory Exits Simulation

/-- The ways into a section; a checkpoint that is taken leaves its section open. -/
inductive SectionEntry
  | rt
  | nonmi
  | checkpoint (inInterrupt : Bool)

def SectionEntry.run (env : Env) : SectionEntry → RtM Word
  | .rt => enterKspecemRt env env.onFail
  | .nonmi => enterKspecemNonmiRt
  | .checkpoint inInterrupt => hookNewCheckpoint env env.onFail inInterrupt

/-- Behind this entry the flag of the section is clear: in speculation the store hook that
`stop_nmi` contains has run a section of its own.
-/
def SectionEntry.ClearsFlag (inSpec : Bool) : SectionEntry → Prop
  | .rt => inSpec = true
  | _ => False

/-- Whether the section runs in speculation. -/
def SectionEntry.speculates (inSpec : Bool) : SectionEntry → Bool
  | .checkpoint _ => true
  | _ => inSpec

/-- A section is entered and its first statement is next. -/
inductive SectionEntry.Enters (env : Env) (entry : SectionEntry) (m : Machine) : Machine → Prop
  | enter {token : Word} {t : Rt} (entered : entry.run env m.rt = .ok token t)
      (taken : token ≠ noCheckpoint)
      : Enters env entry m ⟨t, .running⟩

/-- The kernels that hooks inside hooks lead to: hooks that ran to completion and sections
that are still open, in any order from a reachable kernel. A hook that cuts an episode
counts before it enters its section.
-/
inductive Machine.Nests (kernel : Kernel) : Machine → Prop
  | reached {m : Machine} (reached : Reached kernel m) (running : m.phase = .running)
      : Nests kernel m
  | counted {m : Machine} (nests : Nests kernel m)
      (inSpec : m.rt.inSpeculativeEmulation = true) (stats : Statistics)
      (speculativeInstrCount specCallDepth : BitVec 32)
      : Nests kernel ⟨{ m.rt with stats, speculativeInstrCount, specCallDepth }, .running⟩
  | entered {m n : Machine} (nests : Nests kernel m) (frames : Frames) (task : Task)
      (entry : SectionEntry) (enters : entry.Enters ⟨kernel, frames, task⟩ m n)
      : Nests kernel n
  | completed {m n : Machine} (nests : Nests kernel m) (event : Event)
      (completes : m.Completes kernel (some event) n)
      : Nests kernel n

section
variable {env : Env} {m n : Machine} {entry : SectionEntry}

/-- `ENTER_KSPECEM_NONMI_RT` sets the flag, and nothing runs before the section does. -/
theorem enterKspecemNonmiRt_flag {s : Rt}
    : Ends enterKspecemNonmiRt (fun _ t => t.isInRt = true) (fun _ _ => True) s := by
  simp only [enterKspecemNonmiRt, setRt, localIrqSave, ends_bind, ends_modify, ends_get,
    ends_pure]

theorem SectionEntry.Enters.inv (enters : entry.Enters env m n)
    (inv : Inv env.kernel (Rider.trivial env.kernel) m.rt)
    : Inv env.kernel (Rider.trivial env.kernel) n.rt := by
  obtain ⟨entered, taken⟩ := enters
  cases entry with
  | rt => exact ((enterKspecemRt_keeps env.handler True.intro _ inv.busy).of_ok entered).1
  | nonmi => exact ((enterKspecemNonmiRt_keeps _ inv.busy).of_ok entered).1
  | checkpoint inInterrupt =>
      have placed : (Action.newCheckpoint inInterrupt).Placed env.kernel := True.intro
      have admitted : (⟨env.frames, env.task, .newCheckpoint inInterrupt⟩ : Event).Admitted
          env.kernel (Rider.trivial env.kernel) m.rt := Rider.trivial_admitted placed
      have kept := Action.run_keeps placed admitted.spares admitted.action inv.standing
        (Or.inr inv)
      rw [Action.run, ends_bind] at kept
      exact kept.of_ok entered

/-- What entering a section does to the flag. -/
theorem SectionEntry.Enters.flag (enters : entry.Enters env m n)
    (inv : Inv env.kernel (Rider.trivial env.kernel) m.rt)
    : n.rt.inSpeculativeEmulation = entry.speculates m.rt.inSpeculativeEmulation
      ∧ (n.rt.isInRt = true ↔ ¬entry.ClearsFlag m.rt.inSpeculativeEmulation) := by
  obtain @⟨token, t, entered, taken⟩ := enters
  cases entry with
  | rt =>
      have kept := (enterKspecemRt_keeps env.handler True.intro _ inv.busy).of_ok entered
      have flag := (enterKspecemRt_flag inv.coherent.initDone).of_ok entered
      refine ⟨kept.2.inSpec, ?_⟩
      rw [flag, inv.coherent.coupled]
      simp [ClearsFlag]
  | nonmi =>
      have kept := (enterKspecemNonmiRt_keeps _ inv.busy).of_ok entered
      exact ⟨kept.2.inSpec, fun _ => id, fun _ => enterKspecemNonmiRt_flag.of_ok entered⟩
  | checkpoint inInterrupt =>
      cases spec : m.rt.inSpeculativeEmulation with
      | true =>
          exact absurd ((hookNewCheckpoint_nested spec inInterrupt).of_ok entered).1 taken
      | false =>
          obtain ⟨refused, _⟩ | ⟨_, stats, rfl⟩ :=
            (hookNewCheckpoint_idle inv.coherent spec inInterrupt).of_ok entered
          · exact absurd refused taken
          · exact ⟨rfl, fun _ => id, fun _ => rfl⟩

end

/-- Sections inside one another keep the invariant, one step after the other. -/
theorem Machine.Nests.inv {kernel : Kernel} {m : Machine} (nests : m.Nests kernel)
    : Inv kernel (Rider.trivial kernel) m.rt := by
  induction nests with
  | reached reached running => exact reached.inv.running running
  | counted _ inSpec stats instrs depth inv =>
      exact {
        coherent :=
          (inv.coherent.redepth inSpec depth).congr rfl rfl rfl rfl rfl (fun _ clear => clear)
        consistent := inv.consistent.congr rfl
        holds := True.intro }
  | entered _ frames task entry enters inv => exact enters.inv inv
  | completed _ event completes inv => exact (completes.flag inv).1

/-- In every kernel that hooks inside hooks lead to: a hook that runs to completion leaves
`kspecem_is_in_rt` as it found it, unless it finds it set and checks no more than
`kspecem_init_done`; and behind any entry into a section, through any number of hooks that
run to completion in it, the flag is set exactly if the entry has not cleared it and no such
hook was among them.
-/
theorem sections_flagged_iff {kernel : Kernel} {m : Machine} (nests : m.Nests kernel)
    : (∀ (event : Event) (n : Machine), m.Completes kernel (some event) n →
        (n.rt.isInRt = m.rt.isInRt
          ↔ ¬(m.rt.isInRt = true ∧ event.action.Unguarded m.rt.inSpeculativeEmulation)))
      ∧ ∀ (frames : Frames) (task : Task) (entry : SectionEntry) (inside n : Machine)
          (events : List Event), entry.Enters ⟨kernel, frames, task⟩ m inside →
          Trace (Machine.Completes kernel) inside events n →
          (n.rt.isInRt = true
            ↔ ¬entry.ClearsFlag m.rt.inSpeculativeEmulation
              ∧ ∀ event ∈ events,
                  ¬event.action.Unguarded
                    (entry.speculates m.rt.inSpeculativeEmulation)) := by
  have inv := nests.inv
  constructor
  · intro event n completes
    have flag := (completes.flag inv).2.2
    cases inside : m.rt.isInRt with
    | true => simpa [inside] using flag
    | false => simpa [inside] using flag
  · intro frames task entry inside n events enters run
    obtain ⟨spec, opened⟩ := enters.flag inv
    have flag := (completes_flag (enters.inv inv) run).2.2
    rw [flag, spec, opened]

/-- Inside the section of a checkpoint: a store hook clears the flag, and a section entered
with `ENTER_KSPECEM_RT` never has it.
-/
theorem sections_flagged_iff_sample
    : ((machineAfter [sampleEvent (.store 0x70000)] sampleSection).rt.isInRt
          = sampleSection.rt.isInRt
        ↔ ¬(sampleSection.rt.isInRt = true
          ∧ (Action.store 0x70000).Unguarded sampleSection.rt.inSpeculativeEmulation))
      ∧ ((endState (enterKspecemRt sampleEnv sampleEnv.onFail) sampleSection.rt).isInRt = true
        ↔ ¬SectionEntry.rt.ClearsFlag sampleSection.rt.inSpeculativeEmulation
          ∧ ∀ event ∈ ([] : List Event),
              ¬event.action.Unguarded
                (SectionEntry.rt.speculates sampleSection.rt.inSpeculativeEmulation)) := by
  have reached : Reached sampleKernel sampleSection :=
    sampleReached.after (sampleEvent (.newCheckpoint false)) True.intro (by decide)
  have nests : sampleSection.Nests sampleKernel := .reached reached rfl
  have store
      : sampleSection.Completes sampleKernel (some (sampleEvent (.store 0x70000)))
          (machineAfter [sampleEvent (.store 0x70000)] sampleSection) :=
    .hook rfl True.intro True.intro rfl rfl
  have enters
      : SectionEntry.rt.Enters sampleEnv sampleSection
          ⟨endState (enterKspecemRt sampleEnv sampleEnv.onFail) sampleSection.rt, .running⟩ :=
    .enter rfl (irqFlags_ne_noCheckpoint false)
  have flagged := sections_flagged_iff nests
  exact ⟨flagged.1 _ _ store, flagged.2 _ _ .rt _ _ [] enters .refl⟩

/-- A block hook in an episode enters its section, and the store hook of `stop_nmi` takes the
flag: a call hook inside the section finds it clear and counts.
-/
theorem sections_flagged_fails
    : Reached sampleKernel sampleOpen
      ∧ sampleOpen.phase = .running
      ∧ ∃ token inside after,
          hookMemcpy sampleEnv sampleEnv.onFail 0x600000 8 sampleOpen.rt = .ok () after
          ∧ enterKspecemRt sampleEnv sampleEnv.onFail sampleOpen.rt = .ok token inside
          ∧ inside.isInRt = false
          ∧ (endState (hookCheckCallDepth sampleEnv sampleEnv.onFail) inside).specCallDepth
            = inside.specCallDepth + 1 := by
  exact ⟨sampleOpen_reached, rfl, _, _, _, rfl, rfl, rfl, rfl⟩

end Kasper
