import Kasper.Correctness.InstrumentedRuns
import Kasper.Correctness.StateMachine
import Kasper.Passes.WriteHooks

/-! Every write of the program in a run of an instrumented module stands behind its hook,
which ran on the address the write goes to. This holds in every state of the runtime, up to
the first hook that does not return. The checker rewrites pointers, so it has to run before
`KSpecEm`.
-/

namespace Kasper.Ir

open ByteMemory Simulation

variable {Op V : Type} {kernel : Kernel}

/-- The hook `KSpecEmPassVisitor` puts right before a store or a memory intrinsic of the
program. The inserted store to the swap flag is none of these: it is hooked too where `KSpecEm`
finds it, and is not where `KSpecEmSpec` runs later.
-/
def KSpecEm.writeHook (f : ListedFunction) : Inst Op → Option (Inserted Op)
  | .store access _ op =>
      if StringRef.startswith f.name "kspecem_" then
        none
      else
        some (.store (.ptr access.ptr op))
  | .memIntrinsic access _ op =>
      if StringRef.startswith f.name "kspecem_" then none else some (.memcpy access.ptr op)
  | _ => none

/-- Every write of the program stands right behind its hook; `prev` is what stands before the
list.
-/
def Hooked (f : ListedFunction) : (prev : Option (Inst Op)) → List (Inst Op) → Prop
  | _, [] => True
  | prev, inst :: rest =>
      (∀ hook,
        KSpecEm.writeHook f inst = some hook
        → ∃ run, prev = some (.inserted run hook) ∧ inst.Below run)
      ∧ Hooked f (some inst) rest

-----------------------------------------------------------------------------------------
-- Blocks
-----------------------------------------------------------------------------------------

variable {f : ListedFunction} {prev : Option (Inst Op)} {insts more : List (Inst Op)}
  {inst : Inst Op} {pass : Nat}

/-- What stands hooked without anything before it does so behind everything. -/
theorem Hooked.any (hooked : Hooked f none insts) (prev : Option (Inst Op))
    : Hooked f prev insts := by
  cases insts with
  | nil => exact True.intro
  | cons inst rest =>
      refine ⟨fun hook writes => ?_, hooked.2⟩
      obtain ⟨_, no, _⟩ := hooked.1 hook writes
      cases no

theorem writeHook_inserted (inserted : inst.erase = none)
    : KSpecEm.writeHook f inst = none := by
  cases inst with
  | inserted run hook => rfl
  | plain op | call called op | load access size op | store access size op
  | memIntrinsic access narrow op => cases inserted

/-- An instruction that needs no hook. -/
theorem Hooked.cons (free : KSpecEm.writeHook f inst = none) (hooked : Hooked f (some inst) insts)
    : Hooked f prev (inst :: insts) :=
  ⟨fun _ writes => absurd (free.symm.trans writes) (by simp), hooked⟩

/-- Inserted instructions in front. -/
theorem Hooked.behind (hooked : ∀ prev, Hooked f prev insts) (front : List (Inst Op))
    (inserted : ∀ inst ∈ front, inst.erase = none) (prev : Option (Inst Op))
    : Hooked f prev (front ++ insts) := by
  induction front generalizing prev with
  | nil => exact hooked prev
  | cons inst front ih =>
      obtain ⟨first, others⟩ := List.forall_mem_cons.mp inserted
      exact .cons (writeHook_inserted first) (ih others _)

/-- Inserted instructions at the end. -/
theorem Hooked.before (hooked : Hooked f prev insts)
    (inserted : ∀ inst ∈ more, inst.erase = none)
    : Hooked f prev (insts ++ more) := by
  induction insts generalizing prev with
  | nil =>
      have nothing (prev : Option (Inst Op)) : Hooked f prev [] := True.intro
      have alone := Hooked.behind nothing more inserted prev
      rw [List.append_nil] at alone
      exact alone
  | cons inst insts ih => exact ⟨hooked.1, ih hooked.2⟩

theorem Inst.Free.inserted (free : inst.Free pass) : inst.erase = none := by
  cases inst with
  | inserted run hook => rfl
  | plain op | call called op | load access size op | store access size op
  | memIntrinsic access narrow op => exact free.elim

/-- A hook is the last of what the visitor puts before a write. -/
theorem KSpecEmPassVisitor.visit_last {hook : Inserted Op}
    (writes : KSpecEm.writeHook f inst = some hook)
    : ∃ front,
        visit pass f inst = front ++ [.inserted pass hook]
        ∧ ∀ before ∈ front, before.erase = none := by
  cases inst with
  | store access size op =>
      rw [KSpecEm.writeHook] at writes
      rw [visit, KSpecEm.beforeStore]
      split at writes
      · cases writes
      · cases writes
        exact ⟨[.inserted pass .cast], if_neg ‹_›, by simp [Inst.erase]⟩
  | memIntrinsic access narrow op =>
      rw [KSpecEm.writeHook] at writes
      rw [visit, KSpecEm.beforeMemIntrinsic]
      split at writes
      · cases writes
      · cases writes
        refine ⟨.inserted pass .cast :: if narrow then [.inserted pass .cast] else [],
          if_neg ‹_›, ?_⟩
        cases narrow <;> simp [Inst.erase]
  | plain op | call called op | load access size op | inserted run hook => cases writes

/-- The visitor hooks every write of a block, by induction on the instructions. -/
theorem KSpecEmPassVisitor.visit_hooked (below : ∀ inst ∈ insts, inst.Below pass)
    (prev : Option (Inst Op))
    : Hooked f prev (insts.flatMap fun inst => visit pass f inst ++ [inst]) := by
  induction insts generalizing prev with
  | nil => exact True.intro
  | cons inst insts ih =>
      obtain ⟨first, others⟩ := List.forall_mem_cons.mp below
      have rest := ih others (some inst)
      rw [List.flatMap_cons, List.append_assoc, List.singleton_append]
      cases writes : KSpecEm.writeHook f inst with
      | none =>
          refine Hooked.behind (fun prev => .cons writes rest) _ (fun before member => ?_) prev
          exact (visit_free first before member).inserted
      | some hook =>
          obtain ⟨front, same, inserted⟩ := @visit_last Op f inst pass hook writes
          rw [same, List.append_assoc, List.singleton_append]
          refine Hooked.behind (fun prev => .cons rfl ?_) front inserted prev
          refine ⟨fun hook' writes' => ?_, rest⟩
          cases Option.some.inj (writes.symm.trans writes')
          exact ⟨pass, rfl, first⟩

-----------------------------------------------------------------------------------------
-- Functions and modules
-----------------------------------------------------------------------------------------

/-- Every write of the function stands behind its hook. -/
def Function.Hooked (f : Function Op) : Prop :=
  ∀ l bb, f.block l = some bb → Ir.Hooked f.listed none bb.insts

variable {woven : Function Op}

theorem Function.Hooked.mapBlocks {visit : Label → Block Op → Block Op}
    (hooked
      : ∀ l bb, woven.block l = some bb → Ir.Hooked woven.listed none (visit l bb).insts)
    : (woven.mapBlocks visit).Hooked := by
  intro l bb found
  obtain ⟨old, before, rfl⟩ := Option.map_eq_some_iff.mp found
  exact hooked l old before

theorem KSpecEm.visitor_hooked (visited : KSpecEm.visits woven.listed = true)
    (below : woven.Below pass)
    : (visitor pass woven).Hooked := by
  have free : woven.listed.isIn .blacklist = false ∧ woven.listed.isIn .timer = false
      ∧ woven.listed.isIn .exception = false := by
    simpa [KSpecEm.visits, and_assoc] using visited
  rw [visitor, free.1, free.2.1, free.2.2]
  refine Function.Hooked.mapBlocks fun l bb found => ?_
  have hooks := @KSpecEmPassVisitor.visit_hooked Op woven.listed bb.insts pass
    (below.blocks l bb found).insts none
  exact hooks.before fun before member =>
    (KSpecEmPassVisitor.visitTerminator_free before member).inserted

theorem KSpecEmSpec.visitBranchInst_hooked {bb : Block Op} (hooked : Ir.Hooked f none bb.insts)
    : Ir.Hooked f none (visitBranchInst pass bb).insts := by
  obtain ⟨phis, insts, term⟩ := bb
  cases term with
  | condBr condition op yes no => exact hooked.before (by simp [beforeBranch, Inst.erase])
  | _ => exact hooked

theorem KSpecEmSpec.visitor_hooked (hooked : woven.Hooked) : (visitor pass woven).Hooked := by
  unfold visitor
  split
  · exact hooked
  · change Function.Hooked
      ((woven.mapBlocks (atStart woven.entry _)).mapBlocks fun _ bb => visitBranchInst pass bb)
    rw [Function.mapBlocks_mapBlocks]
    refine Function.Hooked.mapBlocks fun l bb found => ?_
    rw [visitBranchInst_atStart]
    have branches : Ir.Hooked woven.listed none (visitBranchInst pass bb).insts :=
      visitBranchInst_hooked (hooked l bb found)
    unfold atStart
    split
    · exact Hooked.behind branches.any _ (by simp [Inst.erase]) none
    · exact branches

theorem KSpecEmCheckSpecLength.visitor_hooked (hooked : woven.Hooked)
    : (visitor pass woven).Hooked := by
  unfold visitor
  split
  · exact hooked
  · exact Function.Hooked.mapBlocks fun l bb found =>
      (hooked l bb found).before (by simp [Inst.erase])

/-- A pass that leaves pointers alone leaves writes behind their hooks. -/
theorem Pass.visitor_hooked {p : Pass} (order : p ≠ .kspecemPfChecker)
    (visited : KSpecEm.visits woven.listed = true) (below : woven.Below pass)
    (hooked : woven.Hooked)
    : (p.visitor pass woven).Hooked := by
  cases p with
  | kspecem => exact KSpecEm.visitor_hooked visited below
  | kspecemSpec => exact KSpecEmSpec.visitor_hooked hooked
  | kspecemCheckSpecLength => exact KSpecEmCheckSpecLength.visitor_hooked hooked
  | kspecemPfChecker => exact absurd rfl order

theorem Pass.visitor_listed (p : Pass) : (p.visitor pass woven).listed = woven.listed := by
  cases p with
  | kspecem => simp only [visitor, KSpecEm.visitor]; split_ifs <;> rfl
  | kspecemSpec => simp only [visitor, KSpecEmSpec.visitor]; split_ifs <;> rfl
  | kspecemCheckSpecLength => simp only [visitor, KSpecEmCheckSpecLength.visitor]; split_ifs <;> rfl
  | kspecemPfChecker => rfl

/-- Every write of the functions that `KSpecEm` visits stands behind its hook. -/
def Module.Hooked (m : Module Op) : Prop :=
  ∀ f ∈ m.functions, KSpecEm.visits f.listed = true → f.Hooked

variable {meaning : Meaning kernel Op V} {m woven : Module Op}

theorem Pass.runImpl_hooked {p : Pass} (order : p ≠ .kspecemPfChecker)
    (below : ∀ f ∈ woven.functions, f.Below pass) (hooked : woven.Hooked)
    : (p.runImpl pass woven).Hooked := by
  unfold runImpl
  split
  · exact hooked
  · intro g member visited
    obtain ⟨f, there, rfl⟩ := List.mem_map.mp member
    rw [visitor_listed] at visited
    exact visitor_hooked order visited (below f there) (hooked f there visited)

theorem KSpecEm.runImpl_hooked (below : ∀ f ∈ woven.functions, f.Below pass)
    (included : Pass.kspecem.excludes woven.name = false)
    : (Pass.kspecem.runImpl pass woven).Hooked := by
  rw [Pass.runImpl, included]
  intro g member visited
  obtain ⟨f, there, rfl⟩ := List.mem_map.mp member
  rw [Pass.visitor_listed] at visited
  exact visitor_hooked visited (below f there)

theorem Pass.runImpl_name (p : Pass) : (p.runImpl pass woven).name = woven.name := by
  unfold runImpl
  split
  · rfl
  · rfl

theorem Instrumented.functions_below
    (instrumented : List.Forall₂ (Instrumented meaning pass) woven.functions m.functions)
    : ∀ f ∈ woven.functions, f.Below pass := by
  generalize woven.functions = gs at instrumented ⊢
  generalize m.functions = fs at instrumented
  induction instrumented with
  | nil => simp
  | cons first _ ih => exact List.forall_mem_cons.mpr ⟨first.below, ih⟩

/-- Once `KSpecEm` has run, passes other than the checker keep every write hooked. -/
theorem runPasses_hooked {passes : List Pass} (order : .kspecemPfChecker ∉ passes)
    (instrumented : List.Forall₂ (Instrumented meaning pass) woven.functions m.functions)
    (hooked : woven.Hooked)
    : (runPasses pass passes woven).Hooked := by
  induction passes generalizing pass woven with
  | nil => exact hooked
  | cons p rest ih =>
      have first := List.ne_of_not_mem_cons order
      have others := List.not_mem_of_not_mem_cons order
      have next : List.Forall₂ (Instrumented meaning (pass + 1)) (p.runImpl pass woven).functions
          m.functions := runPasses_instrumented [p] instrumented
      exact ih others next
        (Pass.runImpl_hooked first.symm (Instrumented.functions_below instrumented) hooked)

theorem runPasses_append (passes more : List Pass) (m : Module Op)
    : runPasses pass (passes ++ more) m
      = runPasses (pass + passes.length) more (runPasses pass passes m) := by
  induction passes generalizing pass m with
  | nil => rfl
  | cons p rest ih =>
      rw [List.cons_append, runPasses, runPasses, ih, List.length_cons,
        Nat.add_comm rest.length 1, Nat.add_assoc]

theorem runPasses_name (passes : List Pass) (m : Module Op)
    : (runPasses pass passes m).name = m.name := by
  induction passes generalizing pass m with
  | nil => rfl
  | cons p rest ih => exact (ih _).trans (Pass.runImpl_name p)

/-- All writes are hooked where the checker, if it runs, runs before `KSpecEm`. -/
theorem runPasses_hooks (meaning : Meaning kernel Op V) {before after : List Pass}
    (plain : ∀ f ∈ m.functions, f.Plain) (included : Pass.kspecem.excludes m.name = false)
    (order : .kspecemPfChecker ∉ after)
    : (runPasses 0 (before ++ .kspecem :: after) m).Hooked := by
  have given : List.Forall₂ (Instrumented meaning 0) m.functions m.functions :=
    List.forall₂_same.mpr fun f member => (plain f member).instrumented
  have first := runPasses_instrumented before given
  rw [runPasses_append, runPasses]
  refine runPasses_hooked order (runPasses_instrumented [.kspecem] first) ?_
  refine KSpecEm.runImpl_hooked (Instrumented.functions_below first) ?_
  rw [runPasses_name]
  exact included

-----------------------------------------------------------------------------------------
-- Steps
-----------------------------------------------------------------------------------------

variable {task : Task} {place : State Op V → Site} {q q' q₀ : State Op V}
  {shown : Option (Shown Op)}

/-- What a step does to the running function and its callers. -/
inductive Outcome (m : Module Op) (q : State Op V) : Option (Shown Op) → State Op V → Prop
  | inserted {run : Nat} {hook : Inserted Op} {rest : List (Inst Op)} (value : Word) (rt : Rt)
      (there : q.top.rest = .inserted run hook :: rest)
      : Outcome m q none
          { q with
            top := { q.top with rest, temps := q.top.temps.put ⟨run, hook.name⟩ value }
            rt }
  | exec {inst : Inst Op} {rest : List (Inst Op)} (shown : Shown Op) (values : V) (rt : Rt)
      (there : q.top.rest = inst :: rest) (own : inst.erase ≠ none)
      : Outcome m q (some shown) { q with top := { q.top with rest, values }, rt }
  | enter {inst : Inst Op} {rest : List (Inst Op)} {f : Function Op} {top : Frame Op V}
      (shown : Shown Op) (op : Op) (values : V) (there : q.top.rest = inst :: rest)
      (own : inst.erase ≠ none) (known : f ∈ m.functions) (begins : f.frame values = some top)
      : Outcome m q (some shown)
          { q with top, callers := (op, { q.top with rest }) :: q.callers }
  | goto {target : Label} {bb : Block Op} (shown : Option (Shown Op)) (values : V)
      (found : q.top.code.block target = some bb)
      : Outcome m q shown
          { q with
            top := { q.top with label := target, rest := bb.insts, term := bb.term, values } }
  | leave {op : Op} {caller : Frame Op V} {callers : List (Op × Frame Op V)} (shown : Shown Op)
      (values : V) (waits : q.callers = (op, caller) :: callers)
      : Outcome m q (some shown) { q with top := { caller with values }, callers }

theorem Outcome.of_exec {inst : Inst Op} {op : Op} {ptr : Address} {rest : List (Inst Op)}
    (there : q.top.rest = inst :: rest) (own : inst.erase ≠ none)
    (steps : q.exec meaning op ptr rest = some (shown, q'))
    : Outcome m q shown q' := by
  obtain ⟨⟨values, mem⟩, _, same⟩ := Option.map_eq_some_iff.mp steps
  cases same
  exact .exec _ values _ there own

theorem Outcome.of_goto {target : Label} {seen : Option (Shown Op)}
    (steps : q.goto meaning target seen = some (shown, q'))
    : Outcome m q shown q' := by
  obtain ⟨top, goes, same⟩ := Option.map_eq_some_iff.mp steps
  obtain ⟨bb, found, rfl⟩ := Option.map_eq_some_iff.mp goes
  cases same
  exact .goto _ _ found

theorem Outcome.of_leave {seen : Shown Op} {result : (call : Op) → (caller : V) → V}
    (steps : q.leave seen result = some (shown, q'))
    : Outcome m q shown q' := by
  obtain ⟨top, callers, rt⟩ := q
  cases callers with
  | nil => cases steps
  | cons caller callers =>
      cases steps
      exact .leave seen _ rfl

theorem Module.Steps.outcome (steps : m.Steps meaning task place q shown q')
    : Outcome m q shown q' := by
  unfold Module.Steps Module.step at steps
  cases there : q.top.rest with
  | nil =>
      rw [there] at steps
      cases term : q.top.term with
      | ret op | retVoid run =>
          rw [term] at steps
          exact .of_leave steps
      | br target | condBr condition op yes no | ifNull run yes no =>
          rw [term] at steps
          exact .of_goto steps
      | other op targets =>
          rw [term] at steps
          obtain ⟨target, _, goes⟩ := Option.bind_eq_some_iff.mp steps
          exact .of_goto goes
  | cons inst rest =>
      rw [there] at steps
      cases inst with
      | inserted run hook =>
          dsimp only at steps
          split at steps
          · cases steps
            exact .inserted _ _ there
          · cases steps
      | plain op => exact .of_exec there (by simp [Inst.erase]) steps
      | call called op =>
          dsimp only at steps
          split at steps
          · exact .of_exec there (by simp [Inst.erase]) steps
          · obtain ⟨top, begins, same⟩ := Option.map_eq_some_iff.mp steps
            cases same
            exact .enter _ op _ there (by simp [Inst.erase]) (Module.called_mem ‹_›) begins
      | load access size op | store access size op | memIntrinsic access narrow op =>
          exact .of_exec there (by simp [Inst.erase]) steps

-----------------------------------------------------------------------------------------
-- Runs
-----------------------------------------------------------------------------------------

theorem Hooked.none_of_own (hooked : Ir.Hooked f (some inst) insts) (own : inst.erase ≠ none)
    : Ir.Hooked f none insts := by
  cases insts with
  | nil => exact True.intro
  | cons next rest =>
      refine ⟨fun hook writes => ?_, hooked.2⟩
      obtain ⟨run, same, _⟩ := hooked.1 hook writes
      cases Option.some.inj same
      exact absurd rfl own

/-- The rest of a block whose writes are hooked, behind `prev`. -/
structure Frame.Hooked (m : Module Op) (prev : Option (Inst Op)) (q : Frame Op V) : Prop where
  code : q.code ∈ m.functions
  rest : KSpecEm.visits q.code.listed = true → Ir.Hooked q.code.listed prev q.rest

/-- Past an instruction of the program. -/
theorem Frame.Hooked.next {q : Frame Op V} {prev : Option (Inst Op)} {rest : List (Inst Op)}
    (hooked : q.Hooked m prev) (there : q.rest = inst :: rest) (own : inst.erase ≠ none)
    (values : V)
    : Frame.Hooked m none { q with rest, values } where
  code := hooked.code
  rest := by
    intro visited
    have whole := hooked.rest visited
    rw [there] at whole
    exact whole.2.none_of_own own

/-- A run is where writes are hooked, and the hook it stands behind just ran. -/
structure State.Hooked (m : Module Op) (meaning : Meaning kernel Op V) (task : Task)
    (place : State Op V → Site) (q₀ : State Op V) (labels : List (Shown Op))
    (prev : Option (Inst Op)) (q : State Op V)
    : Prop where
  top : q.top.Hooked m prev
  callers : ∀ waiting ∈ q.callers, waiting.2.Hooked m none
  ran
    : ∀ run hook,
        prev = some (.inserted run hook)
        → ∃ q',
            Trace (m.Steps meaning task place) q₀ labels q'
            ∧ m.Steps meaning task place q' none q
            ∧ q'.top.rest = .inserted run hook :: q.top.rest
            ∧ q'.top.values = q.top.values
            ∧ AgreeBelow run q'.top.temps q.top.temps

/-- A step from where writes are hooked leads to where they are. -/
theorem State.Hooked.step {labels : List (Shown Op)} {prev : Option (Inst Op)}
    (hooked : m.Hooked) (start : State.Hooked m meaning task place q₀ labels prev q)
    (run : Trace (m.Steps meaning task place) q₀ labels q)
    (steps : m.Steps meaning task place q shown q')
    : ∃ prev', State.Hooked m meaning task place q₀ (labels ++ shown.toList) prev' q' := by
  have known {l : Label} {bb : Block Op} (found : q.top.code.block l = some bb)
      (visited : KSpecEm.visits q.top.code.listed = true) :=
    hooked q.top.code start.top.code visited l bb found
  cases Module.Steps.outcome steps with
  | @inserted run' hook rest value rt there =>
      refine ⟨some (.inserted run' hook), ⟨start.top.code, fun visited => ?_⟩, start.callers, ?_⟩
      · have whole := start.top.rest visited
        rw [there] at whole
        exact whole.2
      · intro run'' hook' same
        cases same
        have older : AgreeBelow run' q.top.temps q.top.temps := fun _ _ => rfl
        rw [Option.toList_none, List.append_nil]
        exact ⟨q, run, steps, there, rfl, older.put hook.name value⟩
  | @exec inst rest shown values rt there own =>
      exact ⟨none, start.top.next there own values, start.callers, fun _ _ no => by cases no⟩
  | @enter inst rest f top shown op values there own inModule begins =>
      obtain ⟨bb, found, rfl⟩ := Option.map_eq_some_iff.mp begins
      have behind := start.top.next there own q.top.values
      exact ⟨none, ⟨inModule, fun visited => hooked f inModule visited _ bb found⟩,
        List.forall_mem_cons.mpr ⟨behind, start.callers⟩, fun _ _ no => by cases no⟩
  | @goto target bb shown values found =>
      exact ⟨none, ⟨start.top.code, known found⟩, start.callers, fun _ _ no => by cases no⟩
  | @leave op caller callers shown values waits =>
      have waiting := start.callers
      rw [waits] at waiting
      obtain ⟨first, others⟩ := List.forall_mem_cons.mp waiting
      exact ⟨none, ⟨first.code, first.rest⟩, others, fun _ _ no => by cases no⟩

/-- All of a run is where writes are hooked, by induction on the run. -/
theorem Module.Hooked.trace (hooked : m.Hooked) {name : String} {values : V} {rt : Rt}
    {labels : List (Shown Op)} (starts : m.start name values rt = some q₀)
    (run : Trace (m.Steps meaning task place) q₀ labels q)
    : ∃ prev, State.Hooked m meaning task place q₀ labels prev q := by
  induction run with
  | refl =>
      obtain ⟨top, begins, rfl⟩ := Option.map_eq_some_iff.mp starts
      obtain ⟨f, known, begins⟩ := Option.bind_eq_some_iff.mp begins
      obtain ⟨bb, found, rfl⟩ := Option.map_eq_some_iff.mp begins
      have inModule := List.mem_of_find?_eq_some known
      exact ⟨none, ⟨inModule, fun visited => hooked f inModule visited _ bb found⟩, by simp,
        fun _ _ no => by cases no⟩
  | silent run steps ih =>
      obtain ⟨prev, before⟩ := ih
      have next := before.step hooked run steps
      rw [Option.toList_none, List.append_nil] at next
      exact next
  | visible run steps ih =>
      obtain ⟨prev, before⟩ := ih
      exact before.step hooked run steps

section
variable (meaning : Meaning kernel Op V) (values : V) (temps : Temps)

/-- The address the program runs an instruction at. -/
def Inst.address : Inst Op → Address
  | .load access _ op | .store access _ op | .memIntrinsic access _ op =>
      access.ptr.address meaning values temps op
  | .plain _ | .call _ _ | .inserted _ _ => 0

/-- The address a write hook gets. -/
def Inserted.address : Inserted Op → Address
  | .store target => target.address meaning values temps
  | .memcpy ptr op => ptr.address meaning values temps op
  | _ => 0

end

/-- A hook asks for the address the write goes to. -/
theorem writeHook_address {hook : Inserted Op} {temps other : Temps} {values : V}
    (writes : KSpecEm.writeHook f inst = some hook) (below : inst.Below pass)
    (agree : AgreeBelow pass temps other)
    : hook.address meaning values temps = inst.address meaning values other := by
  cases inst with
  | store access size op | memIntrinsic access narrow op =>
      rw [KSpecEm.writeHook] at writes
      split at writes
      · cases writes
      · cases writes
        exact Operand.Below.address below agree meaning values op
  | plain op | call called op | load access size op | inserted run hook => cases writes

/-- In every run, from any state of the runtime, a store or memory intrinsic of the program
comes right after its hook, which ran on the address the write goes to and returned.
-/
theorem writes_hooked (meaning : Meaning kernel Op V) (task : Task) (place : State Op V → Site)
    {before after : List Pass} (plain : ∀ f ∈ m.functions, f.Plain)
    (included : Pass.kspecem.excludes m.name = false) (order : .kspecemPfChecker ∉ after)
    {name : String} {values : V} {rt : Rt} {labels : List (Shown Op)} {rest : List (Inst Op)}
    {hook : Inserted Op}
    (starts
      : (runPasses 0 (before ++ .kspecem :: after) m).start name values rt = some q₀)
    (run
      : Trace ((runPasses 0 (before ++ .kspecem :: after) m).Steps meaning task place) q₀ labels q)
    (visited : KSpecEm.visits q.top.code.listed = true) (next : q.top.rest = inst :: rest)
    (writes : KSpecEm.writeHook q.top.code.listed inst = some hook)
    : ∃ q' pass,
        Trace ((runPasses 0 (before ++ .kspecem :: after) m).Steps meaning task place) q₀ labels q'
        ∧ (runPasses 0 (before ++ .kspecem :: after) m).Steps meaning task place q' none q
        ∧ q'.top.rest = .inserted pass hook :: q.top.rest
        ∧ hook.address meaning q'.top.values q'.top.temps
          = inst.address meaning q.top.values q.top.temps := by
  obtain ⟨prev, hooked⟩ := (runPasses_hooks meaning plain included order).trace starts run
  have behind := hooked.top.rest visited
  rw [next] at behind
  obtain ⟨pass, same, below⟩ := behind.1 hook writes
  obtain ⟨q', run', steps, there, sameValues, agree⟩ := hooked.ran pass hook same
  refine ⟨q', pass, run', steps, there, ?_⟩
  rw [sameValues]
  exact writeHook_address writes below agree

/-- The sample module with all four passes. -/
def sampleWoven : Module String :=
  runPasses 0 ([.kspecemSpec, .kspecemPfChecker] ++ .kspecem :: [.kspecemCheckSpecLength])
    sampleModule

theorem writes_hooked_sample
    : ∃ q₀ q q' pass,
        sampleWoven.start "vfs_read" 0 sampleOpen.rt = some q₀
        ∧ Trace (sampleWoven.Steps sampleMeaning sampleEnv.task fun _ => sampleIrSite) q₀ [] q'
        ∧ sampleWoven.Steps sampleMeaning sampleEnv.task (fun _ => sampleIrSite) q' none q
        ∧ q'.top.rest
          = .inserted pass (.store (.ptr (.temp ⟨1, .newPtr⟩) "store")) :: q.top.rest
        ∧ Operand.address sampleMeaning q'.top.values q'.top.temps "store" (.temp ⟨1, .newPtr⟩)
          = 0x500000 := by
  have starts : (runPasses 0 ([.kspecemSpec, .kspecemPfChecker] ++ .kspecem
      :: [.kspecemCheckSpecLength]) sampleModule).start "vfs_read" 0 sampleOpen.rt = some _ :=
    rfl
  obtain ⟨q', pass, run, steps, there, same⟩ :=
    writes_hooked sampleMeaning sampleEnv.task (fun _ => sampleIrSite) sampleModule_plain rfl
      (by decide) starts
      (.behind rfl (.behind rfl (.behind rfl (.behind rfl (.behind rfl .refl))))) rfl rfl rfl
  exact ⟨_, _, q', pass, rfl, run, steps, there, same⟩

end Kasper.Ir
