import Kasper.Correctness.InstrumentedRuns
import Kasper.Passes.WriteHooks

/-! What the passes put before an instruction, run one inserted instruction after another, is
the sequence of hooks that the models of single passes have for it. This holds in every state
of the runtime, in an episode too. So what is proved of `beforeWrite`, of `leaveFunction` and
of `branchHooks` is proved of the instrumented modules: where these return, a module stands
behind the inserted calls in the state they leave.
-/

namespace Kasper.Ir

open ByteMemory Simulation

variable {Op V : Type} {kernel : Kernel}

/-- Run the inserted instructions in front of an instruction of the program. -/
def runInserted (meaning : Meaning kernel Op V) (values : V) (task : Task)
    (site : Inserted Op → Site)
    : List (Inst Op) → Temps → RtM Temps
  | .inserted pass inst :: rest, temps => do
      let value ← inst.run meaning values temps task (site inst) pass
      runInserted meaning values task site rest (temps.put ⟨pass, inst.name⟩ value)
  | _, temps => return temps

/-- Every inserted instruction runs at its own site. -/
def Sited (place : State Op V → Site) (site : Inserted Op → Site) : Prop :=
  ∀ (q : State Op V) run inst rest,
    q.top.rest = .inserted run inst :: rest → place q = site inst

/-- The hooks before a branch, each call at its own site. -/
def KSpecEmSpec.hooksAt (kernel : Kernel) (task : Task) (site : Inserted Op → Site) : RtM Word :=
  branchHooks ⟨kernel, (site .newCheckpoint).frames, task⟩
    ⟨kernel, (site .saveStack).frames, task⟩ ⟨kernel, (site .leaveRt).frames, task⟩
    (site .newCheckpoint).inInterrupt (site .frameAddress).frameaddress (site .saveStack).rsp
    (site .saveRegisters).cpu (site .saveRegisters).resumeAddress

/-- An operand as the condition of a branch. -/
def Operand.condition (meaning : Meaning kernel Op V) (values : V) (temps : Temps) (op : Op)
    : Operand → Condition
  | .own => meaning.condition op values
  | .temp t => .value (temps t != 0)

variable (meaning : Meaning kernel Op V) (values : V) (task : Task) (site : Inserted Op → Site)
  {pass : Nat}

theorem Operand.condition_holds (operand : Operand) (temps : Temps) (op : Op)
    : (operand.condition meaning values temps op).holds
      = operand.holds meaning values temps op := by
  cases operand <;> rfl

theorem Operand.Below.condition_put {operand : Operand} (below : operand.Below pass)
    (temps : Temps) (name : TempName) (value : Word) (op : Op)
    : operand.condition meaning values (temps.put ⟨pass, name⟩ value) op
      = operand.condition meaning values temps op := by
  cases operand with
  | own => rfl
  | temp t =>
      have older : t ≠ ⟨pass, name⟩ := fun same => Nat.ne_of_lt below (congrArg Temp.pass same)
      rw [Operand.condition, Temps.put_other older]
      rfl

theorem Inserted.invertCondition_run (condition : Operand) (temps : Temps) (site : Site) (op : Op)
    : (Inserted.invertCondition condition op).run meaning values temps task site pass
      = return boolWord (condition.condition meaning values temps op).inverted.holds := by
  cases condition with
  | own => rfl
  | temp t => exact congrArg (fun b => pure (boolWord b)) (Bool.not_not _).symm

theorem boolWord_ne_zero (b : Bool) : (boolWord b != 0) = b := by
  cases b <;> rfl

-----------------------------------------------------------------------------------------
-- Branches
-----------------------------------------------------------------------------------------

/-- The inserted select on the flag, and that of the branch. -/
theorem selects (flag : BitVec 32) (condition : Condition)
    : ((if boolWord (flag.setWidth 64 == 1) ≠ 0 then
          boolWord condition.inverted.holds
        else
          boolWord condition.holds)
        != 0)
      = (if flag == 1 then condition.inverted else condition).holds := by
  have same : (flag.setWidth 64 == (1 : Word)) = (flag == 1) :=
    Bool.eq_iff_iff.mpr (by simp only [beq_iff_eq]; bv_omega)
  rw [same]
  cases flag == 1
  · exact boolWord_ne_zero _
  · exact boolWord_ne_zero _

theorem KSpecEmSpec.beforeBranch_run {condition : Operand} (below : condition.Below pass)
    (op : Op) (temps : Temps)
    : (do
        let temps ← runInserted meaning values task site (beforeBranch pass condition op) temps
        return Operand.holds meaning values temps op (.temp ⟨pass, .newCondition⟩))
      = (do
        let _ ← hooksAt kernel task site
        branchSelect kernel (condition.condition meaning values temps op)) := by
  simp only [beforeBranch, runInserted, Inserted.invertCondition_run]
  simp only [Inserted.run, hooksAt, branchHooks, branchSelect, bind_assoc, pure_bind,
    ← Operand.condition_holds meaning values condition, below.condition_put]
  refine bind_congr fun token => ?_
  simp only [Temps.put, Inserted.name, Temp.mk.injEq, reduceCtorEq, and_false, if_false, if_true,
    Operand.holds, selects]

-----------------------------------------------------------------------------------------
-- Writes and returns
-----------------------------------------------------------------------------------------

section
variable {f : ListedFunction} (temps : Temps)

theorem Operand.Below.address_put {operand : Operand} (below : operand.Below pass)
    (name : TempName) (value : Word) (op : Op)
    : operand.address meaning values (temps.put ⟨pass, name⟩ value) op
      = operand.address meaning values temps op :=
  (below.address (AgreeBelow.put (fun _ _ => rfl) name value) meaning values op).symm

/-- The hook before a store runs on the address the store goes to. -/
theorem KSpecEmPassVisitor.visit_store_run (visited : KSpecEm.visits f = true) {access : Access}
    (below : access.ptr.Below pass) (size : Nat) (op : Op)
    : (do
        let _ ← runInserted meaning values task site (visit pass f (.store access size op)) temps
        return ())
      = beforeWrite ⟨kernel, (site (.store (.ptr access.ptr op))).frames, task⟩ f (.store size)
        (access.ptr.address meaning values temps op) := by
  rw [beforeWrite, if_pos visited, visit, KSpecEm.beforeStore, Kasper.KSpecEmPassVisitor.visit,
    visitStoreInst]
  by_cases runtime : StringRef.startswith f.name "kspecem_" = true
  · rw [if_pos runtime, if_pos runtime]
    rfl
  · rw [if_neg runtime, if_neg runtime]
    simp only [runInserted, Inserted.run, Target.address, pure_bind, bind_assoc, WriteHook.run,
      below.address_put]
    exact bind_pure _

/-- The hook before a memory intrinsic runs on its destination and its length. -/
theorem KSpecEmPassVisitor.visit_memIntrinsic_run (visited : KSpecEm.visits f = true)
    {access : Access} (below : access.ptr.Below pass) (narrow : Bool) (op : Op)
    : (do
        let _ ← runInserted meaning values task site (visit pass f (.memIntrinsic access narrow op))
          temps
        return ())
      = beforeWrite ⟨kernel, (site (.memcpy access.ptr op)).frames, task⟩ f
        (.memIntrinsic (meaning.length op values))
        (access.ptr.address meaning values temps op) := by
  rw [beforeWrite, if_pos visited, visit, KSpecEm.beforeMemIntrinsic,
    Kasper.KSpecEmPassVisitor.visit, visitMemIntrinsic]
  by_cases runtime : StringRef.startswith f.name "kspecem_" = true
  · rw [if_pos runtime, if_pos runtime]
    rfl
  · rw [if_neg runtime, if_neg runtime]
    cases narrow <;>
      simp only [runInserted, Inserted.run, pure_bind, bind_assoc, WriteHook.run, if_true,
        List.cons_append, List.nil_append, below.address_put, Bool.false_eq_true, if_false] <;>
      exact bind_pure _

/-- Before a return runs what a function leaves with, on its return address. -/
theorem KSpecEmPassVisitor.visitTerminator_run (visited : KSpecEm.visits f = true) (op : Op)
    {call : CallSite} {returnAddress : Address}
    (there
      : ∀ restartType,
          (site (.restart restartType .returnAddress)).frames = call.frames)
    (returns : (site .returnAddress).returnAddress = returnAddress) (inTask : call.task = task)
    : (do
        let _ ← runInserted meaning values task site (visitTerminator pass f (.ret op)) temps
        return ())
      = leaveFunction kernel f call returnAddress := by
  subst returns inTask
  have free : (f.isIn .blacklist || f.isIn .timer || f.isIn .exception) = false := by
    simpa [KSpecEm.visits] using visited
  rw [leaveFunction, KSpecEm.returnHook, free, visitTerminator, KSpecEm.beforeReturn,
    visitReturnInst]
  cases f.isIn .nospec with
  | true => rfl
  | false =>
      simp only [runInserted, Inserted.run, pure_bind, bind_assoc, there, CallArg.address,
        Bool.false_eq_true, if_false, CallSite.env]
      rfl

end

-----------------------------------------------------------------------------------------
-- Runs
-----------------------------------------------------------------------------------------

/-- A module runs what is inserted in front of an instruction silently, by induction on the
inserted instructions.
-/
theorem Module.inserted_trace {m : Module Op} {place : State Op V → Site} {q : State Op V}
    {front rest : List (Inst Op)} {temps : Temps} {rt : Rt}
    (placed : Sited place site) (own : ∀ inst ∈ front, ∃ run hook, inst = .inserted run hook)
    (there : q.top.rest = front ++ rest)
    (ends : runInserted meaning q.top.values task site front q.top.temps q.rt = .ok temps rt)
    : Trace (m.Steps meaning task place) q [] { q with top := { q.top with rest, temps }, rt } := by
  induction front generalizing q with
  | nil =>
      obtain ⟨⟨code, label, insts, term, values, temps⟩, callers, rt⟩ := q
      obtain rfl : insts = rest := there
      cases ends
      exact .refl
  | cons inst front ih =>
      obtain ⟨⟨run, hook, rfl⟩, others⟩ := List.forall_mem_cons.mp own
      rw [runInserted] at ends
      obtain ⟨value, t, result, ends⟩ := Exits.ok_of_bind ends
      let top := { q.top with
        rest := front ++ rest, temps := q.top.temps.put ⟨run, hook.name⟩ value }
      have steps : m.Steps meaning task place q none { q with top, rt := t } := by
        unfold Module.Steps Module.step
        rw [there, List.cons_append]
        dsimp only
        rw [placed q run hook (front ++ rest) there, result]
      exact (@ih { q with top, rt := t } others rfl ends).behind steps

/-- Where the hooks in front of an instruction return, the module gets to the instruction. -/
theorem Module.hooks_trace {m : Module Op} {place : State Op V → Site} {q : State Op V}
    {front rest : List (Inst Op)} {rt : Rt} {hooks : RtM Unit} (placed : Sited place site)
    (own : ∀ inst ∈ front, ∃ run hook, inst = .inserted run hook)
    (there : q.top.rest = front ++ rest)
    (same
      : (do
          let _ ← runInserted meaning q.top.values task site front q.top.temps
          return ())
        = hooks)
    (returns : hooks q.rt = .ok () rt)
    : ∃ temps,
        Trace (m.Steps meaning task place) q []
          { q with top := { q.top with rest, temps }, rt } := by
  rw [← same] at returns
  obtain ⟨temps, t, result, ends⟩ := Exits.ok_of_bind returns
  obtain rfl : t = rt := by
    cases ends
    rfl
  exact ⟨temps, Module.inserted_trace meaning task site placed own there result⟩

section
variable {m : Module Op} {place : State Op V → Site} {q : State Op V} {f : ListedFunction}
  {access : Access} {op : Op} {rest : List (Inst Op)} {rt : Rt}

/-- A module gets to a store in the state that `beforeWrite` leaves. -/
theorem KSpecEmPassVisitor.store_runs (placed : Sited place site)
    (visited : KSpecEm.visits f = true) (below : access.ptr.Below pass) {size : Nat}
    (there : q.top.rest = visit pass f (.store access size op) ++ .store access size op :: rest)
    (returns
      : beforeWrite ⟨kernel, (site (.store (.ptr access.ptr op))).frames, task⟩ f (.store size)
          (access.ptr.address meaning q.top.values q.top.temps op) q.rt
        = .ok () rt)
    : ∃ temps,
        Trace (m.Steps meaning task place) q []
          { q with top := { q.top with rest := .store access size op :: rest, temps }, rt } := by
  refine Module.hooks_trace meaning task site placed ?_ there
    (visit_store_run meaning q.top.values task site q.top.temps visited below size op) returns
  rw [visit, KSpecEm.beforeStore]
  split <;> simp

/-- It gets to a memory intrinsic so too. -/
theorem KSpecEmPassVisitor.memIntrinsic_runs (placed : Sited place site)
    (visited : KSpecEm.visits f = true) (below : access.ptr.Below pass) {narrow : Bool}
    (there
      : q.top.rest
        = visit pass f (.memIntrinsic access narrow op) ++ .memIntrinsic access narrow op :: rest)
    (returns
      : beforeWrite ⟨kernel, (site (.memcpy access.ptr op)).frames, task⟩ f
          (.memIntrinsic (meaning.length op q.top.values))
          (access.ptr.address meaning q.top.values q.top.temps op) q.rt
        = .ok () rt)
    : ∃ temps,
        Trace (m.Steps meaning task place) q []
          { q with
            top := { q.top with rest := .memIntrinsic access narrow op :: rest, temps }
            rt } := by
  refine Module.hooks_trace meaning task site placed ?_ there
    (visit_memIntrinsic_run meaning q.top.values task site q.top.temps visited below narrow op)
    returns
  rw [visit, KSpecEm.beforeMemIntrinsic]
  split
  · simp
  · cases narrow <;> simp

/-- It gets to a return in the state that `leaveFunction` leaves. -/
theorem KSpecEmPassVisitor.return_runs (placed : Sited place site)
    (visited : KSpecEm.visits f = true) {call : CallSite} {returnAddress : Address}
    (frames
      : ∀ restartType, (site (.restart restartType .returnAddress)).frames = call.frames)
    (address : (site .returnAddress).returnAddress = returnAddress) (inTask : call.task = task)
    (there : q.top.rest = visitTerminator pass f (.ret op))
    (returns : leaveFunction kernel f call returnAddress q.rt = .ok () rt)
    : ∃ temps,
        Trace (m.Steps meaning task place) q []
          { q with top := { q.top with rest := [], temps }, rt } := by
  refine Module.hooks_trace meaning task site placed ?_ (there.trans (List.append_nil _).symm)
    (visitTerminator_run meaning q.top.values task site q.top.temps visited op frames address
      inTask) returns
  rw [visitTerminator, KSpecEm.beforeReturn]
  split <;> simp

end

/-- A branch behind its hooks goes where the select on the flag sends it. -/
theorem KSpecEmSpec.branch_runs {m : Module Op} {place : State Op V → Site} {q : State Op V}
    {condition : Operand} {op : Op} {yes no : Label} {taken : Bool} {rt : Rt}
    (placed : Sited place site) (below : condition.Below pass)
    (there : q.top.rest = beforeBranch pass condition op)
    (term : q.top.term = .condBr (.temp ⟨pass, .newCondition⟩) op yes no)
    (ends
      : (do
          let _ ← hooksAt kernel task site
          branchSelect kernel (condition.condition meaning q.top.values q.top.temps op)) q.rt
        = .ok taken rt)
    : ∃ temps,
        Trace (m.Steps meaning task place) q []
          { q with top := { q.top with rest := [], temps }, rt }
        ∧ m.step meaning task place { q with top := { q.top with rest := [], temps }, rt }
          = State.goto meaning { q with top := { q.top with rest := [], temps }, rt }
              (if taken then yes else no) (some (.branch op taken)) := by
  rw [← beforeBranch_run meaning q.top.values task site below op q.top.temps] at ends
  obtain ⟨temps, t, result, ends⟩ := Exits.ok_of_bind ends
  obtain ⟨rfl, rfl⟩ : Operand.holds meaning q.top.values temps op
      (.temp ⟨pass, .newCondition⟩) = taken ∧ t = rt := by
    cases ends
    exact ⟨rfl, rfl⟩
  refine ⟨temps, Module.inserted_trace meaning task site placed ?_
    (there.trans (List.append_nil _).symm) result, ?_⟩
  · simp [beforeBranch]
  · unfold Module.step
    dsimp only
    rw [term]

end Kasper.Ir
