import Kasper.Correctness.Instrumentation
import Kasper.Library.Simulation

/-! Where the runtime leaves a task alone, an instrumented module runs as the module that the
passes were given: the hooks are silent, and everything else is done on the same values.
-/

namespace Kasper.Ir

open ByteMemory Exits Simulation

variable {Op V : Type} {kernel : Kernel}

theorem rel_of_left {α β : Type} {r : α → β → Prop} {a : Option α} {b : Option β} {x : α}
    (rel : Option.Rel r a b) (found : a = some x)
    : ∃ y, b = some y ∧ r x y := by
  subst found
  cases rel with
  | some related => exact ⟨_, rfl, related⟩

theorem rel_of_right {α β : Type} {r : α → β → Prop} {a : Option α} {b : Option β} {y : β}
    (rel : Option.Rel r a b) (found : b = some y)
    : ∃ x, a = some x ∧ r x y := by
  subst found
  cases rel with
  | some related => exact ⟨_, rfl, related⟩

-----------------------------------------------------------------------------------------
-- Frames
-----------------------------------------------------------------------------------------

/-- What is left of a block of the program in the output: the rest of its last block, or of
the hooks of an exception handler, with what follows them.
-/
inductive Ahead (code : Function Op) (final : Label)
    : Label → List (Inst Op) → Terminator Op → List (Inst Op) → Terminator Op → Prop
  | body {rest : List (Inst Op)} {term : Terminator Op}
      : Ahead code final final rest term (eraseInsts rest) term.erase
  | hooked {l of no : Label} {run : Nat} {rest insts : List (Inst Op)} {next : Block Op}
      {term : Terminator Op} (hooks : eraseInsts rest = [])
      (split : code.block (.split run of) = some next) (first : next.phis = [])
      (later : Ahead code final (.split run of) next.insts next.term insts term)
      : Ahead code final l rest (.ifNull run (.split run of) no) insts term

variable {woven f : Function Op} {final l : Label} {insts rest : List (Inst Op)}
  {term : Terminator Op}

/-- A block of the program is ahead where its label is. -/
theorem Unfolds.ahead (unfolds : Unfolds woven final l insts term)
    : ∃ bb, woven.block l = some bb ∧ Ahead woven final l bb.insts bb.term insts term := by
  induction unfolds with
  | body found => exact ⟨_, found, .body⟩
  | hooked found hooks branch split first _ ih =>
      obtain ⟨next, there, later⟩ := ih
      obtain rfl := Option.some.inj (split.symm.trans there)
      refine ⟨_, found, ?_⟩
      rw [branch]
      exact .hooked hooks split first later

theorem Ahead.inserted {own : Terminator Op} {pass : Nat} {inst : Inserted Op}
    (ahead : Ahead woven final l (.inserted pass inst :: rest) term insts own)
    : Ahead woven final l rest term insts own := by
  cases ahead with
  | body => exact .body
  | hooked hooks split first later => exact .hooked hooks split first later

theorem Ahead.settled {own : Terminator Op} (ahead : Ahead woven final l rest term insts own)
    (settled : ∀ run yes no, term = .ifNull run yes no → eraseInsts rest ≠ [])
    : l = final ∧ insts = eraseInsts rest ∧ own = term.erase := by
  cases ahead with
  | body => exact ⟨rfl, rfl, rfl⟩
  | hooked hooks split first later => exact absurd hooks (settled _ _ _ rfl)

/-- The program has no branch on a hook's result, so one leads on to its block. -/
theorem Ahead.ifNull {run : Nat} {yes no : Label}
    (ahead : Ahead woven final l rest (.ifNull run yes no) insts term) (below : term.Below 0)
    : ∃ next,
        woven.block yes = some next
        ∧ next.phis = []
        ∧ Ahead woven final yes next.insts next.term insts term := by
  cases ahead with
  | body => exact absurd below (Nat.not_lt_zero run)
  | @hooked _ _ _ _ _ _ next _ _ split first later => exact ⟨next, split, first, later⟩

/-- A frame of a function of the program. -/
structure Frame.Plain (p : Frame Op V) : Prop where
  code : p.code.Plain
  found : (p.code.block p.label).isSome
  insts : ∀ inst ∈ p.rest, inst.Below 0
  term : p.term.Below 0
  targets : ∀ target ∈ p.term.targets, target.Below 0

/-- A frame of an instrumented function, and one of the program's at the same place. -/
structure Frame.Follows (meaning : Meaning kernel Op V) (q p : Frame Op V) : Prop where
  plain : p.Plain
  ahead
    : ∃ last,
        Instruments meaning last q.code p.code
        ∧ Ahead q.code (last p.label) q.label q.rest q.term p.rest p.term
  values : q.values = p.values
  sound : Sound meaning q.term q.rest q.values q.temps

variable {meaning : Meaning kernel Op V} {task : Task} {place place' : State Op V → Site}
  {q p : Frame Op V}

/-- The program's block at a label. -/
theorem Function.Plain.frame (plain : f.Plain) {bb : Block Op} (found : f.block l = some bb)
    (values : V) (temps : Temps)
    : Frame.Plain ⟨f, l, bb.insts, bb.term, values, temps⟩ where
  code := plain
  found := Option.isSome_iff_exists.mpr ⟨bb, found⟩
  insts := (plain.below.blocks l bb found).insts
  term := (plain.below.blocks l bb found).term
  targets := plain.targets l bb found

/-- Both functions begin, or neither has an entry block. -/
theorem Instrumented.frame {pass : Nat} (instrumented : Instrumented meaning pass woven f)
    (plain : f.Plain) (values : V)
    : Option.Rel (Frame.Follows meaning) (woven.frame values) (f.frame values) := by
  obtain ⟨below, last, instruments⟩ := instrumented
  have entry := instruments.entry
  unfold Function.frame
  rw [entry]
  cases found : f.block f.entry with
  | none =>
      obtain ⟨index, same⟩ := plain.below.entry.plain
      rw [same] at found ⊢
      rw [instruments.missing index found]
      exact .none
  | some bb =>
      obtain ⟨head, there, ahead⟩ := (instruments.unfolds _ bb found).ahead
      rw [there]
      exact .some {
        plain := plain.frame found values _
        ahead := ⟨last, instruments, ahead⟩
        values := rfl
        sound := instruments.sound _ head there values _ }

/-- Both frames go to a block, or neither function has it. -/
theorem Frame.Follows.goto {target : Label} {last : Label → Label} (plain : p.Plain)
    (instruments : Instruments meaning last q.code p.code) (label : q.label = last p.label)
    (values : q.values = p.values) (below : target.Below 0)
    : Option.Rel (Frame.Follows meaning) (q.goto meaning target) (p.goto meaning target) := by
  unfold Frame.goto
  cases found : p.code.block target with
  | none =>
      obtain ⟨index, rfl⟩ := below.plain
      rw [instruments.missing index found]
      exact .none
  | some bb =>
      obtain ⟨head, there, picks⟩ := instruments.phis target bb found
      obtain ⟨same, there', ahead⟩ := (instruments.unfolds target bb found).ahead
      obtain rfl := Option.some.inj (there.symm.trans there')
      have picks := picks p.label plain.found
      rw [there]
      refine .some {
        plain := plain.code.frame found _ _
        ahead := ⟨last, instruments, ahead⟩
        values := ?_
        sound := instruments.sound target head there _ _ }
      dsimp only
      rw [label, picks, values]

-----------------------------------------------------------------------------------------
-- States
-----------------------------------------------------------------------------------------

/-- Two callers that wait for the same call; they go on whatever it changes. -/
structure CallerFollows (meaning : Meaning kernel Op V) (q p : Op × Frame Op V) : Prop where
  call : q.1 = p.1
  values : q.2.values = p.2.values
  resumes : ∀ values, Frame.Follows meaning { q.2 with values } { p.2 with values }

/-- An instrumented run and one of the program at the same place. -/
structure State.Follows (meaning : Meaning kernel Op V) (task : Task) (q p : State Op V)
    : Prop where
  top : q.top.Follows meaning p.top
  callers : List.Forall₂ (CallerFollows meaning) q.callers p.callers
  alone : LeavesAlone kernel task q.rt
  agree : Agree kernel q.rt.mem p.rt.mem

/-- The next instruction is the program's. -/
structure Frame.Settled (q : Frame Op V) : Prop where
  rest : ∀ pass inst rest, q.rest ≠ .inserted pass inst :: rest
  term : ∀ run yes no, q.term = .ifNull run yes no → q.rest ≠ []

/-- A step of a module, with its label. -/
def Module.Steps (m : Module Op) (meaning : Meaning kernel Op V) (task : Task)
    (place : State Op V → Site) (q : State Op V) (shown : Option (Shown Op)) (q' : State Op V)
    : Prop :=
  m.step meaning task place q = some (shown, q')

-----------------------------------------------------------------------------------------
-- Silent steps
-----------------------------------------------------------------------------------------

variable {q p : State Op V} {m woven : Module Op}

/-- An inserted instruction runs, silently. -/
theorem State.Follows.inserted {pass : Nat} {inst : Inserted Op} {rest : List (Inst Op)}
    (follows : State.Follows meaning task q p) (next : q.top.rest = .inserted pass inst :: rest)
    : ∃ temps rt,
        woven.Steps meaning task place q none { q with top := { q.top with rest, temps }, rt }
        ∧ State.Follows meaning task { q with top := { q.top with rest, temps }, rt } p := by
  obtain ⟨⟨plain, ⟨last, instruments, ahead⟩, values, sound⟩, callers, alone, agree⟩ := follows
  rw [next] at sound ahead
  obtain ⟨ready, leads⟩ := sound
  have ends := @Inserted.run_passes kernel task q.rt Op V meaning q.top.values q.top.temps
    (place q) pass inst alone ready
  cases result : inst.run meaning q.top.values q.top.temps task (place q) pass q.rt with
  | error e t => exact (ends.of_error result).elim
  | ok value t =>
      obtain ⟨yields, passed⟩ := ends.of_ok result
      refine ⟨q.top.temps.put ⟨pass, inst.name⟩ value, t, ?_, {
        top := ⟨plain, ⟨last, instruments, ahead.inserted⟩, values, leads value yields⟩
        callers := callers
        alone := passed.alone
        agree := fun b outside => (passed.agree b outside).trans (agree b outside) }⟩
      unfold Module.Steps Module.step
      rw [next]
      dsimp only
      rw [result]

/-- Behind the hooks of an exception handler the run goes on to the block, silently. -/
theorem State.Follows.ifNull {run : Nat} {yes no : Label}
    (follows : State.Follows meaning task q p) (done : q.top.rest = [])
    (hooked : q.top.term = .ifNull run yes no)
    : ∃ next,
        q.top.code.block yes = some next
        ∧ woven.Steps meaning task place q none
          { q with top := { q.top with label := yes, rest := next.insts, term := next.term } }
        ∧ State.Follows meaning task
            { q with top := { q.top with label := yes, rest := next.insts, term := next.term } }
            p := by
  obtain ⟨⟨plain, ⟨last, instruments, ahead⟩, values, sound⟩, callers, alone, agree⟩ := follows
  rw [done, hooked] at ahead sound
  have set : q.top.temps ⟨run, .isNull⟩ ≠ 0 := sound
  obtain ⟨next, split, first, later⟩ := ahead.ifNull plain.term
  have kept : meaning.phi (next.phis.map fun phi => phi.incoming.lookup q.top.label)
      q.top.values = q.top.values := by
    rw [first]
    exact meaning.phi_nil _
  refine ⟨next, split, ?_, {
    top := ⟨plain, ⟨last, instruments, later⟩, values, instruments.sound _ next split _ _⟩
    callers := callers
    alone := alone
    agree := agree }⟩
  unfold Module.Steps Module.step
  rw [done, hooked]
  dsimp only
  rw [if_pos set]
  simp only [State.goto, Frame.goto, split, Option.map_some, kept]

/-- Before anything else the step is silent. -/
theorem State.Follows.unsettled (follows : State.Follows meaning task q p)
    (unsettled : ¬q.top.Settled)
    : ∃ q', woven.Steps meaning task place q none q' ∧ State.Follows meaning task q' p := by
  by_cases hook : ∃ pass inst rest, q.top.rest = .inserted pass inst :: rest
  · obtain ⟨pass, inst, rest, there⟩ := hook
    obtain ⟨temps, rt, steps, next⟩ := follows.inserted there
    exact ⟨_, steps, next⟩
  · by_cases branch : ∃ run yes no, q.top.term = .ifNull run yes no ∧ q.top.rest = []
    · obtain ⟨run, yes, no, atEnd, done⟩ := branch
      obtain ⟨next, _, steps, behind⟩ := follows.ifNull done atEnd
      exact ⟨_, steps, behind⟩
    · exact absurd ⟨fun pass inst rest there => hook ⟨pass, inst, rest, there⟩,
        fun run yes no atEnd done => branch ⟨run, yes, no, atEnd, done⟩⟩ unsettled

/-- The hooks in front of an instruction run, by induction on the rest of the block. -/
theorem State.Follows.drains (follows : State.Follows meaning task q p)
    : ∃ rest temps rt,
        Trace (woven.Steps meaning task place) q []
          { q with top := { q.top with rest, temps }, rt }
        ∧ State.Follows meaning task { q with top := { q.top with rest, temps }, rt } p
        ∧ eraseInsts rest = eraseInsts q.top.rest
        ∧ ∀ pass inst later, rest ≠ .inserted pass inst :: later := by
  obtain ⟨insts, same⟩ : ∃ insts, q.top.rest = insts := ⟨_, rfl⟩
  induction insts generalizing q with
  | nil => exact ⟨q.top.rest, q.top.temps, q.rt, .refl, follows, rfl, by simp [same]⟩
  | cons inst insts ih =>
      cases inst with
      | inserted pass inst =>
          obtain ⟨temps, rt, steps, next⟩ := follows.inserted same
          obtain ⟨rest, temps', rt', run, settled, erased, stands⟩ := ih next rfl
          refine ⟨rest, temps', rt', run.behind steps, settled, ?_, stands⟩
          rw [erased, same]
          rfl
      | plain op | call called op | load access size op | store access size op
      | memIntrinsic access narrow op =>
          exact ⟨q.top.rest, q.top.temps, q.rt, .refl, follows, rfl, by simp [same]⟩

theorem eraseInsts_ne_nil {inst : Inst Op} {rest : List (Inst Op)}
    (own : ∀ pass hook, inst ≠ .inserted pass hook)
    : eraseInsts (inst :: rest) ≠ [] := by
  cases inst with
  | inserted pass hook => exact absurd rfl (own pass hook)
  | plain op | call called op | load access size op | store access size op
  | memIntrinsic access narrow op => simp [eraseInsts, Inst.erase]

/-- Silent steps end before an instruction of the program, by induction on the hooked blocks
ahead.
-/
theorem Ahead.settles {code : Function Op} {own : Terminator Op}
    (ahead : Ahead code final l rest term insts own) (below : own.Below 0)
    (follows : State.Follows meaning task q p) (inCode : q.top.code = code)
    (atRest : q.top.rest = rest) (atTerm : q.top.term = term)
    : ∃ q',
        Trace (woven.Steps meaning task place) q [] q'
        ∧ State.Follows meaning task q' p
        ∧ q'.top.Settled := by
  induction ahead generalizing q with
  | @body rest term =>
      obtain ⟨rest', temps, rt, run, next, _, stands⟩ :=
        @State.Follows.drains Op V kernel meaning task place q p woven follows
      refine ⟨_, run, next, stands, fun run yes no hooked => ?_⟩
      rw [← atTerm, hooked] at below
      exact absurd below (Nat.not_lt_zero run)
  | @hooked l of no run rest insts next term hooks split first later ih =>
      obtain ⟨rest', temps, rt, drained, standing, erased, stands⟩ :=
        @State.Follows.drains Op V kernel meaning task place q p woven follows
      have done : rest' = [] := by
        cases rest' with
        | nil => rfl
        | cons inst later =>
            refine absurd (erased.trans ((congrArg eraseInsts atRest).trans hooks)) ?_
            exact eraseInsts_ne_nil fun pass hook same => stands pass hook later (same ▸ rfl)
      obtain ⟨there, found, steps, behind⟩ := standing.ifNull done atTerm
      obtain rfl : there = next := Option.some.inj (found.symm.trans (inCode ▸ split))
      obtain ⟨q', run, follows', settled⟩ := ih below behind inCode rfl rfl
      exact ⟨q', (drained.silent steps).trans run, follows', settled⟩

theorem State.Follows.settles (follows : State.Follows meaning task q p)
    : ∃ q',
        Trace (woven.Steps meaning task place) q [] q'
        ∧ State.Follows meaning task q' p
        ∧ q'.top.Settled := by
  obtain ⟨last, _, ahead⟩ := follows.top.ahead
  exact ahead.settles follows.top.plain.term follows rfl rfl rfl

-----------------------------------------------------------------------------------------
-- Visible steps
-----------------------------------------------------------------------------------------

/-- Both states take a step that shows the same, or neither takes one. -/
abbrev StepsAlike (meaning : Meaning kernel Op V) (task : Task)
    (a b : Option (Option (Shown Op) × State Op V))
    : Prop :=
  Option.Rel
    (fun a b =>
      a.1 = b.1 ∧ a.1.isSome ∧ State.Follows meaning task a.2 b.2) a b

theorem Agree.symm {mem other : Memory} (agree : Agree kernel mem other)
    : Agree kernel other mem :=
  fun b outside => (agree b outside).symm

/-- The program runs an instruction in both runs, on memories that agree. -/
theorem State.Follows.exec {op : Op} {ptr : Address} {rest rest' : List (Inst Op)}
    (follows : State.Follows meaning task q p)
    (resumes : ∀ values, Frame.Follows meaning { q.top with rest, values }
      { p.top with rest := rest', values })
    : StepsAlike meaning task (q.exec meaning op ptr rest) (p.exec meaning op ptr rest') := by
  have alike := follows.top.values
  unfold State.exec
  rw [alike]
  cases runs : meaning.exec op ptr p.top.values p.rt.mem with
  | none =>
      cases runs' : meaning.exec op ptr p.top.values q.rt.mem with
      | none => exact .none
      | some next =>
          obtain ⟨values, mem⟩ := next
          obtain ⟨_, other, _⟩ :=
            meaning.exec_agree op ptr p.top.values q.rt.mem p.rt.mem values mem follows.agree runs'
          exact absurd (runs.symm.trans other) (by simp)
  | some next =>
      obtain ⟨values, mem⟩ := next
      obtain ⟨mem', runs', agree⟩ :=
        meaning.exec_agree op ptr p.top.values p.rt.mem q.rt.mem values mem follows.agree.symm runs
      rw [runs']
      refine .some ⟨rfl, rfl, {
        top := resumes values
        callers := follows.callers
        alone := ?_
        agree := agree.symm }⟩
      have spared := meaning.exec_spares op ptr p.top.values q.rt.mem values mem' runs'
        kernel.swapBranchCondition
      exact {
        idle := follows.alone.idle
        disabled := follows.alone.disabled
        clear := (spared (by simp [Within])).trans follows.alone.clear
        unlisted := follows.alone.unlisted }

/-- Before an instruction of the program both frames are in the same block. -/
theorem Frame.Follows.body {q p : Frame Op V} (follows : Frame.Follows meaning q p)
    (settled : q.Settled)
    : ∃ last,
        Instruments meaning last q.code p.code
        ∧ q.label = last p.label
        ∧ p.rest = eraseInsts q.rest
        ∧ p.term = q.term.erase := by
  obtain ⟨last, instruments, ahead⟩ := follows.ahead
  refine ⟨last, instruments, ahead.settled fun run yes no hooked => ?_⟩
  cases same : q.rest with
  | nil => exact absurd same (settled.term run yes no hooked)
  | cons inst rest =>
      exact eraseInsts_ne_nil fun pass hook inserted =>
        settled.rest pass hook rest (inserted ▸ same)

/-- Behind an instruction of the program, whatever it computes. -/
theorem Frame.Follows.next {q p : Frame Op V} {inst inst' : Inst Op}
    (follows : Frame.Follows meaning q p) (settled : q.Settled) (there : q.rest = inst :: rest)
    (own : inst.erase = some inst') (leads : ∀ values, Sound meaning q.term rest values q.temps)
    : p.rest = inst' :: eraseInsts rest
      ∧ ∀ values,
          Frame.Follows meaning { q with rest, values }
            { p with rest := eraseInsts rest, values } := by
  obtain ⟨last, instruments, label, insts, term⟩ := follows.body settled
  rw [there] at insts
  have insts : p.rest = inst' :: eraseInsts rest := insts.trans (List.filterMap_cons_some own)
  have below := follows.plain.insts
  rw [insts] at below
  refine ⟨insts, fun values => {
    plain := { follows.plain with insts := (List.forall_mem_cons.mp below).2 }
    ahead := ⟨last, instruments, ?_⟩
    values := rfl
    sound := leads values }⟩
  dsimp only
  rw [label, term]
  exact .body

/-- A call finds the function that the passes made of the program's. -/
theorem find_instrumented {pass : Nat}
    (instrumented : List.Forall₂ (Instrumented meaning pass) woven.functions m.functions)
    (name : String)
    : Option.Rel (Instrumented meaning pass) (woven.find name) (m.find name) := by
  unfold Module.find
  generalize woven.functions = gs at instrumented ⊢
  generalize m.functions = fs at instrumented ⊢
  induction instrumented with
  | nil => exact .none
  | @cons g f gs fs first _ ih =>
      obtain ⟨_, _, instruments⟩ := id first
      rw [List.find?_cons, List.find?_cons, instruments.listed]
      split
      · exact .some first
      · exact ih

theorem called_instrumented {pass : Nat}
    (instrumented : List.Forall₂ (Instrumented meaning pass) woven.functions m.functions)
    (op : Op) (values : V)
    : Option.Rel (Instrumented meaning pass) (woven.called meaning op values)
        (m.called meaning op values) := by
  unfold Module.called
  cases meaning.callee op values with
  | none => exact .none
  | some name => exact find_instrumented instrumented name

theorem Module.called_mem {op : Op} {values : V} {f : Function Op}
    (found : m.called meaning op values = some f)
    : f ∈ m.functions := by
  obtain ⟨name, _, found⟩ := Option.bind_eq_some_iff.mp found
  exact List.mem_of_find?_eq_some found

/-- Both runs go to a block of the running function. -/
theorem State.Follows.goto {target : Label} {last : Label → Label} {shown : Shown Op}
    (follows : State.Follows meaning task q p)
    (instruments : Instruments meaning last q.top.code p.top.code)
    (label : q.top.label = last p.top.label) (below : target.Below 0)
    : StepsAlike meaning task (q.goto meaning target (some shown))
        (p.goto meaning target (some shown)) := by
  have goes := Frame.Follows.goto follows.top.plain instruments label follows.top.values below
  unfold State.goto
  generalize q.top.goto meaning target = there at goes ⊢
  generalize p.top.goto meaning target = there' at goes ⊢
  cases goes with
  | none => exact .none
  | some top => exact .some ⟨rfl, rfl, { follows with top }⟩

/-- Both runs return, or neither has a caller. -/
theorem State.Follows.leave {shown : Shown Op} {result result' : (call : Op) → (caller : V) → V}
    (follows : State.Follows meaning task q p) (same : result = result')
    : StepsAlike meaning task (q.leave shown result) (p.leave shown result') := by
  subst same
  obtain ⟨top, callers, rt⟩ := q
  obtain ⟨top', callers', rt'⟩ := p
  have waiting : List.Forall₂ (CallerFollows meaning) callers callers' := follows.callers
  unfold State.leave
  cases waiting with
  | nil => exact .none
  | @cons q p qs ps first others =>
      obtain ⟨call, caller⟩ := q
      obtain ⟨call', caller'⟩ := p
      obtain rfl : call = call' := first.call
      have values : caller.values = caller'.values := first.values
      refine .some ⟨rfl, rfl, {
        top := ?_
        callers := others
        alone := follows.alone
        agree := follows.agree }⟩
      dsimp only
      rw [values]
      exact first.resumes _

/-- A visible step of either module is one of the other. -/
theorem State.Follows.alike {pass : Nat} (follows : State.Follows meaning task q p)
    (settled : q.top.Settled) (plain : ∀ f ∈ m.functions, f.Plain)
    (instrumented : List.Forall₂ (Instrumented meaning pass) woven.functions m.functions)
    : StepsAlike meaning task (woven.step meaning task place q) (m.step meaning task place' p) := by
  cases there : q.top.rest with
  | nil =>
      obtain ⟨last, instruments, label, insts, term⟩ := follows.top.body settled
      have sound := follows.top.sound
      have targets := follows.top.plain.targets
      rw [there] at insts sound
      rw [term] at targets
      unfold Module.step
      rw [there, insts, term]
      cases atEnd : q.top.term with
      | ret op => exact follows.leave (by rw [follows.top.values])
      | br target =>
          rw [atEnd] at targets
          exact follows.goto instruments label (targets target (by simp [Terminator.erase,
            Terminator.targets]))
      | condBr condition op yes no =>
          rw [atEnd] at sound targets
          have taken : condition.holds meaning q.top.values q.top.temps op
              = Operand.own.holds meaning p.top.values p.top.temps op :=
            Eq.trans sound (by rw [follows.top.values]; rfl)
          dsimp only [Terminator.erase]
          rw [taken]
          refine follows.goto instruments label (targets _ ?_)
          split <;> simp [Terminator.erase, Terminator.targets]
      | other op labels =>
          rw [atEnd] at targets
          dsimp only [Terminator.erase]
          rw [follows.top.values]
          cases chosen : meaning.successor op p.top.values labels with
          | none => exact .none
          | some target =>
              exact follows.goto instruments label
                (targets target (meaning.successor_mem _ _ _ _ chosen))
      | ifNull run yes no => exact absurd there (settled.term run yes no atEnd)
      | retVoid run => exact follows.leave rfl
  | cons inst rest =>
      have sound := follows.top.sound
      rw [there] at sound
      cases inst with
      | inserted pass inst => exact absurd there (settled.rest pass inst rest)
      | plain op =>
          obtain ⟨insts, next⟩ := follows.top.next settled there rfl sound.2
          unfold Module.step
          rw [there, insts]
          exact follows.exec next
      | call called op =>
          obtain ⟨insts, next⟩ := follows.top.next settled there rfl sound.2
          have found := called_instrumented instrumented op p.top.values
          have known (f : Function Op) := @Module.called_mem Op V kernel meaning m op p.top.values f
          have values := follows.top.values
          unfold Module.step
          rw [there, insts]
          dsimp only
          rw [values]
          generalize woven.called meaning op p.top.values = g at found ⊢
          generalize m.called meaning op p.top.values = f at found known ⊢
          cases found with
          | none => exact follows.exec next
          | @some g f first =>
              obtain ⟨_, _, instruments⟩ := id first
              have begins := first.frame (plain f (known f rfl))
                (meaning.arguments op p.top.values)
              dsimp only
              rw [instruments.listed]
              generalize g.frame (meaning.arguments op p.top.values) = top at begins ⊢
              generalize f.frame (meaning.arguments op p.top.values) = top' at begins ⊢
              cases begins with
              | none => exact .none
              | some top =>
                  exact .some ⟨rfl, rfl, {
                    top
                    callers := .cons ⟨rfl, rfl, next⟩ follows.callers
                    alone := follows.alone
                    agree := follows.agree }⟩
      | load access size op | store access size op | memIntrinsic access narrow op =>
          obtain ⟨insts, next⟩ := follows.top.next settled there rfl sound.2
          have ptr : access.ptr.address meaning q.top.values q.top.temps op
              = Operand.own.address meaning p.top.values p.top.temps op :=
            Eq.trans sound.1 (by rw [follows.top.values]; rfl)
          unfold Module.step
          rw [there, insts]
          dsimp only
          rw [ptr]
          exact follows.exec next

-----------------------------------------------------------------------------------------
-- Runs
-----------------------------------------------------------------------------------------

variable {pass : Nat}

/-- The instrumented module does nothing that the program does not. -/
theorem instrumented_matched (plain : ∀ f ∈ m.functions, f.Plain)
    (instrumented : List.Forall₂ (Instrumented meaning pass) woven.functions m.functions)
    : Matches (woven.Steps meaning task place) (m.Steps meaning task place')
        (State.Follows meaning task) := by
  intro q q' p shown follows steps
  by_cases settled : q.top.Settled
  · obtain ⟨⟨_, p'⟩, moves, rfl, visible, next⟩ :=
      rel_of_left (follows.alike settled plain instrumented) steps
    obtain ⟨l, rfl⟩ := Option.isSome_iff_exists.mp visible
    exact ⟨p', Trace.refl.visible moves, next⟩
  · obtain ⟨q'', silent, next⟩ := follows.unsettled settled
    cases Option.some.inj (steps.symm.trans silent)
    exact ⟨p, .refl, next⟩

/-- The instrumented module does everything that the program does. -/
theorem program_matched (plain : ∀ f ∈ m.functions, f.Plain)
    (instrumented : List.Forall₂ (Instrumented meaning pass) woven.functions m.functions)
    : Matches (m.Steps meaning task place') (woven.Steps meaning task place)
        (fun p q => State.Follows meaning task q p) := by
  intro p p' q shown follows steps
  obtain ⟨settled, run, there, ready⟩
      : ∃ q', Trace (woven.Steps meaning task place) q [] q'
          ∧ State.Follows meaning task q' p ∧ q'.top.Settled :=
    follows.settles
  obtain ⟨⟨seen, q'⟩, moves, same, _, next⟩ :=
    rel_of_right (there.alike ready plain instrumented) steps
  obtain rfl : seen = shown := same
  refine ⟨q', ?_, next⟩
  cases seen with
  | none => exact run.silent moves
  | some l => exact run.visible moves

/-- A run of a module from a function shows `labels`, and leaves the running function with
`final` and memory as in `mem`, off the flag.
-/
def Module.Shows (m : Module Op) (meaning : Meaning kernel Op V) (task : Task)
    (place : State Op V → Site) (name : String) (values : V) (rt : Rt) (labels : List (Shown Op))
    (final : V) (mem : Memory)
    : Prop :=
  ∃ q q',
    m.start name values rt = some q
    ∧ Trace (m.Steps meaning task place) q labels q'
    ∧ q'.top.values = final
    ∧ Agree kernel q'.rt.mem mem

/-- Runs of both modules begin, or neither has the function. -/
theorem start_instrumented {rt : Rt} (plain : ∀ f ∈ m.functions, f.Plain)
    (instrumented : List.Forall₂ (Instrumented meaning pass) woven.functions m.functions)
    (alone : LeavesAlone kernel task rt) (name : String) (values : V)
    : Option.Rel (State.Follows meaning task) (woven.start name values rt)
        (m.start name values rt) := by
  have found := find_instrumented instrumented name
  have known (f : Function Op) (first : m.find name = some f) := plain f
    (List.mem_of_find?_eq_some first)
  unfold Module.start
  generalize woven.find name = g at found ⊢
  generalize m.find name = f at found known ⊢
  cases found with
  | none => exact .none
  | @some g f first =>
      have begins := first.frame (known f rfl) values
      simp only [Option.bind_some]
      generalize g.frame values = top at begins ⊢
      generalize f.frame values = top' at begins ⊢
      cases begins with
      | none => exact .none
      | some top => exact .some ⟨top, .nil, alone, fun _ _ => rfl⟩

/-- Where the runtime leaves the task alone, passes change nothing of what a program does,
whichever passes run and in whatever order.
-/
theorem runPasses_preserve (meaning : Meaning kernel Op V) (task : Task)
    (place place' : State Op V → Site) (passes : List Pass) {m : Module Op} {rt : Rt}
    (plain : ∀ f ∈ m.functions, f.Plain) (alone : LeavesAlone kernel task rt) (name : String)
    (values : V) (labels : List (Shown Op)) (final : V) (mem : Memory)
    : (runPasses 0 passes m).Shows meaning task place name values rt labels final mem
      ↔ m.Shows meaning task place' name values rt labels final mem := by
  have given : List.Forall₂ (Instrumented meaning 0) m.functions m.functions :=
    List.forall₂_same.mpr fun f member => (plain f member).instrumented
  have instrumented := runPasses_instrumented passes given
  have begins := start_instrumented plain instrumented alone name values
  constructor
  · rintro ⟨q, q', starts, run, rfl, agree⟩
    obtain ⟨p, starts', follows⟩ := rel_of_left begins starts
    obtain ⟨p', run', follows'⟩ := (instrumented_matched plain instrumented).trace follows run
    exact ⟨p, p', starts', run', follows'.top.values.symm,
      fun b outside => (follows'.agree b outside).symm.trans (agree b outside)⟩
  · rintro ⟨p, p', starts, run, rfl, agree⟩
    obtain ⟨q, starts', follows⟩ := rel_of_right begins starts
    obtain ⟨q', run', follows'⟩ := (program_matched plain instrumented).trace follows run
    exact ⟨q, q', starts', run', follows'.top.values,
      fun b outside => (follows'.agree b outside).trans (agree b outside)⟩

/-- The blocks of a function that has two. -/
def sampleBlocks (first second : Block String) : Label → Option (Block String)
  | .block 0 => some first
  | .block 1 => some second
  | _ => none

/-- A function that stores and calls a handler of page faults. -/
def sampleModule : Module String where
  name := "vmlinux.o"
  functions := [
    { listed := ⟨"vfs_read", 0x400500, fun _ => false⟩
      entry := .block 0
      block :=
        sampleBlocks
          { phis := []
            insts :=
              [.store ⟨true, true, .own⟩ 8 "store", .call (.function "exc_page_fault") "call"]
            term := .condBr .own "test" (.block 1) (.block 0) }
          { phis := [], insts := [], term := .ret "return" } },
    { listed := ⟨"exc_page_fault", 0x400600, fun category => category == .exception⟩
      entry := .block 0
      block :=
        sampleBlocks { phis := [], insts := [.plain "handle"], term := .br (.block 1) }
          { phis := [⟨[(.block 0, "handled")]⟩], insts := [], term := .ret "handled" } } ]

/-- It counts what runs; the store sets a byte. -/
def sampleMeaning : Meaning sampleKernel String Nat where
  exec := fun op ptr values mem =>
    if Within sampleKernel.swapBranchCondition 4 ptr then
      none
    else
      some (values + 1, if op = "store" then writeBytes mem ptr [1] else mem)
  pointer := fun _ _ => 0x500000
  length := fun _ _ => 8
  condition := fun _ values => .value (values == 13)
  calledAddress := fun _ _ => 0x400600
  callee := fun _ _ => some "exc_page_fault"
  arguments := fun _ values => values
  result := fun _ _ _ callee => callee
  phi := fun incoming values =>
    if incoming = [some "handled"] then values + 11 else values
  successor := fun _ _ targets => targets.head?
  exec_spares := by
    intro op ptr values mem values' mem' runs b inside
    split at runs
    · cases runs
    · cases runs
      split
      · rw [writeBytes_singleton]
        refine if_neg ?_
        rintro rfl
        contradiction
      · rfl
  exec_agree := by
    intro op ptr values mem other values' mem' agree runs
    split at runs
    · cases runs
    · cases runs
      refine ⟨_, if_neg ‹_›, fun b outside => ?_⟩
      split
      · rw [writeBytes_singleton, writeBytes_singleton, agree b outside]
      · exact agree b outside
  phi_nil := fun _ => rfl
  successor_mem := fun _ _ _ _ chosen => List.mem_of_mem_head? chosen

/-- The runtime is initialised, and system calls are listed. -/
def sampleUnlisted : Rt := { sampleRt with whitelistType := .syscall }

/-- Where the sample's hooks run. -/
def sampleIrSite : Site where
  frames := sampleFrames
  inInterrupt := false
  frameaddress := 0x70200
  rsp := 0x70100
  returnAddress := 0x400100
  regs := 0x71000
  cpu := fun _ => 0
  resumeAddress := 0x400200
  pfDummyRegion := 0x1800000
  addrValid := true
  frameaddress_ne := by decide

theorem sampleBlocks_found {first second bb : Block String} {l : Label}
    (found : sampleBlocks first second l = some bb)
    : (l = .block 0 ∧ bb = first) ∨ (l = .block 1 ∧ bb = second) := by
  unfold sampleBlocks at found
  split at found
  · exact .inl ⟨rfl, (Option.some.inj found).symm⟩
  · exact .inr ⟨rfl, (Option.some.inj found).symm⟩
  · cases found

/-- What makes a function of two blocks a plain one. -/
theorem sampleBlocks_plain {listed : ListedFunction} {first second : Block String}
    (plain
      : ∀ bb ∈ [first, second],
          bb.Below 0
          ∧ (∀ phi ∈ bb.phis, ∀ p ∈ phi.incoming, p.1.Below 0)
          ∧ ∀ target ∈ bb.term.targets, target.Below 0)
    : Function.Plain ⟨listed, .block 0, sampleBlocks first second⟩ := by
  have known l bb (found : sampleBlocks first second l = some bb)
      : l.Below 0 ∧ bb ∈ [first, second] := by
    rcases sampleBlocks_found found with ⟨rfl, rfl⟩ | ⟨rfl, rfl⟩
    · exact ⟨True.intro, by simp⟩
    · exact ⟨True.intro, by simp⟩
  exact {
    below := {
      entry := True.intro
      labels := fun l bb found => (known l bb found).1
      blocks := fun l bb found => (plain bb (known l bb found).2).1
      phis := fun l bb found => (plain bb (known l bb found).2).2.1 }
    targets := fun l bb found => (plain bb (known l bb found).2).2.2 }

theorem sampleModule_plain : ∀ f ∈ sampleModule.functions, f.Plain := by
  refine List.forall_mem_cons.mpr ⟨sampleBlocks_plain ?_,
    List.forall_mem_cons.mpr ⟨sampleBlocks_plain ?_, List.forall_mem_nil _⟩⟩
  all_goals
    intro bb member
    rcases List.mem_pair.mp member with rfl | rfl
    all_goals
      refine ⟨⟨?_, ?_⟩, ?_, ?_⟩ <;>
        simp [Inst.Below, Operand.Below, Terminator.Below, Terminator.targets, Label.Below]

theorem sampleUnlisted_alone : LeavesAlone sampleKernel sampleEnv.task sampleUnlisted where
  idle := rfl
  disabled := rfl
  clear := rfl
  unlisted := fun _ => rfl

theorem runPasses_preserve_sample
    : (runPasses 0 [.kspecemSpec, .kspecem, .kspecemCheckSpecLength, .kspecemPfChecker]
        sampleModule).Shows sampleMeaning sampleEnv.task (fun _ => sampleIrSite) "vfs_read" 0
        sampleUnlisted
        [.exec "store" 0x500000, .enter "call" "exc_page_fault", .exec "handle" 0,
          .goto (.block 1), .leave "handled", .branch "test" true]
        13 (writeBytes sampleUnlisted.mem 0x500000 [1]) := by
  refine (runPasses_preserve sampleMeaning sampleEnv.task (fun _ => sampleIrSite)
    (fun _ => sampleIrSite) _ sampleModule_plain sampleUnlisted_alone _ _ _ _ _).mpr ?_
  exact ⟨_, _, rfl,
    Trace.cons rfl (Trace.cons rfl (Trace.cons rfl (Trace.cons rfl (Trace.cons rfl
      (Trace.cons rfl .refl))))),
    rfl, fun _ _ => rfl⟩

end Kasper.Ir
