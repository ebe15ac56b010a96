import Kasper.Correctness.Weaving

/-! What the passes make of whole functions. A block of the program is found in the output
under its own label, behind the hooks of an exception handler if the block was split.
-/

namespace Kasper.Ir

open ByteMemory

variable {Op V : Type} {kernel : Kernel}

/-- The label is of the program or of a run before `pass`. -/
def Label.Below (pass : Nat) : Label → Prop
  | .block _ => True
  | .split run of => run < pass ∧ of.Below pass
  | .returnBlock run => run < pass

theorem Label.Below.mono {pass next : Nat} {l : Label} (below : l.Below pass) (later : pass ≤ next)
    : l.Below next := by
  induction l with
  | block index => exact True.intro
  | split run of ih => exact ⟨Nat.lt_of_lt_of_le below.1 later, ih below.2⟩
  | returnBlock run => exact Nat.lt_of_lt_of_le below later

/-- The function has nothing of the run `pass` or a later one. -/
structure Function.Below (pass : Nat) (f : Function Op) : Prop where
  entry : f.entry.Below 0
  labels : ∀ l bb, f.block l = some bb → l.Below pass
  blocks : ∀ l bb, f.block l = some bb → bb.Below pass
  phis : ∀ l bb, f.block l = some bb → ∀ phi ∈ bb.phis, ∀ p ∈ phi.incoming, p.1.Below pass

/-- The code a block of the program has in the output: from the label on, past the hooks of
exception handlers, to the block `last` that ends as the program's does.
-/
inductive Unfolds (f : Function Op) (last : Label)
    : Label → List (Inst Op) → Terminator Op → Prop
  | body {bb : Block Op} (found : f.block last = some bb)
      : Unfolds f last last (eraseInsts bb.insts) bb.term.erase
  | hooked {l of no : Label} {run : Nat} {bb next : Block Op} {insts : List (Inst Op)}
      {term : Terminator Op} (found : f.block l = some bb) (hooks : eraseInsts bb.insts = [])
      (branch : bb.term = .ifNull run (.split run of) no)
      (split : f.block (.split run of) = some next) (first : next.phis = [])
      (rest : Unfolds f last (.split run of) insts term)
      : Unfolds f last l insts term

/-- `woven` is what runs of passes made of `f`, whose block `l` ends in the block `last l`. -/
structure Instruments (meaning : Meaning kernel Op V) (last : Label → Label)
    (woven f : Function Op)
    : Prop where
  listed : woven.listed = f.listed
  entry : woven.entry = f.entry
  sound
    : ∀ l bb, woven.block l = some bb → ∀ values temps, Sound meaning bb.term bb.insts values temps
  unfolds : ∀ l bb, f.block l = some bb → Unfolds woven (last l) l bb.insts bb.term
  phis
    : ∀ l bb,
        f.block l = some bb
        → ∃ head,
            woven.block l = some head
            ∧ ∀ p,
                (f.block p).isSome
                → head.phis.map (fun phi => phi.incoming.lookup (last p))
                  = bb.phis.map (fun phi => phi.incoming.lookup p)
  missing : ∀ index, f.block (.block index) = none → woven.block (.block index) = none

variable {meaning : Meaning kernel Op V} {last : Label → Label} {woven f : Function Op}
  {pass : Nat}

theorem Terminator.erase_ifNull {term : Terminator Op} {run : Nat} {yes no : Label}
    (same : term.erase = .ifNull run yes no)
    : term = .ifNull run yes no := by
  cases term with
  | condBr condition op yes no => cases same
  | _ => exact same

-----------------------------------------------------------------------------------------
-- Block by block
-----------------------------------------------------------------------------------------

theorem Unfolds.mapBlocks {visit : Label → Block Op → Block Op} {final l : Label}
    {insts : List (Inst Op)} {term : Terminator Op}
    (weaves
      : ∀ l bb, woven.block l = some bb → bb.Weaves meaning pass (visit l bb))
    (unfolds : Unfolds woven final l insts term)
    : Unfolds (woven.mapBlocks visit) final l insts term := by
  have visited {l : Label} {bb : Block Op} (found : woven.block l = some bb)
      : (woven.mapBlocks visit).block l = some (visit l bb) :=
    congrArg (Option.map (visit l)) found
  induction unfolds with
  | body found =>
      have woven := (weaves _ _ found).2
      rw [← woven.sameInsts, ← woven.sameTerm]
      exact .body (visited found)
  | hooked found hooks branch split first _ ih =>
      have woven := (weaves _ _ found).2
      have ends := woven.sameTerm
      rw [branch] at ends
      exact .hooked (visited found) (woven.sameInsts.trans hooks) (Terminator.erase_ifNull ends)
        (visited split) ((weaves _ _ split).1.trans first) ih

theorem Instruments.mapBlocks {visit : Label → Block Op → Block Op}
    (instruments : Instruments meaning last woven f)
    (weaves
      : ∀ l bb, woven.block l = some bb → bb.Weaves meaning pass (visit l bb))
    : Instruments meaning last (woven.mapBlocks visit) f where
  listed := instruments.listed
  entry := instruments.entry
  sound := by
    intro l bb found values temps
    obtain ⟨old, before, rfl⟩ := Option.map_eq_some_iff.mp found
    exact (weaves l old before).2.sound values temps temps (fun _ _ => rfl)
      (instruments.sound l old before values temps)
  unfolds := fun l bb found => (instruments.unfolds l bb found).mapBlocks weaves
  phis := by
    intro l bb found
    obtain ⟨head, there, same⟩ := instruments.phis l bb found
    refine ⟨visit l head, congrArg (Option.map (visit l)) there, ?_⟩
    rw [(weaves l head there).1]
    exact same
  missing := fun index none => congrArg (Option.map _) (instruments.missing index none)

theorem Function.Below.mapBlocks {visit : Label → Block Op → Block Op}
    (below : woven.Below pass)
    (weaves
      : ∀ l bb, woven.block l = some bb → bb.Weaves meaning pass (visit l bb))
    : (woven.mapBlocks visit).Below (pass + 1) where
  entry := below.entry
  labels := by
    intro l bb found
    obtain ⟨old, before, rfl⟩ := Option.map_eq_some_iff.mp found
    exact (below.labels l old before).mono (Nat.le_succ pass)
  blocks := by
    intro l bb found
    obtain ⟨old, before, rfl⟩ := Option.map_eq_some_iff.mp found
    exact ⟨(weaves l old before).2.below, (weaves l old before).2.belowTerm⟩
  phis := by
    intro l bb found
    obtain ⟨old, before, rfl⟩ := Option.map_eq_some_iff.mp found
    rw [(weaves l old before).1]
    exact fun phi member p inside =>
      (below.phis l old before phi member p inside).mono (Nat.le_succ pass)

-----------------------------------------------------------------------------------------
-- Exception handlers
-----------------------------------------------------------------------------------------

theorem Label.relabel_inj {old new p q : Label} (fresh : p ≠ new) (fresh' : q ≠ new)
    : (if p = old then new else p) = (if q = old then new else q) ↔ p = q := by
  refine ⟨fun same => ?_, fun same => by rw [same]⟩
  split at same
  · split at same
    · exact ‹p = old›.trans ‹q = old›.symm
    · exact absurd same.symm fresh'
  · split at same
    · exact absurd same fresh
    · exact same

/-- A PHI node behind the split block picks what it picked before. -/
theorem Phi.lookup_relabel {old new p : Label} {phi : Phi Op} (fresh : p ≠ new)
    (unused : ∀ q ∈ phi.incoming, q.1 ≠ new)
    : (phi.relabel old new).incoming.lookup (if p = old then new else p)
      = phi.incoming.lookup p := by
  obtain ⟨incoming⟩ := phi
  simp only [Phi.relabel] at unused ⊢
  induction incoming with
  | nil => rfl
  | cons q rest ih =>
      obtain ⟨first, others⟩ := List.forall_mem_cons.mp unused
      have same : ((if p = old then new else p) == (if q.1 = old then new else q.1)) = (p == q.1) :=
        Bool.eq_iff_iff.mpr (by simpa using Label.relabel_inj fresh first)
      rw [List.map_cons, List.lookup_cons, List.lookup_cons, ih others, same]

/-- The last label of a block exists. -/
theorem Unfolds.last_found {final l : Label} {insts : List (Inst Op)} {term : Terminator Op}
    (unfolds : Unfolds woven final l insts term)
    : ∃ bb, woven.block final = some bb := by
  induction unfolds with
  | body found => exact ⟨_, found⟩
  | hooked _ _ _ _ _ _ ih => exact ih

/-- The labels a handler's split creates. -/
theorem Label.Below.fresh {l : Label} (below : l.Below pass) (of : Label)
    : l ≠ .split pass of ∧ l ≠ .returnBlock pass := by
  constructor
  · rintro rfl
    exact Nat.lt_irrefl pass below.1
  · rintro rfl
    exact Nat.lt_irrefl pass below

/-- The entry block is no split one. -/
theorem Function.Below.entry_ne (below : woven.Below pass) (run : Nat) (of : Label)
    : .split run of ≠ woven.entry := by
  intro same
  have before := below.entry
  rw [← same] at before
  exact Nat.not_lt_zero run before.1

namespace KSpecEm

theorem exceptionHandler_entry
    : (exceptionHandler pass woven).block woven.entry
      = (woven.block woven.entry).map fun bb =>
          { phis := (bb.relabel woven.entry (.split pass woven.entry)).phis
            insts := exceptionInterruptHook pass woven.listed
            term := .ifNull pass (.split pass woven.entry) (.returnBlock pass) } :=
  if_pos rfl

theorem exceptionHandler_split (below : woven.Below pass)
    : (exceptionHandler pass woven).block (.split pass woven.entry)
      = (woven.block woven.entry).map fun bb => { bb with phis := [] } := by
  simp only [exceptionHandler, if_neg (below.entry_ne pass woven.entry), if_pos]

/-- A block other than the entry's is only relabelled. -/
theorem exceptionHandler_other {l : Label} (other : l ≠ woven.entry) (below : l.Below pass)
    : (exceptionHandler pass woven).block l
      = (woven.block l).map (Block.relabel woven.entry (.split pass woven.entry)) := by
  obtain ⟨notSplit, notReturn⟩ := below.fresh woven.entry
  simp only [exceptionHandler, if_neg other, if_neg notSplit, if_neg notReturn]

/-- The blocks of a handler with its hook. -/
theorem exceptionHandler_block {l : Label} {bb : Block Op}
    (found : (exceptionHandler pass woven).block l = some bb)
    : (∃ old, woven.block woven.entry = some old ∧ l = woven.entry
        ∧ bb = {
          phis := (old.relabel woven.entry (.split pass woven.entry)).phis
          insts := exceptionInterruptHook pass woven.listed
          term := .ifNull pass (.split pass woven.entry) (.returnBlock pass) })
      ∨ (∃ old, woven.block woven.entry = some old ∧ l = .split pass woven.entry
          ∧ bb = { old with phis := [] })
      ∨ (l = .returnBlock pass ∧ bb = { phis := [], insts := [], term := .retVoid pass })
      ∨ ∃ old, woven.block l = some old
          ∧ bb = old.relabel woven.entry (.split pass woven.entry) := by
  simp only [exceptionHandler] at found
  split at found
  · obtain ⟨old, before, rfl⟩ := Option.map_eq_some_iff.mp found
    exact .inl ⟨old, before, ‹_›, rfl⟩
  split at found
  · obtain ⟨old, before, rfl⟩ := Option.map_eq_some_iff.mp found
    exact .inr (.inl ⟨old, before, ‹_›, rfl⟩)
  split at found
  · exact .inr (.inr (.inl ⟨‹_›, (Option.some.inj found).symm⟩))
  · obtain ⟨old, before, rfl⟩ := Option.map_eq_some_iff.mp found
    exact .inr (.inr (.inr ⟨old, before, rfl⟩))

/-- Past the entry block a handler goes on as before. -/
theorem exceptionHandler_elsewhere {final l : Label} {insts : List (Inst Op)}
    {term : Terminator Op} (unfolds : Unfolds woven final l insts term)
    (below : woven.Below pass) (other : l ≠ woven.entry)
    : final ≠ woven.entry ∧ Unfolds (exceptionHandler pass woven) final l insts term := by
  have moved {l : Label} {bb : Block Op} (found : woven.block l = some bb)
      (other : l ≠ woven.entry)
      : (exceptionHandler pass woven).block l
        = some (bb.relabel woven.entry (.split pass woven.entry)) := by
    rw [exceptionHandler_other other (below.labels l bb found), found]
    rfl
  induction unfolds with
  | @body bb found =>
      have standing : Unfolds (exceptionHandler pass woven) final final (eraseInsts
          (bb.relabel woven.entry (.split pass woven.entry)).insts) bb.term.erase :=
        .body (moved found other)
      exact ⟨other, standing⟩
  | @hooked l of no run bb next insts term found hooks branch split first _ ih =>
      have later := below.entry_ne run of
      obtain ⟨ends, rest⟩ := ih later
      have cleared : (next.relabel woven.entry (.split pass woven.entry)).phis = [] := by
        rw [Block.relabel, first]
        rfl
      exact ⟨ends, .hooked (moved found other) hooks branch (moved split later) cleared rest⟩

/-- The entry block is found behind the new hook. -/
theorem exceptionHandler_unfolds {final l : Label} {insts : List (Inst Op)}
    {term : Terminator Op} (unfolds : Unfolds woven final l insts term)
    (below : woven.Below pass)
    : Unfolds (exceptionHandler pass woven)
        (if final = woven.entry then .split pass woven.entry else final) l insts term := by
  by_cases atEntry : l = woven.entry
  · subst atEntry
    have front {bb : Block Op} (found : woven.block woven.entry = some bb)
        : (exceptionHandler pass woven).block woven.entry
          = some
            { phis := (bb.relabel woven.entry (.split pass woven.entry)).phis
              insts := exceptionInterruptHook pass woven.listed
              term := .ifNull pass (.split pass woven.entry) (.returnBlock pass) } := by
      rw [exceptionHandler_entry, found]
      rfl
    have back {bb : Block Op} (found : woven.block woven.entry = some bb)
        : (exceptionHandler pass woven).block (.split pass woven.entry)
          = some { bb with phis := [] } := by
      rw [exceptionHandler_split below, found]
      rfl
    cases unfolds with
    | @body bb found =>
        rw [if_pos rfl]
        have standing : Unfolds (exceptionHandler pass woven) _ (.split pass woven.entry)
            (eraseInsts ({ bb with phis := [] } : Block Op).insts) bb.term.erase :=
          .body (back found)
        exact .hooked (front found) rfl rfl (back found) rfl standing
    | hooked found hooks branch split first rest =>
        obtain ⟨ends, rest'⟩ := exceptionHandler_elsewhere rest below (below.entry_ne _ _)
        rw [if_neg ends]
        have next := exceptionHandler_other (below.entry_ne _ _) (below.labels _ _ split)
        rw [split] at next
        have cleared :=
          congrArg (List.map (Phi.relabel woven.entry (.split pass woven.entry))) first
        exact .hooked (front found) rfl rfl (back found) rfl
          (.hooked (back found) hooks branch next cleared rest')
  · obtain ⟨ends, rest⟩ := exceptionHandler_elsewhere unfolds below atEntry
    rw [if_neg ends]
    exact rest

theorem exceptionHandler_phis {l final : Label} {bb last : Block Op} (below : woven.Below pass)
    (found : woven.block l = some bb) (ends : woven.block final = some last)
    : (bb.relabel woven.entry (.split pass woven.entry)).phis.map
        (fun phi =>
          phi.incoming.lookup (if final = woven.entry then .split pass woven.entry else final))
      = bb.phis.map (fun phi => phi.incoming.lookup final) := by
  rw [Block.relabel, List.map_map]
  refine List.map_congr_left fun phi member => ?_
  refine Phi.lookup_relabel ((below.labels final last ends).fresh _).1 fun q inside => ?_
  exact ((below.phis l bb found phi member q inside).fresh _).1

/-- A handler with its hook still is what runs of passes make of the program's function. -/
theorem exceptionHandler_instruments (instruments : Instruments meaning last woven f)
    (below : woven.Below pass)
    : Instruments meaning
        (fun l => if last l = woven.entry then .split pass woven.entry else last l)
        (exceptionHandler pass woven) f where
  listed := instruments.listed
  entry := instruments.entry
  sound := by
    intro l bb found values temps
    rcases exceptionHandler_block found with
      ⟨old, before, rfl, rfl⟩ | ⟨old, before, rfl, rfl⟩ | ⟨rfl, rfl⟩ | ⟨old, before, rfl⟩
    · exact exceptionInterruptHook_sound ..
    · exact instruments.sound _ old before values temps
    · exact True.intro
    · exact instruments.sound l old before values temps
  unfolds := fun l bb found => exceptionHandler_unfolds (instruments.unfolds l bb found) below
  phis := by
    intro l bb found
    obtain ⟨head, there, same⟩ := instruments.phis l bb found
    have picks (p : Label) (known : (f.block p).isSome)
        : (head.relabel woven.entry (.split pass woven.entry)).phis.map
            (fun phi =>
              phi.incoming.lookup
                (if last p = woven.entry then .split pass woven.entry else last p))
          = bb.phis.map (fun phi => phi.incoming.lookup p) := by
      obtain ⟨source, known⟩ := Option.isSome_iff_exists.mp known
      obtain ⟨final, ends⟩ := (instruments.unfolds p source known).last_found
      exact (exceptionHandler_phis below there ends).trans (same p (known ▸ rfl))
    by_cases atEntry : l = woven.entry
    · subst atEntry
      refine ⟨⟨_, exceptionInterruptHook pass woven.listed,
        .ifNull pass (.split pass woven.entry) (.returnBlock pass)⟩, ?_, picks⟩
      rw [exceptionHandler_entry, there]
      rfl
    · refine ⟨_, ?_, picks⟩
      rw [exceptionHandler_other atEntry (below.labels l head there), there]
      rfl
  missing := by
    intro index none
    have before := instruments.missing index none
    by_cases atEntry : .block index = woven.entry
    · rw [atEntry] at before ⊢
      rw [exceptionHandler_entry, before]
      rfl
    · rw [exceptionHandler_other atEntry True.intro, before]
      rfl

theorem exceptionHandler_below (below : woven.Below pass)
    : (exceptionHandler pass woven).Below (pass + 1) := by
  have relabelled {l : Label} {old : Block Op} (before : woven.block l = some old)
      : ∀ phi ∈ (old.relabel woven.entry (.split pass woven.entry)).phis,
          ∀ p ∈ phi.incoming, p.1.Below (pass + 1) := by
    intro phi member p inside
    obtain ⟨source, among, rfl⟩ := List.mem_map.mp member
    obtain ⟨q, listed, rfl⟩ := List.mem_map.mp inside
    dsimp only
    split
    · exact ⟨Nat.lt_succ_self pass, below.entry.mono (Nat.zero_le _)⟩
    · exact (below.phis l old before source among q listed).mono (Nat.le_succ pass)
  have older {l : Label} {old : Block Op} (before : woven.block l = some old)
      : old.Below (pass + 1) :=
    ⟨fun inst member => ((below.blocks l old before).insts inst member).next,
      (below.blocks l old before).term.next⟩
  refine ⟨below.entry, fun l bb found => ?_, fun l bb found => ?_, fun l bb found => ?_⟩
  all_goals
    rcases exceptionHandler_block found with
      ⟨old, before, rfl, rfl⟩ | ⟨old, before, rfl, rfl⟩ | ⟨rfl, rfl⟩ | ⟨old, before, rfl⟩
  -- the labels
  · exact (below.labels _ old before).mono (Nat.le_succ pass)
  · exact ⟨Nat.lt_succ_self pass, below.entry.mono (Nat.zero_le _)⟩
  · exact Nat.lt_succ_self pass
  · exact (below.labels l old before).mono (Nat.le_succ pass)
  -- the blocks
  · refine ⟨?_, Nat.lt_succ_self pass⟩
    simp [exceptionInterruptHook, Inst.Below, Inserted.Below]
  · exact ⟨(older before).insts, (older before).term⟩
  · exact ⟨by simp, Nat.lt_succ_self pass⟩
  · exact ⟨(older before).insts, (older before).term⟩
  -- the PHI nodes
  · exact relabelled before
  · simp
  · simp
  · exact relabelled before

end KSpecEm

-----------------------------------------------------------------------------------------
-- Passes
-----------------------------------------------------------------------------------------

/-- Instructions at the beginning of the entry block. -/
def atStart (entry : Label) (front : List (Inst Op)) (l : Label) (bb : Block Op) : Block Op :=
  if l = entry then { bb with insts := front ++ bb.insts } else bb

/-- What blocks weave into, with instructions that may stand before the entry block's. -/
theorem Block.Weaves.atStart {bb visited : Block Op} {front : List (Inst Op)}
    (weaves : bb.Weaves meaning pass visited) (free : ∀ inst ∈ front, inst.Free pass)
    (entry l : Label)
    : bb.Weaves meaning pass (atStart entry front l visited) := by
  unfold Ir.atStart
  split
  · exact ⟨weaves.1, weaves.2.inserts front free⟩
  · exact weaves

/-- Branches are rewritten behind what the entry block begins with. -/
theorem KSpecEmSpec.visitBranchInst_atStart (entry : Label) (front : List (Inst Op)) (l : Label)
    (bb : Block Op)
    : visitBranchInst pass (atStart entry front l bb)
      = atStart entry front l (visitBranchInst pass bb) := by
  unfold atStart
  split
  · obtain ⟨phis, insts, term⟩ := bb
    cases term with
    | condBr condition op yes no => simp [visitBranchInst]
    | _ => rfl
  · rfl

theorem Function.mapBlocks_mapBlocks (f : Function Op) (visit more : Label → Block Op → Block Op)
    : (f.mapBlocks visit).mapBlocks more = f.mapBlocks fun l bb => more l (visit l bb) := by
  simp only [Function.mapBlocks, Option.map_map]
  rfl

/-- The function of the program and what runs of passes made of it. -/
structure Instrumented (meaning : Meaning kernel Op V) (pass : Nat) (woven f : Function Op)
    : Prop where
  below : woven.Below pass
  instruments : ∃ last, Instruments meaning last woven f

theorem Function.Below.mono {next : Nat} (below : woven.Below pass) (later : pass ≤ next)
    : woven.Below next := by
  induction later with
  | refl => exact below
  | step _ ih =>
      exact {
        entry := ih.entry
        labels := fun l bb found => (ih.labels l bb found).mono (Nat.le_succ _)
        blocks := fun l bb found =>
          ⟨fun inst member => ((ih.blocks l bb found).insts inst member).next,
            (ih.blocks l bb found).term.next⟩
        phis := fun l bb found phi member p inside =>
          (ih.phis l bb found phi member p inside).mono (Nat.le_succ _) }

theorem Instrumented.next (instrumented : Instrumented meaning pass woven f)
    : Instrumented meaning (pass + 1) woven f :=
  ⟨instrumented.below.mono (Nat.le_succ pass), instrumented.instruments⟩

/-- A pass that weaves into every block. -/
theorem Instrumented.mapBlocks {visit : Label → Block Op → Block Op}
    (instrumented : Instrumented meaning pass woven f)
    (weaves : ∀ l (bb : Block Op), bb.Below pass → bb.Weaves meaning pass (visit l bb))
    : Instrumented meaning (pass + 1) (woven.mapBlocks visit) f := by
  obtain ⟨below, last, instruments⟩ := instrumented
  have found l bb (there : woven.block l = some bb) := weaves l bb (below.blocks l bb there)
  exact ⟨below.mapBlocks found, last, instruments.mapBlocks found⟩

theorem KSpecEmSpec.visitor_instrumented (instrumented : Instrumented meaning pass woven f)
    : Instrumented meaning (pass + 1) (visitor pass woven) f := by
  unfold visitor
  split
  · exact instrumented.next
  · change Instrumented meaning (pass + 1)
      ((woven.mapBlocks (atStart woven.entry _)).mapBlocks fun _ bb => visitBranchInst pass bb) f
    rw [Function.mapBlocks_mapBlocks]
    refine instrumented.mapBlocks fun l bb below => ?_
    rw [visitBranchInst_atStart]
    refine (visitBranchInst_weaves below).atStart ?_ woven.entry l
    simp [Inst.Free, Inserted.Ready, Inserted.Below]

theorem KSpecEm.visitor_instrumented (instrumented : Instrumented meaning pass woven f)
    : Instrumented meaning (pass + 1) (visitor pass woven) f := by
  unfold visitor
  split
  · refine instrumented.mapBlocks fun l bb below => below.weaves.atStart ?_ woven.entry l
    simp [Inst.Free, Inserted.Ready, Inserted.Below]
  split
  · refine instrumented.mapBlocks fun l bb below => ?_
    split
    · exact ⟨rfl, timerInterruptHook_weaves below.weaves.2⟩
    · exact below.weaves
  split
  · obtain ⟨below, last, instruments⟩ := instrumented
    exact ⟨exceptionHandler_below below, _, exceptionHandler_instruments instruments below⟩
  · exact instrumented.mapBlocks fun _ _ below => KSpecEmPassVisitor.visitBlock_weaves below

theorem KSpecEmCheckSpecLength.visitor_instrumented
    (instrumented : Instrumented meaning pass woven f)
    : Instrumented meaning (pass + 1) (visitor pass woven) f := by
  unfold visitor
  split
  · exact instrumented.next
  · exact instrumented.mapBlocks fun _ _ below => visitBlock_weaves below

theorem KSpecEmPfChecker.visitor_instrumented (instrumented : Instrumented meaning pass woven f)
    : Instrumented meaning (pass + 1) (visitor pass woven) f :=
  instrumented.mapBlocks fun _ _ below => visitBlock_weaves below

/-- One run of any of the passes. -/
theorem Pass.visitor_instrumented (p : Pass) (instrumented : Instrumented meaning pass woven f)
    : Instrumented meaning (pass + 1) (p.visitor pass woven) f := by
  cases p with
  | kspecem => exact KSpecEm.visitor_instrumented instrumented
  | kspecemSpec => exact KSpecEmSpec.visitor_instrumented instrumented
  | kspecemCheckSpecLength => exact KSpecEmCheckSpecLength.visitor_instrumented instrumented
  | kspecemPfChecker => exact KSpecEmPfChecker.visitor_instrumented instrumented

/-- Runs of passes on all functions of a module, by induction on the passes. -/
theorem runPasses_instrumented (passes : List Pass) {woven m : Module Op}
    (instrumented : List.Forall₂ (Instrumented meaning pass) woven.functions m.functions)
    : List.Forall₂ (Instrumented meaning (pass + passes.length))
        (runPasses pass passes woven).functions m.functions := by
  induction passes generalizing pass woven with
  | nil => exact instrumented
  | cons p rest ih =>
      rw [List.length_cons, Nat.add_comm rest.length 1, ← Nat.add_assoc]
      refine ih ?_
      unfold Pass.runImpl
      split
      · exact instrumented.imp fun _ _ => Instrumented.next
      · exact List.forall₂_map_left_iff.mpr (instrumented.imp fun _ _ => p.visitor_instrumented)

-----------------------------------------------------------------------------------------
-- Plain functions
-----------------------------------------------------------------------------------------

def Terminator.targets : Terminator Op → List Label
  | .ret _ | .retVoid _ => []
  | .br target => [target]
  | .condBr _ _ yes no | .ifNull _ yes no => [yes, no]
  | .other _ targets => targets

/-- A function of the program, before any run of a pass. -/
structure Function.Plain (f : Function Op) : Prop where
  below : f.Below 0
  targets : ∀ l bb, f.block l = some bb → ∀ target ∈ bb.term.targets, target.Below 0

theorem Label.Below.plain {l : Label} (below : l.Below 0) : ∃ index, l = .block index := by
  cases l with
  | block index => exact ⟨index, rfl⟩
  | split run of => exact absurd below.1 (Nat.not_lt_zero run)
  | returnBlock run => exact absurd below (Nat.not_lt_zero run)

theorem Operand.Below.own {operand : Operand} (below : operand.Below 0) : operand = .own := by
  cases operand with
  | own => rfl
  | temp t => exact absurd below (Nat.not_lt_zero t.pass)

theorem Inst.Below.erase {inst : Inst Op} (below : inst.Below 0) : inst.erase = some inst := by
  cases inst with
  | inserted run inst => exact absurd below.1 (Nat.not_lt_zero run)
  | load access size op | store access size op | memIntrinsic access narrow op =>
      obtain ⟨isAsanInstr, bytePtr, ptr⟩ := access
      obtain rfl : ptr = .own := Operand.Below.own below
      rfl
  | plain op | call called op => rfl

theorem eraseInsts_plain {insts : List (Inst Op)} (below : ∀ inst ∈ insts, inst.Below 0)
    : eraseInsts insts = insts := by
  induction insts with
  | nil => rfl
  | cons inst insts ih =>
      obtain ⟨first, others⟩ := List.forall_mem_cons.mp below
      exact (List.filterMap_cons_some first.erase).trans (congrArg _ (ih others))

theorem Terminator.Below.erase {term : Terminator Op} (below : term.Below 0)
    : term.erase = term := by
  cases term with
  | condBr condition op yes no =>
      obtain rfl : condition = .own := Operand.Below.own below
      rfl
  | _ => rfl

theorem sound_plain {insts : List (Inst Op)} {term : Terminator Op}
    (below : ∀ inst ∈ insts, inst.Below 0) (belowTerm : term.Below 0) (values : V) (temps : Temps)
    : Sound meaning term insts values temps := by
  induction insts generalizing values temps with
  | nil =>
      cases term with
      | condBr condition op yes no =>
          obtain rfl : condition = .own := Operand.Below.own belowTerm
          rfl
      | ifNull run yes no => exact absurd belowTerm (Nat.not_lt_zero run)
      | _ => exact True.intro
  | cons inst insts ih =>
      obtain ⟨first, others⟩ := List.forall_mem_cons.mp below
      cases inst with
      | inserted run inst => exact absurd first.1 (Nat.not_lt_zero run)
      | load access size op | store access size op | memIntrinsic access narrow op =>
          obtain ⟨isAsanInstr, bytePtr, ptr⟩ := access
          obtain rfl : ptr = .own := Operand.Below.own first
          exact ⟨rfl, fun values' => ih others values' temps⟩
      | plain op | call called op =>
          exact ⟨True.intro, fun values' => ih others values' temps⟩

/-- A function that no pass has run on. -/
theorem Function.Plain.instrumented (plain : f.Plain) : Instrumented meaning 0 f f where
  below := plain.below
  instruments := ⟨id, {
    listed := rfl
    entry := rfl
    sound := fun l bb found =>
      sound_plain (plain.below.blocks l bb found).insts (plain.below.blocks l bb found).term
    unfolds := by
      intro l bb found
      have body : Unfolds f l l (eraseInsts bb.insts) bb.term.erase := .body found
      rw [eraseInsts_plain (plain.below.blocks l bb found).insts,
        (plain.below.blocks l bb found).term.erase] at body
      exact body
    phis := fun l bb found => ⟨bb, found, fun _ _ => rfl⟩
    missing := fun _ none => none }⟩

end Kasper.Ir
