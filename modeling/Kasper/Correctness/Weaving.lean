import Kasper.Correctness.PassingBy

/-! What the passes make of a list of instructions: erasing what they inserted gives back the
program's instructions, and where the runtime leaves the task alone every value put in place
of an operand is that operand's own.
-/

namespace Kasper.Ir

open ByteMemory

variable {Op V : Type}

-----------------------------------------------------------------------------------------
-- Erasing
-----------------------------------------------------------------------------------------

/-- The instruction as the program has it. -/
def Inst.erase : Inst Op → Option (Inst Op)
  | .inserted _ _ => none
  | .load access typeStoreSize op => some (.load { access with ptr := .own } typeStoreSize op)
  | .store access typeStoreSize op => some (.store { access with ptr := .own } typeStoreSize op)
  | .memIntrinsic access narrowLength op =>
      some (.memIntrinsic { access with ptr := .own } narrowLength op)
  | .plain op => some (.plain op)
  | .call called op => some (.call called op)

def eraseInsts (insts : List (Inst Op)) : List (Inst Op) := insts.filterMap Inst.erase

@[simp] theorem eraseInsts_append (insts more : List (Inst Op))
    : eraseInsts (insts ++ more) = eraseInsts insts ++ eraseInsts more :=
  List.filterMap_append

@[simp] theorem eraseInsts_inserted (pass : Nat) (inst : Inserted Op) (insts : List (Inst Op))
    : eraseInsts (.inserted pass inst :: insts) = eraseInsts insts :=
  rfl

/-- The terminator as the program has it. -/
def Terminator.erase : Terminator Op → Terminator Op
  | .condBr _ op yes no => .condBr .own op yes no
  | term => term

-----------------------------------------------------------------------------------------
-- Soundness
-----------------------------------------------------------------------------------------

variable {kernel : Kernel} (meaning : Meaning kernel Op V)

/-- The pointer of an access is its own. -/
def Inst.Ready (values : V) (temps : Temps) : Inst Op → Prop
  | .load access _ op | .store access _ op | .memIntrinsic access _ op =>
      access.ptr.address meaning values temps op = meaning.pointer op values
  | .plain _ | .call _ _ | .inserted _ _ => True

/-- A branch tests its own condition, and no exception handler returns early. -/
def Terminator.Ready (values : V) (temps : Temps) : Terminator Op → Prop
  | .condBr condition op _ _ =>
      condition.holds meaning values temps op = (meaning.condition op values).holds
  | .ifNull pass _ _ => temps ⟨pass, .isNull⟩ ≠ 0
  | _ => True

/-- The instruction may run, and wherever it leads `next` holds. -/
def Inst.Leads (next : V → Temps → Prop) (values : V) (temps : Temps) : Inst Op → Prop
  | .inserted pass inst =>
      inst.Ready pass temps
      ∧ ∀ value,
          inst.Yields meaning values temps pass value
          → next values (temps.put ⟨pass, inst.name⟩ value)
  | inst => inst.Ready meaning values temps ∧ ∀ values', next values' temps

/-- The rest of a block may run up to its terminator. -/
def Sound (term : Terminator Op) : List (Inst Op) → V → Temps → Prop
  | [], values, temps => term.Ready meaning values temps
  | inst :: rest, values, temps => inst.Leads meaning (Sound term rest) values temps

-----------------------------------------------------------------------------------------
-- Runs of passes
-----------------------------------------------------------------------------------------

/-- The operand is no value of the run `pass` or a later one. -/
def Operand.Below (pass : Nat) : Operand → Prop
  | .own => True
  | .temp t => t.pass < pass

def Inserted.Below (pass : Nat) : Inserted Op → Prop
  | .invertCondition condition _ | .select condition _ => condition.Below pass
  | .store (.ptr operand _) | .memcpy operand _ | .access operand _ _ => operand.Below pass
  | _ => True

def Inst.Below (pass : Nat) : Inst Op → Prop
  | .load access _ _ | .store access _ _ | .memIntrinsic access _ _ => access.ptr.Below pass
  | .inserted run inst => run < pass ∧ inst.Below pass
  | .plain _ | .call _ _ => True

def Terminator.Below (pass : Nat) : Terminator Op → Prop
  | .condBr condition _ _ _ => condition.Below pass
  | .ifNull run _ _ | .retVoid run => run < pass
  | _ => True

/-- The values of earlier runs are the same. -/
def AgreeBelow (pass : Nat) (temps other : Temps) : Prop :=
  ∀ t, t.pass < pass → temps t = other t

variable {meaning} {pass : Nat} {temps other : Temps} {values : V}

theorem Temps.put_same {t : Temp} {value : Word} : temps.put t value t = value := if_pos rfl

theorem Temps.put_other {t u : Temp} {value : Word} (different : u ≠ t)
    : temps.put t value u = temps u :=
  if_neg different

theorem AgreeBelow.put_both (agree : AgreeBelow pass temps other) (t : Temp) (value : Word)
    : AgreeBelow pass (temps.put t value) (other.put t value) := by
  intro u below
  unfold Temps.put
  split
  · rfl
  · exact agree u below

theorem AgreeBelow.put (agree : AgreeBelow pass temps other) (name : TempName) (value : Word)
    : AgreeBelow pass temps (other.put ⟨pass, name⟩ value) := by
  intro u below
  have older : u ≠ ⟨pass, name⟩ := fun same => Nat.ne_of_lt below (congrArg Temp.pass same)
  rw [Temps.put, if_neg older]
  exact agree u below

theorem Operand.Below.address {operand : Operand} (below : operand.Below pass)
    (agree : AgreeBelow pass temps other) (meaning : Meaning kernel Op V) (values : V) (op : Op)
    : operand.address meaning values temps op = operand.address meaning values other op := by
  cases operand with
  | own => rfl
  | temp t => exact agree t below

theorem Operand.Below.holds {operand : Operand} (below : operand.Below pass)
    (agree : AgreeBelow pass temps other) (meaning : Meaning kernel Op V) (values : V) (op : Op)
    : operand.holds meaning values temps op = operand.holds meaning values other op := by
  cases operand with
  | own => rfl
  | temp t => exact congrArg (· != 0) (agree t below)

theorem AgreeBelow.ready {run : Nat} {inst : Inserted Op} (agree : AgreeBelow pass temps other)
    (earlier : run < pass) (ready : inst.Ready run temps)
    : inst.Ready run other := by
  have same (name : TempName) : temps ⟨run, name⟩ = other ⟨run, name⟩ := agree _ earlier
  cases inst <;> simp only [Inserted.Ready] at ready ⊢ <;> rw [← same] <;> exact ready

theorem AgreeBelow.yields {run : Nat} {inst : Inserted Op} {value : Word}
    (agree : AgreeBelow pass temps other) (earlier : run < pass) (below : inst.Below pass)
    (yields : inst.Yields meaning values other run value)
    : inst.Yields meaning values temps run value := by
  have same (name : TempName) : temps ⟨run, name⟩ = other ⟨run, name⟩ := agree _ earlier
  cases inst with
  | invertCondition condition op =>
      exact yields.trans
        (congrArg (fun b => boolWord (!b)) (below.holds agree meaning values op).symm)
  | select condition op =>
      exact fun unset =>
        (yields ((same .cond).symm.trans unset)).trans
          (congrArg boolWord (below.holds agree meaning values op).symm)
  | access ptr size op => exact yields.trans (below.address agree meaning values op).symm
  | icmpOne => exact yields.trans (congrArg (fun w => boolWord (w == 1)) (same _).symm)
  | isNull => exact yields.trans (congrArg (fun w => boolWord (w == 0)) (same _).symm)
  | _ => exact yields

/-- An instruction of earlier runs leads to the same with other values of later runs. -/
theorem AgreeBelow.leads {inst : Inst Op} {next next' : V → Temps → Prop}
    (agree : AgreeBelow pass temps other) (below : inst.Below pass)
    (leads : inst.Leads meaning next values temps)
    (goes
      : ∀ values temps other,
          AgreeBelow pass temps other → next values temps → next' values other)
    : inst.Leads meaning next' values other := by
  cases inst with
  | inserted run inst =>
      refine ⟨agree.ready below.1 leads.1, fun value yields => ?_⟩
      exact goes _ _ _ (agree.put_both _ value)
        (leads.2 value (agree.yields below.1 below.2 yields))
  | plain op | call called op => exact ⟨leads.1, fun values' => goes _ _ _ agree (leads.2 values')⟩
  | load access size op | store access size op | memIntrinsic access narrow op =>
      have same := Operand.Below.address below agree meaning values op
      exact ⟨same.symm.trans leads.1, fun values' => goes _ _ _ agree (leads.2 values')⟩

theorem AgreeBelow.terminator {term : Terminator Op} (agree : AgreeBelow pass temps other)
    (below : term.Below pass) (ready : term.Ready meaning values temps)
    : term.Ready meaning values other := by
  cases term with
  | condBr condition op yes no =>
      exact (Operand.Below.holds below agree meaning values op).symm.trans ready
  | ifNull run yes no => exact fun null => ready ((agree ⟨run, .isNull⟩ below).trans null)
  | _ => exact True.intro

-----------------------------------------------------------------------------------------
-- Weaving
-----------------------------------------------------------------------------------------

/-- The end of a block, and what the run `pass` makes of it. -/
structure Weaves (meaning : Meaning kernel Op V) (pass : Nat) (insts : List (Inst Op))
    (term : Terminator Op) (woven : List (Inst Op)) (term' : Terminator Op)
    : Prop where
  sameInsts : eraseInsts woven = eraseInsts insts
  sameTerm : term'.erase = term.erase
  below : ∀ inst ∈ woven, inst.Below (pass + 1)
  belowTerm : term'.Below (pass + 1)
  sound
    : ∀ values temps other,
        AgreeBelow pass temps other
        → Sound meaning term insts values temps
        → Sound meaning term' woven values other

theorem Operand.Below.next {operand : Operand} (below : operand.Below pass)
    : operand.Below (pass + 1) := by
  cases operand with
  | own => exact True.intro
  | temp t => exact Nat.lt_succ_of_lt below

theorem Inserted.Below.next {inst : Inserted Op} (below : inst.Below pass)
    : inst.Below (pass + 1) := by
  cases inst with
  | invertCondition condition op | select condition op => exact Operand.Below.next below
  | store target =>
      cases target with
      | ptr operand op => exact Operand.Below.next below
      | swapBranchCondition => exact True.intro
  | memcpy ptr op | access ptr size op => exact Operand.Below.next below
  | _ => exact True.intro

theorem Inst.Below.next {inst : Inst Op} (below : inst.Below pass) : inst.Below (pass + 1) := by
  cases inst with
  | inserted run inst => exact ⟨Nat.lt_succ_of_lt below.1, below.2.next⟩
  | load access size op | store access size op | memIntrinsic access narrow op =>
      exact Operand.Below.next below
  | _ => exact True.intro

theorem Terminator.Below.next {term : Terminator Op} (below : term.Below pass)
    : term.Below (pass + 1) := by
  cases term with
  | condBr condition op yes no => exact Operand.Below.next below
  | ifNull run yes no | retVoid run => exact Nat.lt_succ_of_lt below
  | _ => exact True.intro

variable {insts woven : List (Inst Op)} {term term' : Terminator Op}

/-- Nothing inserted. -/
theorem Weaves.nil (meaning : Meaning kernel Op V) (below : term.Below pass)
    : Weaves meaning pass [] term [] term where
  sameInsts := rfl
  sameTerm := rfl
  below := by simp
  belowTerm := below.next
  sound := fun _ _ _ agree ready => agree.terminator below ready

/-- An instruction that stays as it is. -/
theorem Weaves.keep {inst : Inst Op} (weaves : Weaves meaning pass insts term woven term')
    (below : inst.Below pass)
    : Weaves meaning pass (inst :: insts) term (inst :: woven) term' where
  sameInsts := by
    have rest := weaves.sameInsts
    unfold eraseInsts at rest ⊢
    rw [List.filterMap_cons, List.filterMap_cons, rest]
  sameTerm := weaves.sameTerm
  below := List.forall_mem_cons.mpr ⟨below.next, weaves.below⟩
  belowTerm := weaves.belowTerm
  sound := fun _ _ _ agree leads => agree.leads below leads weaves.sound

/-- An inserted instruction that needs no value. -/
theorem Weaves.insert {inst : Inserted Op} (weaves : Weaves meaning pass insts term woven term')
    (below : inst.Below (pass + 1)) (free : ∀ temps, inst.Ready pass temps)
    : Weaves meaning pass insts term (.inserted pass inst :: woven) term' where
  sameInsts := weaves.sameInsts
  sameTerm := weaves.sameTerm
  below := List.forall_mem_cons.mpr ⟨⟨Nat.lt_succ_self pass, below⟩, weaves.below⟩
  belowTerm := weaves.belowTerm
  sound := fun _ _ other agree start =>
    ⟨free other, fun value _ => weaves.sound _ _ _ (agree.put inst.name value) start⟩

/-- The instructions that have a pointer. -/
inductive AccessKind
  | load (typeStoreSize : Nat)
  | store (typeStoreSize : Nat)
  | memIntrinsic (narrowLength : Bool)

def AccessKind.inst (access : Access) (op : Op) : AccessKind → Inst Op
  | .load typeStoreSize => .load access typeStoreSize op
  | .store typeStoreSize => .store access typeStoreSize op
  | .memIntrinsic narrowLength => .memIntrinsic access narrowLength op

section
variable {kind : AccessKind} {access : Access} {op : Op}

theorem AccessKind.erase
    : (kind.inst access op).erase = some (kind.inst { access with ptr := .own } op) := by
  cases kind <;> rfl

theorem eraseInsts_access (insts : List (Inst Op))
    : eraseInsts (kind.inst access op :: insts)
      = kind.inst { access with ptr := .own } op :: eraseInsts insts :=
  List.filterMap_cons_some AccessKind.erase

theorem AccessKind.below_iff : (kind.inst access op).Below pass ↔ access.ptr.Below pass := by
  cases kind <;> exact Iff.rfl

theorem AccessKind.leads_iff {next : V → Temps → Prop}
    : (kind.inst access op).Leads meaning next values temps
      ↔ access.ptr.address meaning values temps op = meaning.pointer op values
        ∧ ∀ values', next values' temps := by
  cases kind <;> exact Iff.rfl

/-- The access hook, a cast perhaps, and the access through the hook's result. -/
theorem Weaves.redirect (kind : AccessKind) (size : AccessSize Op) (bytePtr : Bool)
    (weaves : Weaves meaning pass insts term woven term') (below : access.ptr.Below pass)
    : Weaves meaning pass (kind.inst access op :: insts) term
        (.inserted pass (.access access.ptr size op)
          :: KSpecEmPfChecker.pointerCast pass bytePtr
          ++ kind.inst { access with ptr := .temp ⟨pass, .newPtr⟩ } op :: woven)
        term' where
  sameInsts := by
    have casts : eraseInsts (KSpecEmPfChecker.pointerCast pass bytePtr : List (Inst Op)) = [] := by
      cases bytePtr <;> rfl
    rw [List.cons_append, eraseInsts_inserted, eraseInsts_append, casts, eraseInsts_access,
      eraseInsts_access, weaves.sameInsts]
    rfl
  sameTerm := weaves.sameTerm
  below := by
    have casts : ∀ inst ∈ (KSpecEmPfChecker.pointerCast pass bytePtr : List (Inst Op)),
        inst.Below (pass + 1) := by
      cases bytePtr <;> simp [KSpecEmPfChecker.pointerCast, Inst.Below, Inserted.Below]
    intro inst member
    rcases List.mem_append.mp member with front | back
    · rcases List.mem_cons.mp front with rfl | cast
      · exact ⟨Nat.lt_succ_self pass, below.next⟩
      · exact casts inst cast
    · rcases List.mem_cons.mp back with rfl | later
      · exact AccessKind.below_iff.mpr (Nat.lt_succ_self pass)
      · exact weaves.below inst later
  belowTerm := weaves.belowTerm
  sound := by
    intro values temps other agree start
    obtain ⟨own, rest⟩ := AccessKind.leads_iff.mp start
    refine ⟨True.intro, fun value yields => ?_⟩
    have pointer : value = meaning.pointer op values :=
      yields.trans ((below.address agree meaning values op).symm.trans own)
    have agree := agree.put .newPtr value
    cases bytePtr with
    | false =>
        refine ⟨True.intro, fun unused _ => AccessKind.leads_iff.mpr ⟨?_, fun values' => ?_⟩⟩
        · simpa [Operand.address, Temps.put, Inserted.name] using pointer
        · exact weaves.sound _ _ _ (agree.put .unused unused) (rest values')
    | true =>
        refine AccessKind.leads_iff.mpr ⟨?_, fun values' => weaves.sound _ _ _ agree (rest values')⟩
        simpa [Operand.address, Temps.put, Inserted.name] using pointer

end

/-- The select behind a checkpoint that is not taken keeps the branch's condition. -/
theorem Weaves.branch {condition : Operand} {op : Op} {yes no : Label}
    (below : condition.Below pass)
    : Weaves meaning pass [] (.condBr condition op yes no)
        (KSpecEmSpec.beforeBranch pass condition op)
        (.condBr (.temp ⟨pass, .newCondition⟩) op yes no) where
  sameInsts := rfl
  sameTerm := rfl
  below := by
    have within := below.next
    simp [KSpecEmSpec.beforeBranch, Inst.Below, Inserted.Below, within]
  belowTerm := Nat.lt_succ_self pass
  sound := by
    intro values temps other agree ready
    refine ⟨True.intro, fun token refused => ⟨True.intro, fun frame _ => ⟨?_, fun stack _ =>
      ⟨True.intro, fun ptr _ => ⟨?_, fun registers _ => ⟨?_, fun left _ =>
        ⟨True.intro, fun inverted _ => ⟨True.intro, fun loaded clear =>
          ⟨True.intro, fun cond compared => ⟨True.intro, fun selected selects =>
            ⟨True.intro, fun _ _ => ?_⟩⟩⟩⟩⟩⟩⟩⟩⟩⟩⟩
    · exact (by simp [Temps.put, Inserted.name] : _ = token).trans refused
    · exact (by simp [Temps.put, Inserted.name] : _ = token).trans refused
    · exact (by simp [Temps.put, Inserted.name] : _ = token).trans refused
    · have unset : cond = 0 := by
        have clear : loaded ≠ 1 := clear
        refine compared.trans ?_
        simpa [Temps.put, Inserted.name, boolWord] using clear
      have later := ((((((((agree.put .irqFlags token).put .frameAddress frame).put .unused
        stack).put .registersPtr ptr).put .unused registers).put .unused left).put
        .invertedCondition inverted).put .swapBranchCondition loaded).put .cond cond
      have kept := selects (by simpa [Temps.put, Inserted.name] using unset)
      have same : condition.holds meaning values temps op = (meaning.condition op values).holds :=
        ready
      have selected : selected = boolWord (meaning.condition op values).holds :=
        kept.trans (congrArg boolWord ((below.holds later meaning values op).symm.trans same))
      refine (congrArg (· != 0) ((Temps.put_other (by simp [Inserted.name])).trans
        (Temps.put_same.trans selected))).trans ?_
      cases (meaning.condition op values).holds <;> rfl

/-- Instructions that stay as they are. -/
theorem Weaves.keeps (weaves : Weaves meaning pass insts term woven term')
    (front : List (Inst Op)) (below : ∀ inst ∈ front, inst.Below pass)
    : Weaves meaning pass (front ++ insts) term (front ++ woven) term' := by
  induction front with
  | nil => exact weaves
  | cons inst front ih =>
      obtain ⟨first, others⟩ := List.forall_mem_cons.mp below
      exact (ih others).keep first

/-- An inserted instruction that may stand anywhere. -/
def Inst.Free (pass : Nat) : Inst Op → Prop
  | .inserted run inst =>
      run = pass ∧ inst.Below (pass + 1) ∧ ∀ temps, inst.Ready pass temps
  | _ => False

theorem Weaves.inserts (weaves : Weaves meaning pass insts term woven term')
    (front : List (Inst Op)) (free : ∀ inst ∈ front, inst.Free pass)
    : Weaves meaning pass insts term (front ++ woven) term' := by
  induction front with
  | nil => exact weaves
  | cons inst front ih =>
      obtain ⟨first, others⟩ := List.forall_mem_cons.mp free
      cases inst with
      | inserted run inst =>
          obtain ⟨rfl, below, ready⟩ := first
          exact (ih others).insert below ready
      | plain op | call called op | load access size op | store access size op
      | memIntrinsic access narrow op => exact first.elim

-----------------------------------------------------------------------------------------
-- Blocks
-----------------------------------------------------------------------------------------

/-- The block has no value of the run `pass` or a later one. -/
structure Block.Below (pass : Nat) (bb : Block Op) : Prop where
  insts : ∀ inst ∈ bb.insts, inst.Below pass
  term : bb.term.Below pass

/-- What the run `pass` makes of a block. -/
def Block.Weaves (meaning : Meaning kernel Op V) (pass : Nat) (bb woven : Block Op) : Prop :=
  woven.phis = bb.phis ∧ Ir.Weaves meaning pass bb.insts bb.term woven.insts woven.term

variable {bb : Block Op} {f : ListedFunction}

/-- A block that stays as it is. -/
theorem Block.Below.weaves (below : bb.Below pass) : bb.Weaves meaning pass bb := by
  have kept := (Weaves.nil meaning below.term).keeps bb.insts below.insts
  rw [List.append_nil] at kept
  exact ⟨rfl, kept⟩

theorem KSpecEmSpec.visitBranchInst_weaves (below : bb.Below pass)
    : bb.Weaves meaning pass (visitBranchInst pass bb) := by
  obtain ⟨phis, insts, term⟩ := bb
  cases term with
  | condBr condition op yes no =>
      have branch : Ir.Weaves meaning pass [] (.condBr condition op yes no) _ _ :=
        Weaves.branch below.term
      have woven := branch.keeps insts below.insts
      rw [List.append_nil] at woven
      exact ⟨rfl, woven⟩
  | _ => exact below.weaves

theorem KSpecEmCheckSpecLength.visitBlock_weaves (below : bb.Below pass)
    : bb.Weaves meaning pass (visitBlock pass bb) := by
  have counted : Ir.Weaves meaning pass [] bb.term
      [.inserted pass (.checkSpecLength (BitVec.ofNat 32 bb.size))] bb.term :=
    (Weaves.nil meaning below.term).insert True.intro fun _ => True.intro
  have woven := counted.keeps bb.insts below.insts
  rw [List.append_nil] at woven
  exact ⟨rfl, woven⟩

theorem KSpecEm.beforeStore_free {target : Target Op}
    (below : (Inserted.store target).Below pass)
    : ∀ inst ∈ beforeStore pass f target, inst.Free pass := by
  have next := below.next
  unfold beforeStore
  split
  · simp
  · simpa [Inst.Free, Inserted.Ready, Inserted.Below] using next

theorem KSpecEm.beforeMemIntrinsic_free {access : Access} {narrowLength : Bool} {op : Op}
    (below : access.ptr.Below pass)
    : ∀ inst ∈ beforeMemIntrinsic pass f access narrowLength op, inst.Free pass := by
  have next := below.next
  unfold beforeMemIntrinsic
  split
  · simp
  · cases narrowLength <;> simpa [Inst.Free, Inserted.Ready, Inserted.Below] using next

/-- What the visitor puts before an instruction may stand anywhere. -/
theorem KSpecEmPassVisitor.visit_free {inst : Inst Op} (below : inst.Below pass)
    : ∀ before ∈ visit pass f inst, before.Free pass := by
  cases inst with
  | call called op =>
      change ∀ before ∈ KSpecEm.beforeCall pass f called op, before.Free pass
      unfold KSpecEm.beforeCall
      split
      · simp
      · split <;> simp [Inst.Free, Inserted.Ready, Inserted.Below]
  | store access size op => exact KSpecEm.beforeStore_free below
  | memIntrinsic access narrow op => exact KSpecEm.beforeMemIntrinsic_free below
  | inserted run inst =>
      cases inst with
      | storeSwapBranchCondition => exact KSpecEm.beforeStore_free True.intro
      | _ => simp [visit]
  | plain op | load access size op => simp [visit]

theorem KSpecEmPassVisitor.visitTerminator_free
    : ∀ before ∈ visitTerminator pass f term, before.Free pass := by
  have returns : ∀ before ∈ (KSpecEm.beforeReturn pass f : List (Inst Op)), before.Free pass := by
    unfold KSpecEm.beforeReturn
    split <;> simp [Inst.Free, Inserted.Ready, Inserted.Below]
  cases term with
  | ret op | retVoid run => exact returns
  | _ => simp [visitTerminator]

/-- The visitor weaves its hooks into a block, by induction on the instructions. -/
theorem KSpecEmPassVisitor.visitBlock_weaves (below : bb.Below pass)
    : bb.Weaves meaning pass (visitBlock pass f bb) := by
  obtain ⟨phis, insts, term⟩ := bb
  have belowInsts : ∀ inst ∈ insts, inst.Below pass := below.insts
  refine ⟨rfl, ?_⟩
  change Ir.Weaves meaning pass insts term
    (insts.flatMap (fun inst => visit pass f inst ++ [inst]) ++ visitTerminator pass f term) term
  have last := (Weaves.nil meaning below.term).inserts _
    (@visitTerminator_free Op pass term f)
  rw [List.append_nil] at last
  clear below
  induction insts with
  | nil => exact last
  | cons inst insts ih =>
      obtain ⟨first, others⟩ := List.forall_mem_cons.mp belowInsts
      have woven := ((ih others last).keep first).inserts _ (@visit_free Op pass f inst first)
      simpa using woven

theorem KSpecEmPfChecker.pointerCast_free (bytePtr : Bool)
    : ∀ inst ∈ (pointerCast pass bytePtr : List (Inst Op)), inst.Free pass := by
  cases bytePtr <;> simp [pointerCast, Inst.Free, Inserted.Ready, Inserted.Below]

theorem KSpecEmPfChecker.redirected_weaves (kind : AccessKind) {access : Access}
    {size : AccessSize Op} {op : Op} (weaves : Weaves meaning pass insts term woven term')
    (below : access.ptr.Below pass)
    : Weaves meaning pass (kind.inst access op :: insts) term
        (redirected pass access size op (fun access => kind.inst access op) ++ woven) term' := by
  have hooked : Weaves meaning pass (kind.inst access op :: insts) term _ term' :=
    weaves.redirect kind size access.bytePtr below
  have whole := hooked.inserts _ (pointerCast_free access.bytePtr)
  simpa [redirected] using whole

/-- The checker puts its hook before an access, and leaves other instructions alone. -/
theorem KSpecEmPfCheckerPassVisitor.visit_weaves {inst : Inst Op}
    (weaves : Weaves meaning pass insts term woven term') (below : inst.Below pass)
    : Weaves meaning pass (inst :: insts) term (visit pass inst ++ woven) term' := by
  cases inst with
  | load access size op =>
      rw [visit]
      split
      · exact weaves.keep below
      · exact KSpecEmPfChecker.redirected_weaves (.load size) weaves below
  | store access size op =>
      rw [visit]
      split
      · exact weaves.keep below
      · exact KSpecEmPfChecker.redirected_weaves (.store size) weaves below
  | memIntrinsic access narrow op =>
      rw [visit]
      split
      · exact weaves.keep below
      · have hooked : Weaves meaning pass
            ((AccessKind.memIntrinsic narrow).inst access op :: insts) term _ term' :=
          weaves.redirect (.memIntrinsic narrow) (.length op) true below
        have whole := hooked.inserts (if narrow then [.inserted pass .cast] else []) (by
          cases narrow <;> simp [Inst.Free, Inserted.Ready, Inserted.Below])
        simpa [KSpecEmPfChecker.pointerCast, AccessKind.inst] using whole
  | plain op | call called op | inserted run inst => exact weaves.keep below

/-- The checker weaves its hooks into a block, by induction on the instructions. -/
theorem KSpecEmPfChecker.visitBlock_weaves (below : bb.Below pass)
    : bb.Weaves meaning pass
        { bb with insts := bb.insts.flatMap (KSpecEmPfCheckerPassVisitor.visit pass) } := by
  obtain ⟨phis, insts, term⟩ := bb
  have belowInsts : ∀ inst ∈ insts, inst.Below pass := below.insts
  have last := Weaves.nil meaning below.term
  refine ⟨rfl, ?_⟩
  change Ir.Weaves meaning pass insts term
    (insts.flatMap (KSpecEmPfCheckerPassVisitor.visit pass)) term
  clear below
  induction insts with
  | nil => exact last
  | cons inst insts ih =>
      obtain ⟨first, others⟩ := List.forall_mem_cons.mp belowInsts
      exact KSpecEmPfCheckerPassVisitor.visit_weaves (ih others last) first

-----------------------------------------------------------------------------------------
-- Entry blocks
-----------------------------------------------------------------------------------------

/-- The timer hook gets the frame address it asks for. -/
theorem KSpecEm.timerInterruptHook_weaves (weaves : Weaves meaning pass insts term woven term')
    : Weaves meaning pass insts term (timerInterruptHook pass ++ woven) term' where
  sameInsts := weaves.sameInsts
  sameTerm := weaves.sameTerm
  below := by
    have rest := weaves.below
    simpa [timerInterruptHook, Inst.Below, Inserted.Below] using rest
  belowTerm := weaves.belowTerm
  sound := by
    intro values temps other agree start
    refine ⟨True.intro, fun frame nonnull => ⟨True.intro, fun unused _ => ⟨?_, fun done _ => ?_⟩⟩⟩
    · intro null
      refine nonnull (Eq.trans ?_ null)
      exact ((Temps.put_other (by simp [Inserted.name])).trans Temps.put_same).symm
    · exact weaves.sound _ _ _
        (((agree.put .frameAddress frame).put .unused unused).put .unused done) start

/-- No handler returns early where the runtime leaves the task alone. -/
theorem KSpecEm.exceptionInterruptHook_sound (f : ListedFunction) (yes no : Label) (values : V)
    (temps : Temps)
    : Sound meaning (.ifNull pass yes no) (exceptionInterruptHook pass f) values temps := by
  refine ⟨True.intro, fun frame nonnull => ⟨True.intro, fun unused _ => ⟨?_, fun inSpec zero =>
    ⟨True.intro, fun isNull null => ?_⟩⟩⟩⟩
  · intro null
    refine nonnull (Eq.trans ?_ null)
    exact ((Temps.put_other (by simp [Inserted.name])).trans Temps.put_same).symm
  · have zero : inSpec = 0 := zero
    have set : isNull = 1 :=
      null.trans (congrArg (fun w => boolWord (w == 0)) (Temps.put_same.trans zero))
    exact fun clear => absurd (set.symm.trans (Temps.put_same.symm.trans clear)) (by decide)

end Kasper.Ir
