import Kasper.Correctness.Sections

/-! Which exits the runtime's functions can take, from any state whatever.
Only a load takes the exit of a read fault, and only the loop of `kspecem_memcpy` diverges.
-/

namespace Kasper

open ByteMemory Exits

section
variable {α β : Type} {allowed : Exit → Prop}

/-- However it runs, `c` returns or takes an allowed exit. -/
def LeavesBy (allowed : Exit → Prop) (c : RtM α) : Prop :=
  Keeps (fun _ => True) (fun e _ => allowed e) c

/-- The exits that neither a read fault nor a divergence is. -/
def Exit.Common (e : Exit) : Prop :=
  e ≠ .fault false ∧ e ≠ .diverged

/-- The exits every function may take are allowed. -/
def AllowsCommon (allowed : Exit → Prop) : Prop :=
  ∀ e : Exit, e.Common → allowed e

/-- The words can be read, or a read fault is allowed. -/
def MayLoad (allowed : Exit → Prop) (kernel : Kernel) (words : List Address) : Prop :=
  ∀ w ∈ words, ¬kernel.PassesOver w → kernel.ReadableWord w ∨ allowed (.fault false)

theorem leavesBy_pure (a : α) : LeavesBy allowed (pure a : RtM α) :=
  keeps_pure a

theorem leavesBy_bind {c : RtM β} {f : β → RtM α} (first : LeavesBy allowed c)
    (next : ∀ b, LeavesBy allowed (f b))
    : LeavesBy allowed (c >>= f) :=
  keeps_bind first next

theorem leavesBy_get_bind {f : Rt → RtM α} (next : ∀ s, LeavesBy allowed (f s))
    : LeavesBy allowed (get >>= f) :=
  keeps_get_bind fun s _ => next s s True.intro

theorem leavesBy_modify (f : Rt → Rt) : LeavesBy allowed (modify f : RtM Unit) :=
  keeps_modify fun _ _ => True.intro

theorem leavesBy_throw {e : Exit} (allows : allowed e) : LeavesBy allowed (throw e : RtM α) :=
  keeps_throw fun _ _ => allows

theorem leavesBy_ite {p : Prop} [Decidable p] {c d : RtM α} (yes : LeavesBy allowed c)
    (no : LeavesBy allowed d)
    : LeavesBy allowed (if p then c else d) :=
  keeps_ite (fun _ => yes) (fun _ => no)

theorem LeavesBy.of_ends {c : RtM α}
    (h : ∀ s, Ends c (fun _ _ => True) (fun e _ => allowed e) s)
    : LeavesBy allowed c :=
  fun s _ => h s

variable {onFail : SpecAssert → RtM Unit}

theorem ltAssert_leavesBy {holds : Prop} [Decidable holds] {file condition : String}
    {line : Nat} (handled : ∀ failed, LeavesBy allowed (onFail failed))
    : LeavesBy allowed (ltAssert onFail holds file line condition) :=
  leavesBy_ite (leavesBy_pure _) (handled _)

theorem ltPanic_leavesBy (common : AllowsCommon allowed) (file text : String)
    : LeavesBy allowed (ltPanic file text) :=
  leavesBy_throw (common _ ⟨nofun, nofun⟩)

theorem fetch_leavesBy (common : AllowsCommon allowed) (name : TableId) (table : Table α)
    (index : Nat)
    : LeavesBy allowed (fetch name table index) :=
  leavesBy_ite (leavesBy_pure _) (leavesBy_throw (common _ ⟨nofun, nofun⟩))

theorem checkBounds_leavesBy (common : AllowsCommon allowed) (name : TableId)
    (table : Table α) (index : Nat)
    : LeavesBy allowed (checkBounds name table index) :=
  leavesBy_ite (leavesBy_pure _) (leavesBy_throw (common _ ⟨nofun, nofun⟩))

theorem storeWord_leavesBy (common : AllowsCommon allowed) (kernel : Kernel) (a : Address)
    (value : Word)
    : LeavesBy allowed (storeWord kernel a value) :=
  leavesBy_ite (leavesBy_modify _) (leavesBy_throw (common _ ⟨by simp, nofun⟩))

theorem loadWord_leavesBy {kernel : Kernel} {a : Address}
    (load : kernel.ReadableWord a ∨ allowed (.fault false))
    : LeavesBy allowed (loadWord kernel a) := by
  refine leavesBy_get_bind fun s => ?_
  rcases load with readable | allows
  · rw [if_pos (by exact readable)]
    exact leavesBy_pure _
  · exact leavesBy_ite (leavesBy_pure _) (leavesBy_throw allows)

theorem StatsExit.common {s t : Rt} {e : Exit} (h : StatsExit s e t) : e.Common := by
  obtain ⟨⟨table, _, rfl⟩, _⟩ := h
  exact ⟨nofun, nofun⟩

theorem addSpecStatistics_leavesBy (common : AllowsCommon allowed) (funcType : FuncType)
    (arg1 : Word) (arg2 : Int) (arg3 : Word) (returnAddr : Address)
    : LeavesBy allowed (addSpecStatistics onFail funcType arg1 arg2 arg3 returnAddr) :=
  .of_ends fun s =>
    (addSpecStatistics_stats funcType arg1 arg2 arg3 returnAddr s (.refl s)).imp
      (fun _ _ _ => True.intro) (fun e _ exit => common e exit.common)

theorem addRestartToStatistics_leavesBy (common : AllowsCommon allowed)
    (restartType : RestartType) (callArg : Address)
    : LeavesBy allowed (addRestartToStatistics restartType callArg) :=
  .of_ends fun s =>
    (addRestartToStatistics_stats restartType callArg s (.refl s)).imp
      (fun _ _ _ => True.intro) (fun e _ exit => common e exit.common)

theorem reportClearGlobals_leavesBy (common : AllowsCommon allowed)
    : LeavesBy allowed reportClearGlobals := by
  refine leavesBy_get_bind fun s => leavesBy_ite ?_ (leavesBy_modify _)
  exact leavesBy_bind (leavesBy_throw (common (.outOfBounds .bugs) ⟨nofun, nofun⟩)) fun _ =>
    leavesBy_modify _

section
variable {env : Env}

theorem getOffsetByIp_leavesBy (handled : ∀ failed, LeavesBy allowed (onFail failed))
    (ip : Address)
    : LeavesBy allowed (getOffsetByIp env onFail ip) :=
  leavesBy_bind (ltAssert_leavesBy handled) fun _ =>
    leavesBy_bind (ltAssert_leavesBy handled) fun _ => leavesBy_pure _

theorem previousBugs_leavesBy (common : AllowsCommon allowed) (offset : Word)
    : LeavesBy allowed (previousBugs offset) :=
  leavesBy_get_bind fun _ =>
    leavesBy_bind (fetch_leavesBy common _ _ _) fun _ => fetch_leavesBy common _ _ _

theorem shouldReportAccessBug_leavesBy (common : AllowsCommon allowed)
    (handled : ∀ failed, LeavesBy allowed (onFail failed)) (bug : Bug)
    : LeavesBy allowed (shouldReportAccessBug env onFail bug) := by
  have already : LeavesBy allowed (bugAlreadyReported env onFail bug) :=
    leavesBy_bind (getOffsetByIp_leavesBy handled _) fun _ =>
      leavesBy_bind (previousBugs_leavesBy common _) fun _ => leavesBy_pure _
  have set : LeavesBy allowed (bugSetIpAsReported env onFail bug) :=
    leavesBy_bind (getOffsetByIp_leavesBy handled _) fun _ =>
      leavesBy_bind (previousBugs_leavesBy common _) fun _ => leavesBy_modify _
  refine leavesBy_get_bind fun s => ?_
  refine leavesBy_ite (leavesBy_pure _) (leavesBy_ite (leavesBy_pure _) ?_)
  refine leavesBy_bind (ltAssert_leavesBy handled) fun _ => leavesBy_bind already fun known => ?_
  exact leavesBy_ite (leavesBy_pure _) (leavesBy_bind set fun _ => leavesBy_pure _)

theorem reportPrintAccessBug_leavesBy (common : AllowsCommon allowed) (bug : Bug)
    : LeavesBy allowed (reportPrintAccessBug bug) :=
  leavesBy_ite (ltPanic_leavesBy common _ _) (leavesBy_modify _)

theorem printReports_leavesBy (common : AllowsCommon allowed)
    (handled : ∀ failed, LeavesBy allowed (onFail failed)) (left i : Nat)
    (reportsPrinted : Bool)
    : LeavesBy allowed (printReports env onFail left i reportsPrinted) := by
  induction left generalizing i reportsPrinted with
  | zero => exact leavesBy_pure _
  | succ left ih =>
      refine leavesBy_get_bind fun s => leavesBy_bind (fetch_leavesBy common _ _ _) fun bug => ?_
      refine leavesBy_bind (shouldReportAccessBug_leavesBy common handled bug) fun report => ?_
      refine leavesBy_ite (leavesBy_ite ?_ ?_) (ih _ _)
      · exact leavesBy_bind (leavesBy_modify _) fun _ =>
          leavesBy_bind (reportPrintAccessBug_leavesBy common bug) fun _ => ih _ _
      · exact leavesBy_bind (reportPrintAccessBug_leavesBy common bug) fun _ => ih _ _

theorem reportPrintAndClear_leavesBy (common : AllowsCommon allowed)
    (handled : ∀ failed, LeavesBy allowed (onFail failed)) (calledFromRestart : Bool)
    (restartType : Int)
    : LeavesBy allowed (reportPrintAndClear env onFail calledFromRestart restartType) := by
  have clear := reportClearGlobals_leavesBy common
  refine leavesBy_get_bind fun s => leavesBy_ite (leavesBy_pure _) ?_
  refine leavesBy_bind (printReports_leavesBy common handled _ _ _) fun printed => ?_
  exact leavesBy_ite
    (leavesBy_get_bind fun _ => leavesBy_bind (leavesBy_modify _) fun _ => clear) clear

/-- A replay stores words and loads none. -/
theorem restoreLoop_leavesBy (common : AllowsCommon allowed)
    (handled : ∀ failed, LeavesBy allowed (onFail failed)) (frameaddr regs : Address)
    (position i : Nat)
    : LeavesBy allowed (restoreLoop env onFail frameaddr regs position i) := by
  induction position generalizing i with
  | zero => exact leavesBy_pure _
  | succ position ih =>
      have check {holds : Prop} [Decidable holds] {line : Nat} {condition : String}
          : LeavesBy allowed (ltAssert onFail holds "kspecem_undolog.c" line condition) :=
        ltAssert_leavesBy handled
      refine leavesBy_bind (leavesBy_modify _) fun _ => leavesBy_ite (leavesBy_pure _) ?_
      refine leavesBy_get_bind fun s => leavesBy_bind (fetch_leavesBy common _ _ _) fun addr => ?_
      refine leavesBy_ite (ih _) (leavesBy_bind check fun _ => leavesBy_ite (ih _) ?_)
      refine leavesBy_get_bind fun s => leavesBy_bind check fun _ => ?_
      refine leavesBy_bind check fun _ => leavesBy_bind check fun _ => ?_
      refine leavesBy_get_bind fun s => leavesBy_bind (fetch_leavesBy common _ _ _) fun region => ?_
      refine leavesBy_bind (storeWord_leavesBy common _ _ _) fun _ => ?_
      exact leavesBy_bind check fun _ => ih _

theorem restoreWritelog_leavesBy (common : AllowsCommon allowed)
    (handled : ∀ failed, LeavesBy allowed (onFail failed)) (frameaddr regs : Address)
    : LeavesBy allowed (restoreWritelog env onFail frameaddr regs) := by
  refine leavesBy_get_bind fun s => leavesBy_bind (ltAssert_leavesBy handled) fun _ => ?_
  refine leavesBy_bind (restoreLoop_leavesBy common handled _ _ _ _) fun result => ?_
  cases result with
  | none => exact leavesBy_pure _
  | some i =>
      refine leavesBy_bind (ltAssert_leavesBy handled) fun _ => leavesBy_get_bind fun s => ?_
      exact leavesBy_bind (ltAssert_leavesBy handled) fun _ => leavesBy_pure _

theorem copyFromStackLog_leavesBy (common : AllowsCommon allowed) (target : Address)
    (len : Nat)
    : LeavesBy allowed (copyFromStackLog target len) :=
  leavesBy_get_bind fun _ =>
    leavesBy_ite (leavesBy_modify _) (leavesBy_throw (common _ ⟨nofun, nofun⟩))

theorem restoreRegisters_leavesBy (common : AllowsCommon allowed) (kernel : Kernel)
    : LeavesBy allowed (restoreRegisters kernel) :=
  leavesBy_bind (leavesBy_modify _) fun _ => leavesBy_throw (common _ ⟨nofun, nofun⟩)

theorem finishRestart_leavesBy (common : AllowsCommon allowed)
    (handled : ∀ failed, LeavesBy allowed (onFail failed)) (direct : Bool)
    (restartType : RestartType)
    : LeavesBy allowed (finishRestart env onFail direct restartType) := by
  have leave : LeavesBy allowed (leaveRestart env direct) := by
    refine leavesBy_get_bind fun s => ?_
    cases s.specAssert with
    | some failed => exact leavesBy_throw (common _ ⟨nofun, nofun⟩)
    | none =>
        refine leavesBy_ite ?_ (leavesBy_pure _)
        refine leavesBy_bind (leavesBy_modify _) fun _ => ?_
        exact leavesBy_bind (restoreRegisters_leavesBy common _) fun _ => leavesBy_pure _
  refine leavesBy_bind (leavesBy_modify _) fun _ => leavesBy_ite ?_ leave
  exact leavesBy_bind (reportPrintAndClear_leavesBy common handled _ _) fun _ => leave

theorem rollBack_leavesBy (common : AllowsCommon allowed)
    (handled : ∀ failed, LeavesBy allowed (onFail failed)) (direct : Bool)
    (restartType : RestartType) (frameaddr regs : Address)
    : LeavesBy allowed (rollBack env onFail direct restartType frameaddr regs) := by
  have finish := @finishRestart_leavesBy allowed onFail env common handled direct restartType
  refine leavesBy_get_bind fun s => leavesBy_bind (ltAssert_leavesBy handled) fun _ => ?_
  refine leavesBy_bind (restoreWritelog_leavesBy common handled _ _) fun result => ?_
  refine leavesBy_ite (leavesBy_pure _) (leavesBy_bind (leavesBy_modify _) fun _ => ?_)
  refine leavesBy_bind (leavesBy_modify _) fun _ => leavesBy_bind (leavesBy_modify _) fun _ => ?_
  refine leavesBy_get_bind fun s => ?_
  refine leavesBy_bind (copyFromStackLog_leavesBy common _ _) fun _ => ?_
  exact leavesBy_ite (leavesBy_bind (ltPanic_leavesBy common _ _) fun _ => finish) finish

theorem restart_leavesBy (common : AllowsCommon allowed)
    (handled : ∀ failed, LeavesBy allowed (onFail failed)) (direct : Bool)
    (restartType : RestartType) (callArg frameaddr regs : Address)
    : LeavesBy allowed (restart env onFail direct restartType callArg frameaddr regs) := by
  have roll :=
    @rollBack_leavesBy allowed onFail env common handled direct restartType frameaddr regs
  refine leavesBy_get_bind fun s => leavesBy_ite (leavesBy_pure _) ?_
  refine leavesBy_bind (leavesBy_modify _) fun _ => leavesBy_get_bind fun s => ?_
  refine leavesBy_ite (leavesBy_get_bind fun s => leavesBy_ite ?_ ?_) roll
  · exact leavesBy_bind (addSpecStatistics_leavesBy common _ _ _ _ _) fun _ =>
      leavesBy_bind (leavesBy_modify _) fun _ => leavesBy_pure _
  · refine leavesBy_bind (addSpecStatistics_leavesBy common _ _ _ _ _) fun _ => ?_
    exact leavesBy_ite
      (leavesBy_bind (addRestartToStatistics_leavesBy common _ _) fun _ => roll)
      (leavesBy_bind (addRestartToStatistics_leavesBy common _ _) fun _ => roll)

theorem appendEntry_leavesBy (common : AllowsCommon allowed) {w : Address}
    (load : env.kernel.ReadableWord w ∨ allowed (.fault false))
    : LeavesBy allowed (appendEntry env w) := by
  refine leavesBy_get_bind fun s => leavesBy_get_bind fun s => leavesBy_ite ?_ (leavesBy_pure _)
  refine leavesBy_get_bind fun s => leavesBy_bind (checkBounds_leavesBy common _ _ _) fun _ => ?_
  refine leavesBy_bind (leavesBy_modify _) fun _ => leavesBy_get_bind fun s => ?_
  refine leavesBy_bind (checkBounds_leavesBy common _ _ _) fun _ => ?_
  refine leavesBy_bind (loadWord_leavesBy load) fun value => ?_
  refine leavesBy_bind (leavesBy_modify _) fun _ => leavesBy_get_bind fun s => ?_
  refine leavesBy_bind (checkBounds_leavesBy common _ _ _) fun _ => ?_
  exact leavesBy_bind (leavesBy_modify _) fun _ => leavesBy_modify _

/-- Logging a word loads that word, unless the log passes over it. -/
theorem writeWlAligned_leavesBy (common : AllowsCommon allowed)
    (handled : ∀ failed, LeavesBy allowed (onFail failed)) {w : Address}
    (load : MayLoad allowed env.kernel [w])
    : LeavesBy allowed (writeWlAligned env onFail w) := by
  have check {holds : Prop} [Decidable holds] {line : Nat} {condition : String}
      : LeavesBy allowed (ltAssert onFail holds "kspecem_undolog.c" line condition) :=
    ltAssert_leavesBy handled
  have full := @restart_leavesBy allowed onFail env common handled true .restartWritelogFull 0 0 0
  have append : LeavesBy allowed
      (if w = env.kernel.wlPosition then pure ()
      else if w = env.kernel.writelogEnabled then pure ()
      else appendEntry env w) := by
    by_cases passes : env.kernel.PassesOver w
    · rcases passes with position | enabled
      · rw [if_pos position]
        exact leavesBy_pure _
      · exact leavesBy_ite (leavesBy_pure _) (by rw [if_pos enabled]; exact leavesBy_pure _)
    · have load := load w (List.mem_singleton_self w) passes
      exact leavesBy_ite (leavesBy_pure _)
        (leavesBy_ite (leavesBy_pure _) (appendEntry_leavesBy common load))
  refine leavesBy_get_bind fun s => leavesBy_get_bind fun s => leavesBy_bind check fun _ => ?_
  refine leavesBy_get_bind fun s => leavesBy_bind check fun _ => ?_
  refine leavesBy_get_bind fun s => leavesBy_bind check fun _ => ?_
  refine leavesBy_get_bind fun s => leavesBy_ite (leavesBy_bind full fun _ => ?_) ?_
  all_goals
    refine leavesBy_get_bind fun s => leavesBy_bind check fun _ => ?_
    refine leavesBy_get_bind fun s => leavesBy_bind check fun _ => ?_
    refine leavesBy_get_bind fun s => leavesBy_bind check fun _ => ?_
    exact leavesBy_bind check fun _ => append

theorem store_leavesBy (common : AllowsCommon allowed)
    (handled : ∀ failed, LeavesBy allowed (onFail failed)) {a : Address}
    (load : MayLoad allowed env.kernel (savedWords a))
    : LeavesBy allowed (store env onFail a) := by
  have word {w : Address} (member : w ∈ savedWords a)
      : LeavesBy allowed (writeWlAligned env onFail w) := by
    refine writeWlAligned_leavesBy common handled fun x single => ?_
    rw [List.mem_singleton.mp single]
    exact load w member
  have first : LeavesBy allowed (writeWlAligned env onFail (alignDown 3 a)) :=
    word (mem_savedWords.mpr (Or.inl rfl))
  by_cases unaligned : a ≠ wordOf a
  · rw [store, writeWl, if_pos (by exact unaligned)]
    exact leavesBy_bind (word (mem_savedWords.mpr (Or.inr ⟨unaligned, rfl⟩))) fun _ => first
  · rw [store, writeWl, if_neg (by exact unaligned)]
    exact first

theorem localIrqSave_leavesBy : LeavesBy allowed localIrqSave :=
  leavesBy_get_bind fun _ => leavesBy_bind (leavesBy_modify _) fun _ => leavesBy_pure _

theorem leaveKspecemNonmiRt_leavesBy (handled : ∀ failed, LeavesBy allowed (onFail failed))
    (line : Nat) (irqFlags : Word)
    : LeavesBy allowed (leaveKspecemNonmiRt onFail line irqFlags) :=
  leavesBy_get_bind fun _ =>
    leavesBy_bind (ltAssert_leavesBy handled) fun _ =>
      leavesBy_bind (leavesBy_modify _) fun _ => leavesBy_modify _

/-- The store hook loads the words it logs. -/
theorem hookStore_leavesBy (common : AllowsCommon allowed)
    (handled : ∀ failed, LeavesBy allowed (onFail failed)) {a : Address}
    (load : MayLoad allowed env.kernel (savedWords a))
    : LeavesBy allowed (hookStore env onFail a) := by
  refine leavesBy_get_bind fun s => leavesBy_ite (leavesBy_pure _) ?_
  refine leavesBy_get_bind fun s => leavesBy_ite (leavesBy_pure _) ?_
  refine leavesBy_bind (leavesBy_bind (leavesBy_modify _) fun _ => localIrqSave_leavesBy) ?_
  intro irqFlags
  refine leavesBy_bind (store_leavesBy common handled load) fun _ => ?_
  exact leaveKspecemNonmiRt_leavesBy handled 125 irqFlags

theorem countNmi_leavesBy (common : AllowsCommon allowed)
    (handled : ∀ failed, LeavesBy allowed (onFail failed))
    (load : MayLoad allowed env.kernel (savedWords env.kernel.nmiCount)) (delta : Word)
    : LeavesBy allowed (countNmi env onFail delta) :=
  leavesBy_bind (hookStore_leavesBy common handled load) fun _ => leavesBy_modify _

theorem enterKspecemRt_leavesBy (common : AllowsCommon allowed)
    (handled : ∀ failed, LeavesBy allowed (onFail failed))
    (load : MayLoad allowed env.kernel (savedWords env.kernel.nmiCount))
    : LeavesBy allowed (enterKspecemRt env onFail) :=
  leavesBy_bind (leavesBy_modify _) fun _ =>
    leavesBy_bind localIrqSave_leavesBy fun _ =>
      leavesBy_bind (countNmi_leavesBy common handled load 1) fun _ => leavesBy_pure _

theorem leaveKspecemRt_leavesBy (common : AllowsCommon allowed)
    (handled : ∀ failed, LeavesBy allowed (onFail failed))
    (load : MayLoad allowed env.kernel (savedWords env.kernel.nmiCount)) (line : Nat)
    (irqFlags : Word)
    : LeavesBy allowed (leaveKspecemRt env onFail line irqFlags) :=
  leavesBy_get_bind fun _ =>
    leavesBy_bind (ltAssert_leavesBy handled) fun _ =>
      leavesBy_bind (countNmi_leavesBy common handled load (-1)) fun _ =>
        leavesBy_bind (leavesBy_modify _) fun _ => leavesBy_modify _

theorem hookRestart_leavesBy (common : AllowsCommon allowed)
    (handled : ∀ failed, LeavesBy allowed (onFail failed))
    (load : MayLoad allowed env.kernel (savedWords env.kernel.nmiCount)) (direct : Bool)
    (restartType : RestartType) (callArg : Address)
    : LeavesBy allowed (hookRestart env onFail direct restartType callArg) := by
  refine leavesBy_get_bind fun s => leavesBy_ite (leavesBy_pure _) ?_
  refine leavesBy_bind (enterKspecemRt_leavesBy common handled load) fun irqFlags => ?_
  refine leavesBy_bind (restart_leavesBy common handled _ _ _ _ _) fun ret => ?_
  exact leavesBy_bind (leaveKspecemRt_leavesBy common handled load _ _) fun _ => leavesBy_pure _

/-- A failed assertion loads the word of the NMI counter at most, by induction on the room
for more failures.
-/
theorem kspecemPanic_leavesBy (common : AllowsCommon allowed)
    (load : MayLoad allowed env.kernel (savedWords env.kernel.nmiCount)) (depth : Nat)
    (failed : SpecAssert)
    : LeavesBy allowed (kspecemPanic env depth failed) := by
  induction depth generalizing failed with
  | zero =>
      exact leavesBy_bind (leavesBy_modify _) fun _ =>
        leavesBy_throw (common .stackOverflow ⟨nofun, nofun⟩)
  | succ depth ih =>
      refine leavesBy_bind (leavesBy_modify _) fun _ => leavesBy_get_bind fun s => ?_
      refine leavesBy_ite (leavesBy_bind (leavesBy_modify _) fun _ => ?_)
        (leavesBy_throw (common _ ⟨nofun, nofun⟩))
      refine leavesBy_get_bind fun s => leavesBy_ite ?_ (leavesBy_pure _)
      exact leavesBy_bind (hookRestart_leavesBy common ih load true _ 0) fun _ => leavesBy_pure _

theorem onFail_leavesBy (common : AllowsCommon allowed)
    (load : MayLoad allowed env.kernel (savedWords env.kernel.nmiCount)) (failed : SpecAssert)
    : LeavesBy allowed (env.onFail failed) :=
  kspecemPanic_leavesBy common load env.kernel.panicDepth failed

end

end

end Kasper
