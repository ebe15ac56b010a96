import Kasper.Correctness.Bookkeeping
import Kasper.Correctness.StateMachine
import Kasper.Correctness.Tours

/-! The restart statistics against the checkpoints and rollbacks they stand for: the count
goes up before the replay and once for each rollback.
-/

namespace Kasper

open ByteMemory Exits

/-- An assertion has failed. -/
def Failed (s : Rt) : Prop :=
  s.asserted ≠ []

/-- Statistics are counted by what only they change. -/
theorem addRestartToStatistics_failed (restartType : RestartType) (callArg : Address)
    : Keeps Failed (fun _ t => Failed t) (addRestartToStatistics restartType callArg) := by
  intro s failed
  have same {t : Rt} (only : OnlyStats s t) : Failed t := by
    unfold OnlyStats at only
    rw [only]
    exact failed
  exact (addRestartToStatistics_stats restartType callArg s (.refl s)).imp
    (fun _ _ only => same only) (fun _ _ exit => same exit.2)

/-- A failed assertion stays in the record, whatever runs. -/
theorem failedTour : Tour Failed (fun _ t => Failed t) where
  quiet := fun s t quiet failed => by
    unfold Failed
    rw [quiet.asserted]
    exact failed
  final := fun _ _ _ _ _ failed => failed
  stores := fun _ failed => failed

section
variable {env : Env} {onFail : SpecAssert → RtM Unit}

theorem restart_failed (fails : ∀ failed, Keeps Failed (fun _ t => Failed t) (onFail failed))
    {direct : Bool} {restartType : RestartType} {callArg frameaddr regs : Address}
    : Keeps Failed (fun _ t => Failed t)
        (restart env onFail direct restartType callArg frameaddr regs) :=
  fun _ failed =>
    failedTour.restart failedTour fails fails (fun _ failed => failed) (fun _ failed => failed)
      (fun _ _ _ t _ failed => addRestartToStatistics_failed _ _ t failed)
      (fun _ _ _ _ failed => failed) failed

theorem failedHookTour (fails : ∀ failed, Keeps Failed (fun _ t => Failed t) (onFail failed))
    : HookTour env onFail Failed (fun _ t => Failed t) where
  toTour := failedTour
  fails := fails
  resumes := fun _ failed => failed
  restarts := fun _ _ _ => restart_failed fails
  sections := fun _ _ failed => failed
  interrupts := fun _ _ _ _ _ => restart_failed fails

/-- A failing assertion is on record wherever control goes from it, by induction on the room
for more failures.
-/
theorem kspecemPanic_failed (env : Env) (depth : Nat) (failed : SpecAssert) (s : Rt)
    : Ends (kspecemPanic env depth failed) (fun _ t => Failed t) (fun _ t => Failed t) s := by
  induction depth generalizing failed s with
  | zero =>
      rw [kspecemPanic, ends_bind, ends_modify]
      exact List.cons_ne_nil failed s.asserted
  | succ depth ih =>
      have tour : HookTour env (kspecemPanic env depth) Failed (fun _ t => Failed t) :=
        failedHookTour fun failed s _ => ih failed s
      have loads : LoadsFrom Failed (fun _ t => Failed t) env.kernel
          (savedWords env.kernel.nmiCount) :=
        fun _ _ _ => Or.inr fun _ failed => failed
      exact tour.kspecemPanicWith loads (fun _ _ failed => failed) (restart_failed tour.fails)
        (List.cons_ne_nil failed s.asserted)

/-- Unless an assertion failed. -/
def Unless (K : Rt → Prop) (s : Rt) : Prop :=
  s.asserted = [] → K s

theorem Unless.of_failed {K : Rt → Prop} {s : Rt} (failed : Failed s) : Unless K s :=
  fun none => absurd none failed

/-- What is known where a hook leaves and the kernel runs on. -/
def Leaves (K : Rt → Prop) (e : Exit) (t : Rt) : Prop :=
  e = .resumed ∨ e = .fault false → Unless K t

theorem Leaves.of_final {K : Rt → Prop} {e : Exit} (final : e.Final) (t : Rt) : Leaves K e t := by
  rintro (rfl | rfl)
  · exact final.elim
  · exact final.elim

end

/-- The sum of the counters of the restart types. -/
def FunctionStats.restarts (stats : FunctionStats) : Word :=
  stats.onReturnRestarts + stats.onCallRestarts + stats.onCallUndefinedRestarts
    + stats.onCallInlineasmRestarts + stats.onBlacklistRestarts + stats.onExceptionRestarts
    + stats.onTimerRestarts + stats.onLimitSpecRestarts + stats.onCallDepthRestarts
    + stats.onCallDisabled + stats.onWritelogFullRestarts + stats.onPageFault

/-- A listed type advances one counter. -/
theorem FunctionStats.restarts_count (stats : FunctionStats) {restartType : RestartType}
    (known : restartType.Known)
    : (stats.count restartType).restarts = stats.restarts + 1 := by
  cases restartType with
  | unlisted code => exact known.elim
  | _ =>
      simp only [FunctionStats.count, FunctionStats.restarts]
      ac_rfl

theorem FunctionStats.totalRestarts_count (stats : FunctionStats) (restartType : RestartType)
    : (stats.count restartType).totalRestarts = stats.totalRestarts := by
  cases restartType <;> rfl

/-- The counters of the one row of `kspecem_total_statistics`. -/
def Rt.totals (s : Rt) : FunctionStats :=
  s.stats.totalStatistics.cell 0

/-- The total and the sum of the counters are both `total`, and restarts are counted. -/
structure Balanced (total : Word) (s : Rt) : Prop where
  specAssert : s.specAssert = none
  totalRestarts : s.totals.totalRestarts = total
  restarts : s.totals.restarts = total

theorem Balanced.congr {total : Word} {s t : Rt} (h : Balanced total s)
    (specAssert : t.specAssert = s.specAssert)
    (totals : t.stats.totalStatistics = s.stats.totalStatistics)
    : Balanced total t where
  specAssert := specAssert.trans h.specAssert
  totalRestarts := by
    rw [Rt.totals, totals]
    exact h.totalRestarts
  restarts := by
    rw [Rt.totals, totals]
    exact h.restarts

theorem Balanced.steady {total : Word} {s t : Rt} (h : Balanced total s) (steady : Steady s t)
    : Balanced total t :=
  h.congr steady.specAssert (congrArg RestartStats.totalStatistics steady.restartStats)

/-- In speculation, with `total` rollbacks counted. -/
def During (total : Word) (s : Rt) : Prop :=
  s.inSpeculativeEmulation = true ∧ Balanced total s

/-- Outside speculation, with `total` rollbacks counted. -/
def AtRest (total : Word) (s : Rt) : Prop :=
  s.inSpeculativeEmulation = false ∧ Balanced total s

theorem During.steady {total : Word} {s t : Rt} (steady : Steady s t) (h : During total s)
    : During total t :=
  ⟨steady.inSpec.trans h.1, h.2.steady steady⟩

theorem AtRest.steady {total : Word} {s t : Rt} (steady : Steady s t) (h : AtRest total s)
    : AtRest total t :=
  ⟨steady.inSpec.trans h.1, h.2.steady steady⟩

/-- Still in the episode that began with `total` rollbacks counted, or after its rollback. -/
def Rolled (total : Word) (s : Rt) : Prop :=
  During total s ∨ AtRest (total + 1) s

theorem Rolled.steady {total : Word} {s t : Rt} (steady : Steady s t) (h : Rolled total s)
    : Rolled total t :=
  h.imp (fun episode => episode.steady steady) (fun idle => idle.steady steady)

/-- In an episode whose log is still empty. -/
def Fresh (total : Word) (s : Rt) : Prop :=
  During total s ∧ s.log.position = 0

theorem Fresh.steady {total : Word} {s t : Rt} (start : Unless (Fresh total) s)
    (steady : Steady s t) (position : t.log.position = s.log.position)
    : Unless (Fresh total) t := by
  intro none
  obtain ⟨episode, empty⟩ := start (steady.asserted.symm.trans none)
  exact ⟨episode.steady steady, position.trans empty⟩

/-- A checkpoint counts nothing, and empties the log. -/
theorem Fresh.opened {total : Word} {s : Rt} (start : Unless (AtRest total) s)
    : Unless (Fresh total)
        { s with log := { s.log with position := 0 }, inSpeculativeEmulation := true } :=
  fun none => ⟨⟨rfl, (start none).2.congr rfl rfl⟩, rfl⟩

/-- Counting a restart of a listed type adds one to both sums. -/
theorem addRestartToStatistics_counts {restartType : RestartType} (known : restartType.Known)
    (callArg : Address) {total : Word} {s : Rt} (start : During total s)
    : Ends (addRestartToStatistics restartType callArg) (fun _ t => During (total + 1) t)
        (fun e _ => ∃ table, e = .outOfBounds table) s := by
  have counted
      : During (total + 1)
          { s with
            stats :=
              { s.stats with
                totalStatistics :=
                  s.stats.totalStatistics.put 0
                    ({ s.totals with totalRestarts := s.totals.totalRestarts + 1 }.count
                      restartType) } } := by
    refine ⟨start.1, start.2.specAssert, ?_, ?_⟩
    · simp only [Rt.totals, Table.put_cell_same]
      rw [FunctionStats.totalRestarts_count]
      exact congrArg (· + 1) start.2.totalRestarts
    · simp only [Rt.totals, Table.put_cell_same]
      rw [FunctionStats.restarts_count _ known]
      exact congrArg (· + 1) start.2.restarts
  rw [addRestartToStatistics, ends_bind, ends_get, ends_bind, ends_checkBounds]
  refine ⟨fun _ => ?_, fun _ => ⟨_, rfl⟩⟩
  rw [ends_bind, ends_modify]
  refine (?_ : Keeps (During (total + 1)) _ _) _ counted
  refine keeps_branch (keeps_read fun s => keeps_branch ?_ (keeps_pure _)) (keeps_pure _)
  refine keeps_addInlineasmRestart (fun s rows size _ start => ?_) (fun _ _ => ⟨_, rfl⟩) _
  exact ⟨start.1, start.2.congr rfl rfl⟩

theorem Unless.steady {K : Rt → Prop} (stable : ∀ s t, Steady s t → K s → K t) {s t : Rt}
    (start : Unless K s) (steady : Steady s t)
    : Unless K t :=
  fun none => stable s t steady (start (steady.asserted.symm.trans none))

/-- What steady steps keep is toured; final exits need nothing. -/
theorem Tour.unless {K L : Rt → Prop} (stable : ∀ s t, Steady s t → K s → K t)
    : Tour (Unless K) (Leaves L) where
  quiet := fun _ _ quiet start => start.steady stable quiet.steady
  final := fun _ s final _ _ _ => .of_final final s
  stores := fun s _ exit => by rcases exit with resumed | fault <;> contradiction

section
variable {env : Env} {onFail : SpecAssert → RtM Unit} {total : Word}
  (fails
    : ∀ failed s, Ends (onFail failed) (fun _ t => Failed t) (fun _ t => Failed t) s)
include fails

theorem keeps_onFail {K L : Rt → Prop} (failed : SpecAssert)
    : Keeps (Unless K) (Leaves L) (onFail failed) :=
  fun s _ => (fails failed s).imp (fun _ _ failed => .of_failed failed)
    (fun _ _ failed _ => .of_failed failed)

/-- In speculation a restart of a listed type counts once and rolls back, or does neither. -/
theorem restart_rolled {direct : Bool} {restartType : RestartType} (known : restartType.Known)
    {callArg frameaddr regs : Address}
    : Keeps (Unless (Rolled total)) (Leaves (Rolled total))
        (restart env onFail direct restartType callArg frameaddr regs) := by
  have tour : Tour (Unless (Rolled total)) (Leaves (Rolled total)) :=
    .unless fun _ _ => Rolled.steady
  have rolling : Tour (Unless (During (total + 1))) (Leaves (Rolled total)) :=
    .unless fun _ _ => During.steady
  have still {s : Rt} (spec : s.inSpeculativeEmulation = true) (start : Rolled total s)
      : During total s := by
    rcases start with episode | idle
    · exact episode
    · exact absurd (idle.1.symm.trans spec) Bool.false_ne_true
  intro s start
  refine tour.restart rolling (keeps_onFail fails) (keeps_onFail fails) ?_
    (fun s start _ => start.steady (fun _ _ => Rolled.steady) ⟨rfl, rfl, rfl, rfl⟩) ?_ ?_
    start
  · intro s start none
    exact Or.inr ⟨rfl, (start none).2.congr rfl rfl⟩
  · intro spec _ arg t quiet start
    by_cases clear : t.asserted = []
    · have episode := still (quiet.inSpec.trans spec) (start clear)
      refine (addRestartToStatistics_counts known arg episode).imp (fun _ _ counted _ => counted) ?_
      rintro e t ⟨table, rfl⟩
      exact .of_final (by exact True.intro) t
    · exact (addRestartToStatistics_failed _ _ t clear).imp
        (fun _ _ failed => .of_failed failed) (fun _ _ failed _ => .of_failed failed)
  · intro spec some t quiet start none
    have passed := (still (quiet.inSpec.trans spec) (start none)).2.specAssert
    exact absurd (quiet.specAssert.symm.trans passed) some

theorem rolledTour
    : HookTour env onFail (Unless (Rolled total)) (Leaves (Rolled total)) where
  toTour := .unless fun _ _ => Rolled.steady
  fails := keeps_onFail fails
  resumes := fun _ start _ => start
  restarts := fun _ known _ => restart_rolled fails known
  sections := fun _ _ start =>
    start.steady (fun _ _ => Rolled.steady) ⟨rfl, rfl, rfl, rfl⟩
  interrupts := fun _ _ _ known _ => restart_rolled fails known

/-- Outside speculation a restart counts nothing. -/
theorem restart_outside {direct : Bool} {restartType : RestartType}
    {callArg frameaddr regs : Address}
    : Keeps (Unless (AtRest total)) (Leaves (AtRest total))
        (restart env onFail direct restartType callArg frameaddr regs) := by
  have tour : Tour (Unless (AtRest total)) (Leaves (AtRest total)) :=
    .unless fun _ _ => AtRest.steady
  have rolling : Tour (Unless fun _ => False) (Leaves (AtRest total)) :=
    .unless fun _ _ _ never => never
  have failed {t : Rt} (start : Unless (AtRest total) t) (spec : t.inSpeculativeEmulation = true)
      : Failed t :=
    fun none => absurd ((start none).1.symm.trans spec) Bool.false_ne_true
  intro s start
  refine tour.restart rolling (keeps_onFail fails) (keeps_onFail fails)
    (fun s never none => (never none).elim)
    (fun s start _ => start.steady (fun _ _ => AtRest.steady) ⟨rfl, rfl, rfl, rfl⟩) ?_
    (fun spec _ t quiet start => .of_failed (failed start (quiet.inSpec.trans spec))) start
  intro spec _ arg t quiet start
  exact (addRestartToStatistics_failed _ _ t (failed start (quiet.inSpec.trans spec))).imp
    (fun _ _ failed => .of_failed failed) (fun _ _ failed _ => .of_failed failed)

theorem idleTour : HookTour env onFail (Unless (AtRest total)) (Leaves (AtRest total)) where
  toTour := .unless fun _ _ => AtRest.steady
  fails := keeps_onFail fails
  resumes := fun _ start _ => start
  restarts := fun _ _ _ => restart_outside fails
  sections := fun _ _ start =>
    start.steady (fun _ _ => AtRest.steady) ⟨rfl, rfl, rfl, rfl⟩
  interrupts := fun _ _ _ _ _ => restart_outside fails

theorem restart_full_fresh {s : Rt} (start : Unless (Fresh total) s)
    (isFull : writelogMaxlen * 2 ≤ s.log.position)
    : Ends (restart env onFail true .restartWritelogFull 0 0 0)
        (fun _ t => Unless (During total) t) (Leaves (During total)) s := by
  have failed : Failed s := by
    intro none
    rw [(start none).2] at isFull
    exact absurd isFull (by decide)
  exact (restart_failed (fun failed s _ => fails failed s) s failed).imp
    (fun _ _ failed => .of_failed failed) (fun _ _ failed _ => .of_failed failed)

/-- The counter's word still fits in an empty log. -/
theorem hookStore_fresh {s : Rt} (start : Unless (Fresh total) s)
    : Ends (hookStore env onFail env.kernel.nmiCount) (fun _ t => Unless (During total) t)
        (Leaves (During total)) s := by
  have tour : Tour (Unless (During total)) (Leaves (During total)) :=
    .unless fun _ _ => During.steady
  have opened (s : Rt) (start : Unless (Fresh total) s) : Unless (During total) s :=
    fun none => (start none).1
  have loads : LoadsFrom (Unless (During total)) (Leaves (During total)) env.kernel
      [env.kernel.nmiCount] :=
    fun _ _ _ => Or.inr fun s start _ => start
  have saves : store env onFail env.kernel.nmiCount
      = writeWlAligned env onFail env.kernel.nmiCount := by
    have aligned : alignDown 3 env.kernel.nmiCount = env.kernel.nmiCount :=
      env.kernel.nmiCount_aligned
    simp [store, writeWl, aligned]
  rw [hookStore, ends_bind, ends_get, ends_ite]
  refine ⟨fun _ => opened s start, fun _ => ?_⟩
  rw [ends_bind, ends_get, ends_ite]
  refine ⟨fun _ => opened s start, fun _ => ?_⟩
  simp only [enterKspecemNonmiRt, setRt, localIrqSave, ends_bind, ends_modify, ends_get,
    ends_pure]
  have entered : Unless (Fresh total) { s with isInRt := true, irqsEnabled := false } :=
    Fresh.steady start ⟨rfl, rfl, rfl, rfl⟩ rfl
  rw [saves]
  refine (tour.writeWlAligned (keeps_onFail fails) (keeps_onFail fails) opened
    (fun t start isFull => restart_full_fresh fails start isFull) loads entered).imp ?_
    (fun _ _ exit => exit)
  intro _ t start
  refine (?_ : Keeps (Unless (During total)) (Leaves (During total)) _) t start
  refine keeps_read fun s => keeps_bind (keeps_ltAssert (keeps_onFail fails)) fun _ => ?_
  refine keeps_bind (tour.modify fun _ => ⟨rfl, rfl, rfl, rfl, rfl, rfl, rfl⟩) fun _ => ?_
  exact keeps_modify fun s start =>
    start.steady (fun _ _ => During.steady) ⟨rfl, rfl, rfl, rfl⟩

/-- Leaving the section of a new checkpoint counts nothing. -/
theorem hookLeaveRt_fresh (irqFlags : Word) {s : Rt} (start : Unless (Fresh total) s)
    : Ends (hookLeaveRt env onFail irqFlags) (fun _ t => Unless (During total) t)
        (Leaves (During total)) s := by
  have tour : Tour (Unless (During total)) (Leaves (During total)) :=
    .unless fun _ _ => During.steady
  rw [hookLeaveRt, ends_ite]
  refine ⟨fun _ => ?_, fun _ none => (start none).1⟩
  rw [leaveKspecemRt, ends_bind, ends_get]
  refine Ends.bind (keeps_ltAssert (keeps_onFail fails) _ start) fun _ t start => ?_
  rw [restartNmi, countNmi, ends_bind, ends_bind]
  refine (hookStore_fresh fails start).imp (fun _ t start => ?_) (fun _ _ exit => exit)
  have start := tour.quiet t (t.counted env.kernel (-1)) ⟨rfl, rfl, rfl, rfl, rfl, rfl, rfl⟩ start
  rw [ends_modify]
  refine (?_ : Keeps (Unless (During total)) (Leaves (During total)) _) _ start
  refine keeps_bind (tour.modify fun _ => ⟨rfl, rfl, rfl, rfl, rfl, rfl, rfl⟩) fun _ => ?_
  exact keeps_modify fun s start =>
    start.steady (fun _ _ => During.steady) ⟨rfl, rfl, rfl, rfl⟩

end

-----------------------------------------------------------------------------------------
-- One event
-----------------------------------------------------------------------------------------

/-- Restart hooks are called with the types `kspecem_restart_type_e` lists. -/
def Action.Listed : Action → Prop
  | .restart restartType _ => restartType.Known
  | _ => True

section
variable {env : Env} {total : Word}

theorem Env.onFail_failed (env : Env) (failed : SpecAssert) (s : Rt)
    : Ends (env.onFail failed) (fun _ t => Failed t) (fun _ t => Failed t) s :=
  kspecemPanic_failed env env.kernel.panicDepth failed s

/-- What `kspecem_hook_new_checkpoint` says by its result: a token if it took a checkpoint. -/
def tookCheckpoint : EStateM.Result Exit Rt Word → Bool
  | .ok token _ => token ≠ noCheckpoint
  | .error _ _ => false

/-- The action calls `kspecem_hook_new_checkpoint`, and that takes a checkpoint. -/
def Action.takesCheckpoint (env : Env) (s : Rt) : Action → Bool
  | .newCheckpoint inInterrupt | .branch _ _ inInterrupt _ _ _ _ =>
      tookCheckpoint (hookNewCheckpoint env env.onFail inInterrupt s)
  | _ => false

/-- A call of the checkpoint hook, by its result. -/
theorem hookNewCheckpoint_token {holds opened : Rt → Prop} {leaves : Exit → Rt → Prop}
    {inInterrupt : Bool} {s : Rt}
    (ends
      : Ends (hookNewCheckpoint env env.onFail inInterrupt)
          (fun token t => token = noCheckpoint ∧ holds t ∨ token ≠ noCheckpoint ∧ opened t)
          leaves s)
    : Ends (hookNewCheckpoint env env.onFail inInterrupt)
        (fun token t =>
          token = noCheckpoint
            ∧ tookCheckpoint (hookNewCheckpoint env env.onFail inInterrupt s) = false
            ∧ holds t
          ∨ tookCheckpoint (hookNewCheckpoint env env.onFail inInterrupt s) = true ∧ opened t)
        (fun e t =>
          tookCheckpoint (hookNewCheckpoint env env.onFail inInterrupt s) = false ∧ leaves e t)
        s := by
  refine Ends.intro (fun token t result => ?_) (fun e t result => ?_)
  · rw [result]
    rcases ends.of_ok result with ⟨rfl, kept⟩ | ⟨some, opened⟩
    · exact Or.inl ⟨rfl, rfl, kept⟩
    · exact Or.inr ⟨decide_eq_true some, opened⟩
  · rw [result]
    exact ⟨rfl, ends.of_error result⟩

/-- In speculation an event counts one restart if it ends the episode, else none; it takes no
checkpoint.
-/
theorem Action.run_rolled {action : Action} (listed : action.Listed) {s : Rt}
    (start : During total s)
    : action.takesCheckpoint env s = false
      ∧ Ends (action.run env) (fun _ t => Unless (Rolled total) t) (Leaves (Rolled total)) s := by
  have tour := @rolledTour env env.onFail total env.onFail_failed
  have begins : Unless (Rolled total) s := fun _ => Or.inl start
  have loads (words : List Address)
      : LoadsFrom (Unless (Rolled total)) (Leaves (Rolled total)) env.kernel words :=
    fun _ _ _ => Or.inr fun s start _ => start
  have refused (inInterrupt : Bool) := hookNewCheckpoint_token
    (@SectionTour.hookNewCheckpoint env env.onFail _ _ tour.toSectionTour (fun _ => False)
      (loads _) inInterrupt s begins
      (fun idle => absurd (idle.symm.trans start.1) Bool.false_ne_true)
      fun _ _ _ _ never => never)
  have untaken (inInterrupt : Bool)
      : tookCheckpoint (hookNewCheckpoint env env.onFail inInterrupt s) = false := by
    refine Ends.const ((refused inInterrupt).imp ?_ (fun _ _ exit => exit.1))
    rintro token t (⟨_, untaken, _⟩ | ⟨_, never⟩)
    · exact untaken
    · exact never.elim
  -- the two actions that could open an episode are refused while one is open
  by_cases closed : action.MayOpen
  · cases action with
    | newCheckpoint inInterrupt =>
        refine ⟨untaken inInterrupt, Ends.bind ((refused inInterrupt).imp (fun _ _ kept => kept)
          (fun _ _ exit => exit.2)) ?_⟩
        rintro token t (⟨_, _, kept⟩ | ⟨_, never⟩)
        · exact kept
        · exact never.elim
    | branch saveFrames leaveFrames inInterrupt frameaddress rsp cpu returnAddress =>
        refine ⟨untaken inInterrupt, ?_⟩
        rw [Action.run, branchHooks, ends_bind, ends_bind]
        refine (refused inInterrupt).imp ?_ (fun _ _ exit => exit.2)
        rintro token t (⟨rfl, _, kept⟩ | ⟨_, never⟩)
        · exact tour.quiet t _ ⟨rfl, rfl, rfl, rfl, rfl, rfl, rfl⟩ kept
        · exact never.elim
    | _ => exact closed.elim
  · refine ⟨?_, tour.run (fun s start _ => start) (fun s _ => .of_final (by exact True.intro) s)
      (keeps_printRestartStatistics (fun s _ => .of_final (by exact True.intro) s)
        fun s _ => Or.inr (.of_final (by exact True.intro) s)) closed ?_ s
      begins⟩
    · cases action with
      | newCheckpoint _ | branch _ _ _ _ _ _ _ => exact absurd True.intro closed
      | _ => rfl
    · rintro restartType callArg rfl
      exact restart_rolled env.onFail_failed listed

/-- The hooks after a checkpoint neither count nor roll back. -/
theorem branchHooks_fresh {saveFrames leaveFrames : Frames} (token : Word)
    (frameaddress rsp : Address) (cpu : PtRegs) (returnAddress : Word) {s : Rt}
    (start : Unless (Fresh total) s)
    : Ends (do
        hookSaveStack (Env.onFail { env with frames := saveFrames }) token frameaddress rsp
        saveRegisters cpu returnAddress token
        hookLeaveRt { env with frames := leaveFrames }
          (Env.onFail { env with frames := leaveFrames }) token
        return token)
        (fun _ t => Unless (During total) t) (Leaves (During total)) s := by
  have stable (s t : Rt) (stacked : Stacked s t) (start : Unless (Fresh total) s)
      : Unless (Fresh total) t := by
    refine Fresh.steady start stacked.quiet.steady ?_
    obtain ⟨cell, baseAddress, len, rfl⟩ := stacked
    rfl
  have saves : Keeps (Unless (Fresh total)) (Leaves (During total))
      (hookSaveStack (Env.onFail { env with frames := saveFrames }) token frameaddress rsp) :=
    keeps_hookSaveStack (keeps_onFail (Env.onFail_failed _)) stable
      (fun _ s final _ _ _ => .of_final final s) token frameaddress rsp
  refine Ends.bind (saves s start) fun _ t start => ?_
  rw [saveRegisters, ends_bind, ends_modify]
  exact Ends.bind (hookLeaveRt_fresh (Env.onFail_failed _) token
    (Fresh.steady start ⟨rfl, rfl, rfl, rfl⟩ rfl)) fun _ _ kept => kept

/-- `total` rollbacks are counted, and the kernel speculates if `speculates`. -/
def Stands (total : Word) (speculates : Bool) (s : Rt) : Prop :=
  s.inSpeculativeEmulation = speculates ∧ Balanced total s

/-- Outside speculation an event counts no restart, and speculates where it took a checkpoint. -/
theorem Action.run_idle {action : Action} {s : Rt} (start : AtRest total s)
    : Ends (action.run env)
        (fun _ t => Unless (Stands total (action.takesCheckpoint env s)) t)
        (Leaves (Stands total (action.takesCheckpoint env s))) s := by
  have tour := @idleTour env env.onFail total env.onFail_failed
  have begins : Unless (AtRest total) s := fun _ => start
  have loads (words : List Address)
      : LoadsFrom (Unless (AtRest total)) (Leaves (AtRest total)) env.kernel words :=
    fun _ _ _ => Or.inr fun s start _ => start
  have checkpoint (inInterrupt : Bool) := hookNewCheckpoint_token
    (tour.hookNewCheckpoint (loads _) inInterrupt begins
      (fun _ t start => Fresh.opened start) fun _ _ quiet position start =>
        Fresh.steady start quiet.steady position)
  by_cases closed : action.MayOpen
  · cases action with
    | newCheckpoint inInterrupt =>
        simp only [Action.takesCheckpoint]
        refine Ends.bind ((checkpoint inInterrupt).imp (fun _ _ ended => ended) ?_) ?_
        · rintro e t ⟨untaken, exit⟩
          rw [untaken]
          exact exit
        · rintro token t (⟨_, untaken, kept⟩ | ⟨taken, opened⟩)
          · rw [untaken]
            exact kept
          -- the open section counts nothing before the branch leaves it
          · rw [taken]
            exact fun none => (opened none).1
    | branch saveFrames leaveFrames inInterrupt frameaddress rsp cpu returnAddress =>
        simp only [Action.takesCheckpoint]
        rw [Action.run, branchHooks, ends_bind, ends_bind]
        refine (checkpoint inInterrupt).imp ?_ ?_
        · rintro token t (⟨rfl, untaken, kept⟩ | ⟨taken, opened⟩)
          · rw [untaken]
            exact tour.quiet t _ ⟨rfl, rfl, rfl, rfl, rfl, rfl, rfl⟩ kept
          · rw [taken]
            exact branchHooks_fresh token frameaddress rsp cpu returnAddress opened
        · rintro e t ⟨untaken, exit⟩
          rw [untaken]
          exact exit
    | _ => exact closed.elim
  · have untaken : action.takesCheckpoint env s = false := by
      cases action with
      | newCheckpoint _ | branch _ _ _ _ _ _ _ => exact absurd True.intro closed
      | _ => rfl
    rw [untaken]
    refine tour.run (fun s start _ => start) (fun s _ => .of_final (by exact True.intro) s)
      (keeps_printRestartStatistics (fun s _ => .of_final (by exact True.intro) s)
        fun s _ => Or.inr (.of_final (by exact True.intro) s)) closed ?_ s begins
    rintro restartType callArg rfl
    exact restart_outside env.onFail_failed

end

-----------------------------------------------------------------------------------------
-- Runs
-----------------------------------------------------------------------------------------

/-- What the late initialisation keeps: nothing is counted and nothing has failed. -/
structure Uncounted (s : Rt) : Prop where
  asserted : s.asserted = []
  disabled : s.log.enabled = false
  idle : AtRest 0 s

theorem Uncounted.congr {s t : Rt} (h : Uncounted s) (inSpec : t.inSpeculativeEmulation = false)
    (asserted : t.asserted = s.asserted := by rfl)
    (disabled : s.log.enabled = false → t.log.enabled = false := by exact id)
    (specAssert : t.specAssert = s.specAssert := by rfl)
    (totals : t.stats.totalStatistics = s.stats.totalStatistics := by rfl)
    : Uncounted t where
  asserted := asserted.trans h.asserted
  disabled := disabled h.disabled
  idle := ⟨inSpec, h.idle.2.congr specAssert totals⟩

section
variable {env : Env}

theorem commonLateInit_uncounted (heap : Heap)
    : Keeps Uncounted (fun _ _ => True) (commonLateInit env env.onFail heap) := by
  have loud : FailsLoudly env.onFail := kspecemPanic_loud env env.kernel.panicDepth
  -- outside speculation a failed assertion panics, so behind one it held
  have check {p : Prop} [Decidable p] {file condition : String} {line : Nat}
      : Keeps Uncounted (fun _ _ => True) (ltAssert env.onFail p file line condition) := by
    intro s start
    refine (loud.ltAssert start.idle.1).imp ?_ (fun _ _ exit => exit)
    rintro _ t ⟨_, rfl⟩
    exact start
  have count (delta : Word)
      : Keeps Uncounted (fun _ _ => True) (countNmi env env.onFail delta) := by
    intro s start
    rw [countNmi_disabled start.disabled]
    exact start.congr start.idle.1
  have enter : Keeps Uncounted (fun _ _ => True) (enterKspecemRt env env.onFail) := by
    refine keeps_bind (keeps_modify fun s start => start.congr start.idle.1) fun _ => ?_
    refine keeps_bind (keeps_read fun s => ?_) fun _ => ?_
    · exact keeps_bind (keeps_modify fun s start => start.congr start.idle.1) fun _ => keeps_pure _
    · exact keeps_bind (count 1) fun _ => keeps_pure _
  have leave (line : Nat) (irqFlags : Word) (file : String)
      : Keeps Uncounted (fun _ _ => True) (leaveKspecemRt env env.onFail line irqFlags file) := by
    refine keeps_read fun s => keeps_bind check fun _ => keeps_bind (count (-1)) fun _ => ?_
    refine keeps_bind (keeps_modify fun s start => start.congr start.idle.1) fun _ => ?_
    exact keeps_modify fun s start => start.congr start.idle.1
  have rows : Keeps Uncounted (fun _ _ => True) (statsInlineasmInit heap) :=
    keeps_read fun s =>
      keeps_branch (keeps_modify fun s start => start.congr start.idle.1) (keeps_pure _)
  have totals : Keeps Uncounted (fun _ _ => True) (statsRestartsInit heap) :=
    keeps_modify fun s start =>
      ⟨start.asserted, start.disabled, start.idle.1, start.idle.2.specAssert, rfl, rfl⟩
  have clear : Keeps Uncounted (fun _ _ => True) reportClearGlobals := by
    have clear : Keeps Uncounted (fun (_ : Exit) _ => True)
        (modify fun s =>
          { s with
            reports :=
              { s.reports with
                bugs :=
                  { s.reports.bugs with
                    cell := fun i =>
                      if i < bugsListSize then Bug.zero else s.reports.bugs.cell i }
                nextBugIndex := 0 } } : RtM Unit) :=
      keeps_modify fun s start => start.congr start.idle.1
    exact keeps_read fun s =>
      keeps_branch (keeps_bind (keeps_throw fun _ _ => True.intro) fun _ => clear) clear
  refine keeps_read fun s => keeps_branch ?_ (keeps_pure _)
  refine keeps_bind enter fun irqFlags => ?_
  refine keeps_bind (keeps_modify fun s start => start.congr start.idle.1) fun _ => ?_
  refine keeps_bind rows fun _ => keeps_bind totals fun _ => keeps_bind ?reports fun _ => ?_
  case reports =>
    refine keeps_bind (keeps_modify fun s start => start.congr start.idle.1) fun _ => ?_
    exact keeps_bind check fun _ => clear
  refine keeps_bind ?data fun _ => keeps_bind ?stack fun _ => keeps_bind ?log fun _ => ?_
  case data =>
    refine keeps_bind (keeps_modify fun s start => start.congr rfl) fun _ => ?_
    refine keeps_bind (keeps_modify fun s start => start.congr start.idle.1) fun _ => ?_
    exact keeps_modify fun s start => start.congr start.idle.1
  case stack =>
    refine keeps_bind (keeps_modify fun s start => start.congr start.idle.1) fun _ => ?_
    exact keeps_bind check fun _ => keeps_modify fun s start => start.congr start.idle.1
  case log =>
    have off : Keeps Uncounted (fun (_ : Exit) _ => True)
        (modify fun s =>
          { s with
            log := { s.log with metas := .null 0, position := 0, enabled := false } } : RtM Unit) :=
      keeps_modify fun s start => start.congr start.idle.1 rfl fun _ => rfl
    refine keeps_bind off fun _ => keeps_bind check fun _ => keeps_bind check fun _ => ?_
    exact keeps_bind check fun _ => keeps_modify fun s start => start.congr start.idle.1
  exact keeps_bind (leave _ _ _) fun _ => keeps_modify fun s start => start.congr start.idle.1

end

/-- What the balance asks of a step: a listed restart type, no failed assertion, and no
exception inside `kspecem_restart`, whose replay is all that stores through an address.
-/
structure Orderly (kernel : Kernel) (event : Event) (m next : Machine) : Prop where
  listed : event.action.Listed
  asserted : next.rt.asserted = []
  replays
    : ∀ t,
        event.run kernel m.rt = .error (.fault true) t
        → ∃ target bytes, event.action = .write target bytes

/-- A step performs a rollback where it ends the speculation. -/
def Machine.rollsBack (m next : Machine) : Bool :=
  m.rt.inSpeculativeEmulation && !next.rt.inSpeculativeEmulation

/-- An orderly run, with the checkpoints it took and the rollbacks it performed. -/
inductive TalliedRun (kernel : Kernel) (start : Machine)
    : (checkpoints rollbacks : Nat) → Machine → Prop
  | refl : TalliedRun kernel start 0 0 start
  | step {checkpoints rollbacks : Nat} {m next : Machine} {event : Event}
    (run : TalliedRun kernel start checkpoints rollbacks m)
    (steps : m.step kernel event = some next) (orderly : Orderly kernel event m next)
    : TalliedRun kernel start
        (checkpoints + (event.action.takesCheckpoint (event.env kernel) m.rt).toNat)
        (rollbacks + (m.rollsBack next).toNat) next

/-- The counters stand at the rollbacks, and the checkpoints are one ahead in speculation. -/
structure InBalance (checkpoints rollbacks : Nat) (s : Rt) : Prop where
  balanced : Balanced (BitVec.ofNat 64 rollbacks) s
  checkpoints : checkpoints = rollbacks + s.inSpeculativeEmulation.toNat

/-- Where a step lands it has what its action left. -/
theorem Machine.after_unless {result : EStateM.Result Exit Rt Unit} {K : Rt → Prop} {s : Rt}
    {action : RtM Unit} (same : action s = result)
    (ends : Ends action (fun _ t => Unless K t) (Leaves K) s)
    (asserted : (Machine.after result).rt.asserted = [])
    (alive : (Machine.after result).phase ≠ .stopped)
    (stores : ∀ t, result = .error (.fault true) t → K t)
    : K (Machine.after result).rt := by
  cases result with
  | ok _ t => exact ends.of_ok same asserted
  | error e t =>
      have exits := ends.of_error same
      cases e with
      | resumed => exact exits (Or.inl rfl) asserted
      | fault isWrite =>
          cases isWrite with
          | true => exact stores t rfl
          | false => exact exits (Or.inr rfl) asserted
      | panicked reason => exact absurd rfl alive
      | outOfBounds table => exact absurd rfl alive
      | stackOverflow => exact absurd rfl alive
      | diverged => exact absurd rfl alive

/-- A write that faults leaves everything as it was. -/
theorem programWrite_faults {kernel : Kernel} {target : Address} {bytes : List Byte} {s t : Rt}
    (faults : programWrite kernel target bytes s = .error (.fault true) t)
    : t = s := by
  have ends : Ends (programWrite kernel target bytes) (fun _ _ => True) (fun _ t => t = s) s := by
    rw [programWrite, ends_ite]
    exact ⟨fun _ => True.intro, fun _ => rfl⟩
  exact ends.of_error faults

/-- A step outside speculation counts no restart. -/
theorem AtRest.step {kernel : Kernel} {m next : Machine} {event : Event} {total : Word}
    (start : AtRest total m.rt) (steps : m.step kernel event = some next)
    (orderly : Orderly kernel event m next) (alive : next.phase ≠ .stopped)
    : Stands total (event.action.takesCheckpoint (event.env kernel) m.rt) next.rt := by
  obtain ⟨_, rfl⟩ := Machine.step_eq steps
  refine Machine.after_unless rfl (Action.run_idle start) orderly.asserted alive ?_
  intro t faults
  obtain ⟨target, bytes, write⟩ := orderly.replays t faults
  rw [Event.run, write] at faults
  rw [programWrite_faults faults, write]
  exact start

/-- A step in speculation counts a restart if it ends the episode. -/
theorem During.step {kernel : Kernel} {m next : Machine} {event : Event} {total : Word}
    (start : During total m.rt) (steps : m.step kernel event = some next)
    (orderly : Orderly kernel event m next) (alive : next.phase ≠ .stopped)
    : Rolled total next.rt := by
  obtain ⟨_, rfl⟩ := Machine.step_eq steps
  refine Machine.after_unless rfl (Action.run_rolled orderly.listed start).2 orderly.asserted
    alive ?_
  intro t faults
  obtain ⟨target, bytes, write⟩ := orderly.replays t faults
  rw [Event.run, write] at faults
  rw [programWrite_faults faults]
  exact Or.inl start

theorem InBalance.step {kernel : Kernel} {checkpoints rollbacks : Nat} {m next : Machine}
    {event : Event} (h : InBalance checkpoints rollbacks m.rt)
    (steps : m.step kernel event = some next) (orderly : Orderly kernel event m next)
    (alive : next.phase ≠ .stopped)
    : InBalance (checkpoints + (event.action.takesCheckpoint (event.env kernel) m.rt).toNat)
        (rollbacks + (m.rollsBack next).toNat) next.rt := by
  have counts := h.checkpoints
  cases spec : m.rt.inSpeculativeEmulation with
  | false =>
      have ends := AtRest.step ⟨spec, h.balanced⟩ steps orderly alive
      refine ⟨?_, ?_⟩
      · simpa [Machine.rollsBack, spec] using ends.2
      · rw [ends.1]
        simp only [Machine.rollsBack, spec, counts, Bool.false_and, Bool.toNat_false, Nat.add_zero]
  | true =>
      have start : During (BitVec.ofNat 64 rollbacks) m.rt := ⟨spec, h.balanced⟩
      have untaken := (@Action.run_rolled (event.env kernel) _ _ orderly.listed _ start).1
      rcases During.step start steps orderly alive with episode | idle
      · refine ⟨?_, ?_⟩
        · simpa [Machine.rollsBack, episode.1] using episode.2
        · simp [Machine.rollsBack, untaken, counts, spec, episode.1]
      · refine ⟨?_, ?_⟩
        · simpa [Machine.rollsBack, spec, idle.1, BitVec.ofNat_add] using idle.2
        · simp [Machine.rollsBack, untaken, counts, spec, idle.1]

/-- Along an orderly run the balance holds, by induction on the run. -/
theorem TalliedRun.balance {kernel : Kernel} {start m : Machine} {checkpoints rollbacks : Nat}
    (begins : InBalance 0 0 start.rt)
    (run : TalliedRun kernel start checkpoints rollbacks m) (alive : m.phase ≠ .stopped)
    : InBalance checkpoints rollbacks m.rt := by
  induction run with
  | refl => exact begins
  | step run steps orderly ih =>
      exact (ih (Machine.alive_of_step steps)).step steps orderly alive

/-- A restart that comes outside speculation or counts a frame off. -/
def CountsNothing (restartType : RestartType) (s : Rt) : Prop :=
  s.inSpeculativeEmulation = false ∨ NestedReturn restartType s

/-- Neither changes a statistic of restarts. -/
theorem restart_countsNothing {env : Env} {onFail : SpecAssert → RtM Unit} {direct : Bool}
    {restartType : RestartType} {callArg frameaddr regs : Address} {s : Rt}
    (nothing : CountsNothing restartType s)
    : Ends (restart env onFail direct restartType callArg frameaddr regs)
        (fun _ t => t.restartStats = s.restartStats)
        (fun _ t => t.restartStats = s.restartStats) s := by
  have tour : Tour (fun t : Rt => t.restartStats = s.restartStats)
      (fun _ t => t.restartStats = s.restartStats) := {
    quiet := fun _ _ quiet same => quiet.restartStats.trans same
    final := fun _ _ _ _ _ same => same
    stores := fun _ same => same
  }
  rw [restart, ends_bind, ends_get, ends_ite]
  refine ⟨fun _ => rfl, fun spec => ?_⟩
  obtain ⟨passed, returns⟩ := Or.resolve_left nothing spec
  rw [ends_bind, ends_modify, ends_bind, ends_get, if_pos passed, ends_bind, ends_get,
    if_pos returns]
  refine (?_ : Keeps (fun t : Rt => t.restartStats = s.restartStats) _ _) _ rfl
  refine keeps_bind (tour.addSpecStatistics _ _ _ _ _) fun _ => ?_
  exact keeps_bind (tour.modify fun _ => ⟨rfl, rfl, rfl, rfl, rfl, rfl, rfl⟩) fun _ => keeps_pure _

/-- In every orderly run from the late initialisation the total is the sum of the counters
and the number of rollbacks, and the checkpoints are ahead of it by the open episode;
restarts that come outside speculation or count a frame off change nothing of it.
-/
theorem restartStatistics_balance {env : Env} {heap : Heap} {switches : Switches} {mem : Memory}
    {cpu : PtRegs} {irqsEnabled : Bool} {s : Rt} {checkpoints rollbacks : Nat} {m : Machine}
    (booted
      : commonLateInit env env.onFail heap (Rt.static switches mem cpu irqsEnabled) = .ok () s)
    (run : TalliedRun env.kernel ⟨s, .running⟩ checkpoints rollbacks m)
    (alive : m.phase ≠ .stopped)
    : (m.rt.totals.totalRestarts = m.rt.totals.restarts
        ∧ m.rt.totals.totalRestarts = BitVec.ofNat 64 rollbacks
        ∧ BitVec.ofNat 64 checkpoints
          = m.rt.totals.totalRestarts + if m.rt.inSpeculativeEmulation then 1 else 0)
      ∧ ∀ (env : Env) (direct : Bool) (restartType : RestartType)
          (callArg frameaddr regs : Address) (t : Rt),
          CountsNothing restartType t
          → Ends (restart env env.onFail direct restartType callArg frameaddr regs)
              (fun _ u => u.restartStats = t.restartStats)
              (fun _ u => u.restartStats = t.restartStats) t := by
  have begins : Uncounted s := by
    have static : Uncounted (Rt.static switches mem cpu irqsEnabled) :=
      ⟨rfl, rfl, rfl, rfl, rfl, rfl⟩
    exact (commonLateInit_uncounted heap _ static).of_ok booted
  have start : InBalance 0 0 s := by
    refine ⟨begins.idle.2, ?_⟩
    rw [begins.idle.1]
    rfl
  have balance := run.balance start alive
  refine ⟨⟨?_, balance.balanced.totalRestarts, ?_⟩, ?_⟩
  · exact balance.balanced.totalRestarts.trans balance.balanced.restarts.symm
  · rw [balance.checkpoints, balance.balanced.totalRestarts, BitVec.ofNat_add]
    cases m.rt.inSpeculativeEmulation <;> rfl
  · intro env direct restartType callArg frameaddr regs t nothing
    exact restart_countsNothing nothing

/-- The sample episode takes one checkpoint and performs one rollback. -/
theorem restartStatistics_balance_sample
    : sampleEpisode.rt.totals.totalRestarts = sampleEpisode.rt.totals.restarts
      ∧ sampleEpisode.rt.totals.totalRestarts = BitVec.ofNat 64 1
      ∧ BitVec.ofNat 64 1
        = sampleEpisode.rt.totals.totalRestarts
          + if sampleEpisode.rt.inSpeculativeEmulation then 1 else 0 := by
  have opened : sampleMachine.step sampleKernel sampleBranch = some sampleOpen := if_pos (by decide)
  have closed : sampleOpen.step sampleKernel (sampleEvent (.restart .restartCall 0))
      = some sampleEpisode :=
    if_pos (by decide)
  have quiet : Orderly sampleKernel sampleBranch sampleMachine sampleOpen := by
    refine ⟨True.intro, rfl, fun t faults => ?_⟩
    have returned : sampleBranch.run sampleKernel sampleMachine.rt = .ok () sampleOpen.rt := rfl
    rw [returned] at faults
    contradiction
  have rolled : Orderly sampleKernel (sampleEvent (.restart .restartCall 0)) sampleOpen
      sampleEpisode := by
    refine ⟨True.intro, rfl, fun t faults => ?_⟩
    have resumed : (sampleEvent (.restart .restartCall 0)).run sampleKernel sampleOpen.rt
        = .error .resumed sampleEpisode.rt :=
      rfl
    rw [resumed] at faults
    exact absurd (EStateM.Result.error.inj faults).1 (by decide)
  have run : TalliedRun sampleKernel sampleMachine 1 1 sampleEpisode :=
    .step (.step .refl opened quiet) closed rolled
  exact (@restartStatistics_balance sampleEnv sampleHeap sampleSwitches (fun _ => 0) (fun _ => 0)
    true _ _ _ _ sampleRt_booted run (by decide)).1

end Kasper
