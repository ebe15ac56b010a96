import Kasper.Correctness.EpisodeStart
import Kasper.Passes.CallHooks

/-! The call depth counts the instrumented frames entered since the checkpoint, over calls
and returns of every kind of function with any other events between them. A return rolls
back in the frame of the checkpoint only.
-/

namespace Kasper

open ByteMemory Exits

/-- An episode at a call depth, with the limit and the log arrays as given; before its first
nested return no failure is recorded.
-/
structure Rt.Counting (depth limit : BitVec 32) (addrs data : Address) (restarted : Bool)
    (s : Rt)
    : Prop where
  inSpec : s.inSpeculativeEmulation = true
  depth : s.specCallDepth = depth
  limit : s.maxCallDepth = limit
  addrsBase : s.log.addrs.base = addrs
  dataBase : s.log.data.base = data
  isInRestart : s.isInRestart = restarted
  passed : restarted = false → s.specAssert = none

section
variable {depth limit : BitVec 32} {addrs data : Address} {restarted : Bool} {s t : Rt}

/-- Only the call depth, its limit, the log's places and the restart variables matter. -/
theorem Rt.Counting.congr (h : s.Counting depth limit addrs data restarted)
    (inSpec : t.inSpeculativeEmulation = s.inSpeculativeEmulation)
    (sameDepth : t.specCallDepth = s.specCallDepth) (sameLimit : t.maxCallDepth = s.maxCallDepth)
    (addrsBase : t.log.addrs.base = s.log.addrs.base)
    (dataBase : t.log.data.base = s.log.data.base)
    (isInRestart : t.isInRestart = s.isInRestart) (specAssert : t.specAssert = s.specAssert)
    : t.Counting depth limit addrs data restarted where
  inSpec := inSpec.trans h.inSpec
  depth := sameDepth.trans h.depth
  limit := sameLimit.trans h.limit
  addrsBase := addrsBase.trans h.addrsBase
  dataBase := dataBase.trans h.dataBase
  isInRestart := isInRestart.trans h.isInRestart
  passed := fun fresh => specAssert.trans (h.passed fresh)

theorem Rt.Counting.not_idle (h : s.Counting depth limit addrs data restarted)
    (idle : s.inSpeculativeEmulation = false) : False :=
  absurd (h.inSpec.symm.trans idle) (by decide)

theorem Rt.Counting.self (inSpec : s.inSpeculativeEmulation = true)
    (passed : s.specAssert = none)
    : s.Counting s.specCallDepth s.maxCallDepth s.log.addrs.base s.log.data.base
        s.isInRestart :=
  ⟨inSpec, rfl, rfl, rfl, rfl, rfl, fun _ => passed⟩

end

/-- The rider of steps that neither count a frame nor count one off. -/
def Rider.counting (kernel : Kernel) (depth limit : BitVec 32) (addrs data : Address)
    (restarted : Bool)
    : Rider kernel where
  holds := Rt.Counting depth limit addrs data restarted
  rolls := fun _ => True
  landed := fun _ => True
  resumed := fun _ => True
  replay := fun _ _ _ => True
  admits := fun restartType s => ¬NestedReturn restartType s
  spares := fun _ => True
  admitsBlock := fun _ => True
  admitsDepth := False
  admitsFrame := fun _ _ => True
  admitsRegisters := fun _ => True
  admitsBug := fun _ => True
  admitsMemory := fun _ _ => True
  readsFrames := False
  ended := fun _ => True
  section_ := fun _ _ _ h => h.congr rfl rfl rfl rfl rfl rfl rfl
  counters := fun _ _ h => h.congr rfl rfl rfl rfl rfl rfl rfl
  metered := fun _ _ h _ _ => h.congr rfl rfl rfl rfl rfl rfl rfl
  failed := fun _ _ h _ inRestart =>
    { h with
      passed := fun fresh =>
        absurd (inRestart.symm.trans (h.isInRestart.trans fresh)) (by decide) }
  appended := fun _ _ _ _ h _ _ _ => h.congr rfl rfl rfl rfl rfl rfl rfl
  scratched := fun _ _ _ _ => True.intro
  counted := fun _ _ _ h _ => h.congr rfl rfl rfl rfl rfl rfl rfl
  redepth := fun _ _ _ _ no => no.elim
  checkpointed := fun _ _ _ h idle => (h.not_idle idle).elim
  framed := fun _ _ _ _ h _ => h.congr rfl rfl rfl rfl rfl rfl rfl
  registered := fun _ _ _ h _ => h.congr rfl rfl rfl rfl rfl rfl rfl
  cpu := fun _ _ h => h.congr rfl rfl rfl rfl rfl rfl rfl
  written := fun _ _ h _ => h.congr rfl rfl rfl rfl rfl rfl rfl
  clobbered := fun _ _ _ h _ _ _ => h.congr rfl rfl rfl rfl rfl rfl rfl
  reported := fun _ _ h _ _ _ _ => h.congr rfl rfl rfl rfl rfl rfl rfl
  printed := fun _ _ _ h idle _ _ _ => (h.not_idle idle).elim
  admits_busy := fun _ _ _ busy other nested => other (busy.nested nested)
  admits_flush := fun _ _ _ other nested => other nested.2.1
  nested := fun _ _ _ _ _ other nested => absurd nested other
  rolls_of_holds := fun _ _ _ => True.intro
  doomed := fun _ _ _ _ _ _ _ => True.intro
  rolls_written := fun _ _ _ _ _ => True.intro
  starts := fun _ _ => True.intro
  rules := fun s skip _ _ => .vacuous _ skip s
  stopped := fun _ _ _ _ _ _ _ => True.intro
  rolledBack := fun _ _ _ _ _ _ _ _ _ _ _ _ => True.intro
  jumped := fun _ _ => True.intro
  returned := fun _ _ _ _ => True.intro
  ended_holds := fun _ _ => True.intro
  ended_rolls := fun _ _ => True.intro
  ended_landed := fun _ _ => True.intro
  ended_rolled := fun _ _ _ _ _ _ => True.intro
  ended_printed := fun _ _ _ _ _ _ _ _ => True.intro

/-- The instrumented frames of a stack. -/
def countedFrames (stack : List ListedFunction) : Nat :=
  stack.countP ListedFunction.instrumented

/-- Between two steps of an episode: the call depth is the number of instrumented frames and
below its limit, no failure is recorded, and no section is open.
-/
structure InFrames (kernel : Kernel) (limit : BitVec 32) (stack : List ListedFunction)
    (s : Rt)
    : Prop where
  speculating : Speculating kernel s
  depth : s.specCallDepth.toNat = countedFrames stack
  limit : s.maxCallDepth = limit
  below : s.specCallDepth < s.maxCallDepth
  passed : s.specAssert = none
  inactive : s.isInRt = false
  apart : s.NmiApart kernel

section
variable {env : Env} {limit : BitVec 32} {stack : List ListedFunction} {s : Rt}

/-- The counting rider holds in its own state. -/
theorem InFrames.counting {kernel : Kernel} (h : InFrames kernel limit stack s)
    : Inv kernel
        (Rider.counting kernel s.specCallDepth s.maxCallDepth s.log.addrs.base s.log.data.base
          s.isInRestart)
        s :=
  ⟨h.speculating.inv.coherent, h.speculating.inv.consistent,
    .self h.speculating.inSpec h.passed⟩

/-- A step that keeps the counting rider stays in its frames. -/
theorem InFrames.counted {kernel : Kernel} {restarted : Bool} {t : Rt}
    (h : InFrames kernel limit stack s)
    (kept
      : Inv kernel
          (Rider.counting kernel s.specCallDepth s.maxCallDepth s.log.addrs.base
            s.log.data.base restarted)
          t)
    (passed : t.specAssert = none) (inactive : t.isInRt = false)
    : InFrames kernel limit stack t where
  speculating := ⟨⟨kept.coherent, kept.consistent, True.intro⟩, kept.holds.inSpec⟩
  depth := by
    rw [kept.holds.depth]
    exact h.depth
  limit := kept.holds.limit.trans h.limit
  below := by
    rw [kept.holds.depth, kept.holds.limit]
    exact h.below
  passed := passed
  inactive := inactive
  apart := h.apart.congr kept.holds.addrsBase kept.holds.dataBase

/-- Where a branch opens an episode, no frame has been entered since. -/
theorem branchHooks_opens {saveFrames leaveFrames : Frames} {inInterrupt : Bool}
    {frameaddress rsp : Address} {cpu : PtRegs} {returnAddress : Word}
    (clear : ¬Within rsp (frameaddress - rsp).toNat env.kernel.swapBranchCondition)
    (coherent : Coherent env.kernel s) (consistent : s.Consistent)
    (idle : s.inSpeculativeEmulation = false) (rested : s.Rested)
    (positive : 0 < s.maxCallDepth)
    : Ends
        (branchHooks env { env with frames := saveFrames } { env with frames := leaveFrames }
          inInterrupt frameaddress rsp cpu returnAddress)
        (fun _ t =>
          t.inSpeculativeEmulation = true
          → InFrames env.kernel s.maxCallDepth [] t)
        (fun _ _ => True) s := by
  rw [branchHooks]
  refine Ends.bind (hookNewCheckpoint_idle coherent idle inInterrupt) ?_
  rintro token t (⟨rfl, rfl⟩ | ⟨rfl, stats, rfl⟩)
  · simp only [hookSaveStack, saveRegisters, hookLeaveRt, ends_bind, ends_modify, ne_eq,
      not_true_eq_false, if_false, ends_pure]
    exact fun inSpec => absurd (inSpec.symm.trans idle) (by decide)
  · have token := irqFlags_ne_noCheckpoint s.irqsEnabled
    have entered : Coherent env.kernel (s.entered env.kernel) :=
      (coherent.counted 1).congr rfl rfl rfl rfl rfl (fun _ clear => clear)
    -- a checkpoint starts the count at no frame
    have opened
        : Inv env.kernel
            (Rider.counting env.kernel 0 s.maxCallDepth s.log.addrs.base s.log.data.base false)
            ((s.entered env.kernel).checkpointed env.kernel stats) :=
      ⟨entered.checkpointed stats, consistent.congr rfl,
        ⟨rfl, rfl, rfl, rfl, rfl, rested.isInRestart, fun _ => rested.specAssert⟩⟩
    have saveHandler := Env.handler { env with frames := saveFrames }
    refine Ends.bind ((hookSaveStack_keeps saveHandler (fun _ => True.intro) (fun _ => clear)
      opened).imp (fun _ _ kept => kept.1) (fun _ _ _ => trivial)) ?_
    intro _ u saved
    refine Ends.bind ((saveRegisters_keeps saved (fun _ => True.intro)).imp
      (fun _ _ kept => kept) (fun _ _ _ => trivial)) ?_
    intro _ v registered
    rw [hookLeaveRt, if_pos token, ends_bind]
    have leaveHandler := Env.handler { env with frames := leaveFrames }
    have speculating : Speculating env.kernel v :=
      ⟨⟨registered.coherent, registered.consistent, True.intro⟩, registered.holds.inSpec⟩
    have kept := leaveKspecemRt_keeps leaveHandler True.intro 108 (irqFlags s.irqsEnabled)
      (by decide) v registered.busy
    have apart := @leaveKspecemRt_apart { env with frames := leaveFrames } v speculating
      registered.holds.isInRestart 108 (irqFlags s.irqsEnabled) (by decide)
    have inactive := @leaveKspecemRt_inactive { env with frames := leaveFrames } v
      (Env.onFail { env with frames := leaveFrames }) 108 (irqFlags s.irqsEnabled)
      "kspecem_interface.c"
    refine ((kept.and apart).and inactive).imp ?_ (fun _ _ _ => trivial)
    rintro _ w ⟨⟨⟨left, _⟩, apart⟩, inactive⟩ _
    have addrsBase := left.holds.addrsBase.trans registered.holds.addrsBase.symm
    have dataBase := left.holds.dataBase.trans registered.holds.dataBase.symm
    refine ⟨⟨⟨left.coherent, left.consistent, True.intro⟩, left.holds.inSpec⟩, ?_,
      left.holds.limit, ?_, left.holds.passed rfl, inactive, apart.congr addrsBase dataBase⟩
    · rw [left.holds.depth]
      rfl
    · rw [left.holds.depth, left.holds.limit]
      exact positive

/-- Entering an instrumented function counts its frame or ends the episode. -/
theorem hookCheckCallDepth_deepens {f : ListedFunction} (h : InFrames env.kernel limit stack s)
    (instrumented : f.instrumented = true)
    : Ends (hookCheckCallDepth env env.onFail)
        (fun _ t => InFrames env.kernel limit (f :: stack) t) (fun _ _ => True) s := by
  have inSpec := h.speculating.inSpec
  have enabled := h.speculating.enabled
  have started : ¬(s.initDone = false ∨ s.isInRt = true) := by
    simp [h.speculating.inv.coherent.initDone, h.inactive]
  simp only [hookCheckCallDepth, ends_bind, ends_get, ends_ite, ends_pure, ends_modify]
  refine ⟨fun guarded => absurd guarded started, fun _ => ⟨fun _ => ?_, fun disabled => ?_⟩⟩
  · refine (addSpecStatistics_stats _ _ _ _ _ s (.refl s)).imp ?_ (fun _ _ _ => trivial)
    intro _ t frame
    rw [frame]
    have counted : Coherent env.kernel { s with stats := t.stats } :=
      h.speculating.inv.coherent.congr rfl rfl rfl rfl rfl (fun _ clear => clear)
    have deeper
        : Speculating env.kernel
            { s with stats := t.stats, specCallDepth := s.specCallDepth + 1 } :=
      ⟨⟨counted.redepth inSpec _, h.speculating.inv.consistent.congr rfl, trivial⟩, inSpec⟩
    refine ⟨fun _ => ?_, fun shallow => ?_⟩
    · exact (restartSection_ends env.handler True.intro deeper.inv deeper.inSpec (by decide)
        (by decide)).imp
          (fun _ _ rolled => rolled.imp (fun _ _ kept => kept) (fun _ _ _ => trivial))
        (fun _ _ _ => trivial)
    · have below := h.below
      have deep : (s.specCallDepth + 1).toNat = s.specCallDepth.toNat + 1 := by bv_omega
      refine ⟨deeper, ?_, h.limit, ?_, h.passed, h.inactive, h.apart⟩
      · rw [countedFrames, List.countP_cons_of_pos instrumented, deep, h.depth]
        rfl
      · exact BitVec.not_le.mp shallow
  · exact absurd enabled disabled

/-- A frame of any other function is not counted. -/
theorem InFrames.uncounted {kernel : Kernel} {f : ListedFunction}
    (other : f.instrumented = false)
    : InFrames kernel limit (f :: stack) s ↔ InFrames kernel limit stack s := by
  have same : countedFrames (f :: stack) = countedFrames stack :=
    List.countP_cons_of_neg (by simp [other])
  constructor
  · exact fun h => { h with depth := h.depth.trans same }
  · exact fun h => { h with depth := h.depth.trans same.symm }

/-- Entering a function that speculation must not run ends the episode. -/
theorem entryHook_ends {kernel : Kernel} {f : ListedFunction} {hook : EntryHook}
    {site : CallSite} (h : InFrames kernel limit stack s)
    (hooked : KSpecEm.entryHook f = some hook)
    (placed : ¬Within site.regs sizeofPtregs kernel.swapBranchCondition)
    : Ends (hook.run kernel site) (fun _ t => t.inSpeculativeEmulation = false)
        (fun _ _ => True) s := by
  have standing := @Inv.standing (site.env kernel) _ _ h.speculating.inv
  have may {restartType : RestartType} (other : restartType ≠ .restartReturn)
      (_ : s.inSpeculativeEmulation = true)
      : Interruptible (site.env kernel) (Rider.trivial kernel) site.regs site.frameaddr restartType
          s :=
    ⟨fun _ _ _ => True.intro, placed, True.intro, True.intro, True.intro, other, fun no => no.elim⟩
  have rolledBack (t : Rt)
      (back : HookReturn (site.env kernel) (Rider.trivial kernel) site.regs site.frameaddr s t)
      : t.inSpeculativeEmulation = false := by
    rcases back with ⟨idle, _⟩ | ⟨_, _, _, _, _, settled⟩
    · exact absurd (h.speculating.inSpec.symm.trans idle) (by decide)
    · exact settled.idle
  have handler := (site.env kernel).handler
  simp only [KSpecEm.entryHook] at hooked
  split_ifs at hooked
  · obtain rfl := Option.some.inj hooked
    refine Ends.bind ((hookRestart_returns handler True.intro h.speculating.inv True.intro).imp
      (fun _ _ kept => kept) (fun _ _ _ => trivial)) ?_
    rintro _ t ⟨_, nested⟩
    exact absurd (nested h.speculating.inSpec).2.1 (by decide)
  · obtain rfl := Option.some.inj hooked
    exact (hookInterruptTimer_keeps handler standing (may (by decide))).imp
      (fun _ t back => rolledBack t back) (fun _ _ _ => trivial)
  · obtain rfl := Option.some.inj hooked
    refine Ends.bind ((hookInterruptException_keeps handler standing
      (may (exceptionRestartType_ne _))).imp (fun _ _ kept => kept) (fun _ _ _ => trivial)) ?_
    exact fun _ t back => rolledBack t back.1

/-- After a call in the episode its frame is on the stack. -/
theorem enterFunction_frames {kernel : Kernel} {f : ListedFunction} {site : CallSite}
    (h : InFrames kernel limit stack s)
    (placed : ¬Within site.regs sizeofPtregs kernel.swapBranchCondition)
    : Ends (enterFunction kernel f site)
        (fun _ t => t.inSpeculativeEmulation = true → InFrames kernel limit (f :: stack) t)
        (fun _ _ => True) s := by
  cases instrumented : f.instrumented with
  | true =>
      rw [enterFunction_instrumented instrumented]
      exact (@hookCheckCallDepth_deepens (site.env kernel) limit stack s f h instrumented).imp
        (fun _ _ deeper _ => deeper) (fun _ _ _ => trivial)
  | false =>
      have unspeculated : KSpecEmSpec.entryHook f = none := by
        simp [KSpecEmSpec.entryHook, unspeculated_eq, instrumented]
      simp only [enterFunction, unspeculated]
      cases hooked : KSpecEm.entryHook f with
      | none =>
          intro inSpec
          exact (InFrames.uncounted instrumented).mpr h
      | some hook =>
          exact (entryHook_ends h hooked placed).imp
            (fun _ _ idle inSpec => absurd (inSpec.symm.trans idle) (by decide))
            (fun _ _ _ => trivial)

-----------------------------------------------------------------------------------------
-- Returns
-----------------------------------------------------------------------------------------

/-- `kspecem_restart` of type `RETURN`, called in `u`, goes on to roll back. -/
def ReturnRollsBack (env : Env) (returnAddress : Address) (u : Rt) : Prop :=
  let rolledBack : RtM Int := do
    addSpecStatistics env.onFail .restart 0 RestartType.restartReturn.code 0
      env.frames.returnAddress
    addRestartToStatistics .restartReturn returnAddress
    rollBack env env.onFail true .restartReturn 0 0
  restart env env.onFail true .restartReturn returnAddress 0 0 u
  = rolledBack { u with isInRestart := true }

/-- Called in `u`, it counts a frame off and returns. -/
def ReturnCountsOff (env : Env) (returnAddress : Address) (u : Rt) : Prop :=
  let countedOff : RtM Int := do
    addSpecStatistics env.onFail .restartReturn 0 RestartType.restartReturn.code 0
      env.frames.returnAddress
    modify fun s => { s with specCallDepth := s.specCallDepth - 1 }
    return 0
  restart env env.onFail true .restartReturn returnAddress 0 0 u
  = countedOff { u with isInRestart := true }

theorem returnRollsBack {u : Rt} (inSpec : u.inSpeculativeEmulation = true)
    (passed : u.specAssert = none) (outermost : u.specCallDepth = 0) (returnAddress : Address)
    : ReturnRollsBack env returnAddress u := by
  have rolls : ¬(RestartType.restartReturn = .restartReturn ∧ u.specCallDepth > 0) := by
    rw [outermost]
    exact fun returns => absurd returns.2 (by decide)
  rw [ReturnRollsBack, restart, run_get_bind, if_neg (by simp [inSpec]), run_modify_bind,
    run_get_bind, if_pos passed, run_get_bind, if_neg rolls]
  rfl

theorem returnCountsOff {u : Rt} (inSpec : u.inSpeculativeEmulation = true)
    (passed : u.specAssert = none) (nested : u.specCallDepth > 0) (returnAddress : Address)
    : ReturnCountsOff env returnAddress u := by
  rw [ReturnCountsOff, restart, run_get_bind, if_neg (by simp [inSpec]), run_modify_bind,
    run_get_bind, if_pos passed, run_get_bind, if_pos ⟨rfl, nested⟩]
  rfl

/-- Where the return of a frame calls `kspecem_restart`, it finds the episode as it was. -/
theorem InFrames.entersReturn (h : InFrames env.kernel limit stack s)
    : Ends (enterKspecemRt env env.onFail)
        (fun _ u =>
          Inv env.kernel
              (Rider.counting env.kernel s.specCallDepth s.maxCallDepth s.log.addrs.base
                s.log.data.base s.isInRestart)
              u
          ∧ u.specAssert = none
          ∧ u.irqsEnabled = false)
        (fun _ _ => True) s := by
  have kept := enterKspecemRt_keeps env.handler True.intro s h.counting.busy
  refine (kept.and (enterKspecemRt_unfailed h.speculating h.apart)).imp ?_
    (fun _ _ _ => trivial)
  rintro _ u ⟨entered, specAssert, irqs⟩
  exact ⟨entered.1, specAssert.trans h.passed, irqs⟩

/-- The return of an instrumented frame above the checkpoint's counts it off. -/
theorem hookRestart_countsOff {f : ListedFunction}
    (h : InFrames env.kernel limit (f :: stack) s) (instrumented : f.instrumented = true)
    (returnAddress : Address)
    : Ends (hookRestart env env.onFail true .restartReturn returnAddress)
        (fun _ t => InFrames env.kernel limit stack t) (fun _ _ => True) s := by
  have depth : s.specCallDepth.toNat = countedFrames stack + 1 := by
    rw [h.depth, countedFrames, List.countP_cons_of_pos instrumented]
    rfl
  rw [hookRestart, ends_bind, ends_get,
    if_neg (by simp [h.speculating.inv.coherent.initDone])]
  refine Ends.bind h.entersReturn ?_
  rintro irqFlags u ⟨entered, passed, irqs⟩
  have held := entered.holds
  have positive : u.specCallDepth > 0 := by
    rw [held.depth]
    bv_omega
  have shallower : (s.specCallDepth - 1).toNat = countedFrames stack := by bv_omega
  -- a nested return goes on in the episode: only the depth and the statistics change
  refine Ends.bind
    (R := fun _ v => ∃ stats,
      v = { u.restarting stats with specCallDepth := u.specCallDepth - 1 }) ?_ ?_
  · refine restart_ends ?_ (fun _ _ _ _ => trivial) (fun _ _ stats => ⟨stats, rfl⟩) ?_
    · exact fun idle => (held.not_idle idle).elim
    · exact fun _ rolls => absurd ⟨passed, rfl, positive⟩ rolls
  rintro _ _ ⟨stats, rfl⟩
  have restarting : Coherent env.kernel (u.restarting stats) :=
    entered.coherent.congr rfl rfl rfl rfl rfl (fun _ clear => clear)
  have back
      : Inv env.kernel
          (Rider.counting env.kernel (s.specCallDepth - 1) s.maxCallDepth s.log.addrs.base
            s.log.data.base true)
          { u.restarting stats with specCallDepth := u.specCallDepth - 1 } := by
    refine ⟨restarting.redepth held.inSpec _, entered.consistent.congr rfl, ?_⟩
    refine ⟨held.inSpec, ?_, held.limit, held.addrsBase, held.dataBase, rfl,
      fun fresh => by contradiction⟩
    rw [← held.depth]
  have speculating
      : Speculating env.kernel
          { u.restarting stats with specCallDepth := u.specCallDepth - 1 } :=
    ⟨⟨back.coherent, back.consistent, True.intro⟩, held.inSpec⟩
  have apart
      : Rt.NmiApart env.kernel
          { u.restarting stats with specCallDepth := u.specCallDepth - 1 } :=
    h.apart.congr held.addrsBase held.dataBase
  have kept := leaveKspecemRt_keeps env.handler True.intro 102 irqFlags (by decide) _ back.busy
  have unfailed := leaveKspecemRt_unfailed speculating apart irqs 102 irqFlags
  refine Ends.bind (((kept.and unfailed).and leaveKspecemRt_inactive).imp
    (fun _ _ left => left) (fun _ _ _ => trivial)) ?_
  rintro _ w ⟨⟨⟨left, _⟩, unfailed⟩, inactive⟩
  have held' := left.holds
  refine ⟨⟨⟨left.coherent, left.consistent, True.intro⟩, held'.inSpec⟩, ?_,
    held'.limit.trans h.limit, ?_, unfailed.trans passed, inactive,
    h.apart.congr held'.addrsBase held'.dataBase⟩
  · rw [held'.depth]
    exact shallower
  · have below := h.below
    rw [held'.depth, held'.limit]
    bv_omega

/-- After a return in the episode its frame is off the stack. -/
theorem leaveFunction_frames {kernel : Kernel} {f : ListedFunction} {site : CallSite}
    (h : InFrames kernel limit (f :: stack) s) (returnAddress : Address)
    : Ends (leaveFunction kernel f site returnAddress)
        (fun _ t => InFrames kernel limit stack t) (fun _ _ => True) s := by
  cases instrumented : f.instrumented with
  | true =>
      rw [leaveFunction_instrumented instrumented]
      exact Ends.bind (@hookRestart_countsOff (site.env kernel) limit stack s f h instrumented
        returnAddress) (fun _ _ kept => kept)
  | false =>
      rw [leaveFunction_other instrumented]
      exact (InFrames.uncounted instrumented).mp h

/-- The frame of the checkpoint is not returned from. -/
theorem leaveFunction_stays {kernel : Kernel} {g : ListedFunction} {site : CallSite}
    (h : InFrames kernel limit [] s) (instrumented : g.instrumented = true)
    (returnAddress : Address)
    : Ends (leaveFunction kernel g site returnAddress) (fun _ _ => False) (fun _ _ => True) s := by
  have returns := @hookRestart_returns (site.env kernel) (Rider.trivial kernel) _ s .restartReturn
    returnAddress (site.env kernel).handler True.intro h.speculating.inv True.intro
  rw [leaveFunction_instrumented instrumented]
  refine Ends.bind (returns.imp (fun _ _ kept => kept) (fun _ _ _ => trivial)) ?_
  rintro _ t ⟨_, nested⟩
  have positive := (nested h.speculating.inSpec).2.2
  have none := h.depth
  rw [countedFrames, List.countP_nil] at none
  bv_omega

end

-----------------------------------------------------------------------------------------
-- Runs
-----------------------------------------------------------------------------------------

/-- An action that neither enters a function nor returns from one. -/
def Action.Between : Action → Prop
  | .checkCallDepth => False
  | .restart restartType _ => restartType ≠ .restartReturn
  | _ => True

/-- Calls and returns of an episode, with any other events between them: the functions whose
frames were entered and not left since `start`, and the state reached. The frames of
interrupt handlers do not reach the swap flag, no assertion fails in the other events, and
they leave no section open.
-/
inductive CallRun (kernel : Kernel) (start : Rt) : List ListedFunction → Rt → Prop
  | refl : CallRun kernel start [] start
  | call {stack : List ListedFunction} {s t : Rt} (f : ListedFunction) (site : CallSite)
      (run : CallRun kernel start stack s)
      (placed : ¬Within site.regs sizeofPtregs kernel.swapBranchCondition)
      (enters : enterFunction kernel f site s = .ok () t)
      (inSpec : t.inSpeculativeEmulation = true)
      : CallRun kernel start (f :: stack) t
  | ret {stack : List ListedFunction} {f : ListedFunction} {s t : Rt} (site : CallSite)
      (returnAddress : Address) (run : CallRun kernel start (f :: stack) s)
      (leaves : leaveFunction kernel f site returnAddress s = .ok () t)
      : CallRun kernel start stack t
  | other {stack : List ListedFunction} {s t : Rt} (event : Event)
      (run : CallRun kernel start stack s) (between : event.action.Between)
      (placed : event.action.Placed kernel) (runs : event.run kernel s = .ok () t)
      (passed : t.specAssert = none) (inactive : t.isInRt = false)
      : CallRun kernel start stack t

theorem Rider.counting_lenient (kernel : Kernel) (depth limit : BitVec 32) (addrs data : Address)
    (restarted : Bool)
    : (Rider.counting kernel depth limit addrs data restarted).Lenient where
  spares := fun _ => True.intro
  frame := fun _ _ => True.intro
  memory := fun _ _ => True.intro
  frames := id

/-- The counting rider admits the events between calls and returns. -/
theorem Rider.counting_admitted {kernel : Kernel} {depth limit : BitVec 32}
    {addrs data : Address} {restarted : Bool} {s : Rt} {event : Event}
    (placed : event.action.Placed kernel) (between : event.action.Between)
    : event.Admitted kernel (Rider.counting kernel depth limit addrs data restarted) s :=
  (Rider.counting_lenient kernel depth limit addrs data restarted).admitted {
    placed
    block := fun _ _ => True.intro
    depth := fun action => by
      rw [action] at between
      exact between.elim
    restarts := fun restartType ends nested => by
      obtain ⟨callArg, action⟩ := Action.endsBy_return (nested.2.1 ▸ ends)
      rw [action] at between
      exact between rfl
    registers := fun _ _ => True.intro
    bug := fun _ _ _ => True.intro }

/-- Along a run the call depth counts the frames, by induction on the run. -/
theorem CallRun.inFrames {kernel : Kernel} {limit : BitVec 32} {start s : Rt}
    {stack : List ListedFunction} (run : CallRun kernel start stack s)
    (opened : InFrames kernel limit [] start)
    : InFrames kernel limit stack s := by
  induction run with
  | refl => exact opened
  | call f site run placed enters inSpec ih =>
      exact (enterFunction_frames ih placed).of_ok enters inSpec
  | ret site returnAddress run leaves ih =>
      exact (leaveFunction_frames ih returnAddress).of_ok leaves
  | other event run between placed runs passed inactive ih =>
      have inv := ih.counting
      have kept := @Action.run_keeps (event.env kernel) _ _ event.action placed True.intro
        (Rider.counting_admitted placed between).action (@Inv.standing (event.env kernel) _ _ inv)
        (Or.inr inv)
      exact ih.counted (kept.of_ok runs) passed inactive

/-- What holds of an episode of the function `g` with the given frames above its own. -/
structure StaysInFrame (kernel : Kernel) (limit : BitVec 32) (g : ListedFunction)
    (stack : List ListedFunction) (s : Rt)
    : Prop where
  depth : s.specCallDepth.toNat = countedFrames stack
  below : s.specCallDepth < limit
  limit : s.maxCallDepth = limit
  hooked : KSpecEm.returnHook g = some .restartReturn
  returns
    : ∀ (site : CallSite) (returnAddress : Address),
        KSpecEm.returnHook (stack.headD g) = some .restartReturn
        → Ends (enterKspecemRt (site.env kernel) (site.env kernel).onFail)
            (fun _ u =>
              (stack = [] → ReturnRollsBack (site.env kernel) returnAddress u)
              ∧ (stack ≠ [] → ReturnCountsOff (site.env kernel) returnAddress u))
            (fun _ _ => True) s
  stays
    : stack = []
      → ∀ (site : CallSite) (returnAddress : Address),
          Ends (leaveFunction kernel g site returnAddress) (fun _ _ => False)
            (fun _ _ => True) s

theorem InFrames.staysInFrame {kernel : Kernel} {limit : BitVec 32} {g : ListedFunction}
    {stack : List ListedFunction} {s : Rt} (h : InFrames kernel limit stack s)
    (takes : KSpecEmSpec.takesCheckpoints g = true)
    : StaysInFrame kernel limit g stack s := by
  have instrumented : g.instrumented = true := by
    simpa [KSpecEmSpec.takesCheckpoints, unspeculated_eq] using takes
  have hooked : KSpecEm.returnHook g = some .restartReturn := by
    rw [← entryHook_iff_returnHook, KSpecEmSpec.entryHook, unspeculated_eq, instrumented]
    rfl
  refine ⟨h.depth, h.limit ▸ h.below, h.limit, hooked, ?_, ?_⟩
  · intro site returnAddress top
    refine (@InFrames.entersReturn (site.env kernel) limit stack s h).imp ?_
      (fun _ _ _ => trivial)
    rintro _ u ⟨entered, passed, _⟩
    have depth := h.depth
    rw [← entered.holds.depth] at depth
    refine ⟨fun outermost => ?_, fun nested => ?_⟩
    · rw [outermost, countedFrames, List.countP_nil] at depth
      exact returnRollsBack entered.holds.inSpec passed (by bv_omega) returnAddress
    · obtain ⟨f, rest, rfl⟩ := List.exists_cons_of_ne_nil nested
      have counted : f.instrumented = true := by
        rw [List.headD_cons, ← entryHook_iff_returnHook, KSpecEmSpec.entryHook,
          unspeculated_eq] at top
        cases instrumented : f.instrumented with
        | true => rfl
        | false => simp [instrumented] at top
      rw [countedFrames, List.countP_cons_of_pos counted] at depth
      exact returnCountsOff entered.holds.inSpec passed (by bv_omega) returnAddress
  · rintro rfl site returnAddress
    exact leaveFunction_stays h instrumented returnAddress

/-- From every checkpoint that a reachable kernel takes in a function `g`, over every run of
calls and returns: the call depth is the number of instrumented frames entered and not left
since and below its limit, a return counts its frame off as long as it is not that of `g`,
and the return of `g` itself rolls back and never returns.
-/
theorem speculation_staysInFrame {kernel : Kernel} {m : Machine} {g : ListedFunction}
    {frames saveFrames leaveFrames : Frames} {task : Task} {inInterrupt : Bool}
    {frameaddress rsp : Address} {cpu : PtRegs} {returnAddress : Word} {opened s : Rt}
    {stack : List ListedFunction} (reached : Reached kernel m) (running : m.phase = .running)
    (idle : m.rt.inSpeculativeEmulation = false)
    (takes : KSpecEmSpec.takesCheckpoints g = true)
    (placed : ¬Within rsp (frameaddress - rsp).toNat kernel.swapBranchCondition)
    (opens
      : Event.run kernel
          ⟨frames, task,
            .branch saveFrames leaveFrames inInterrupt frameaddress rsp cpu returnAddress⟩
          m.rt
        = .ok () opened)
    (inSpec : opened.inSpeculativeEmulation = true) (positive : 0 < m.rt.maxCallDepth)
    (run : CallRun kernel opened stack s)
    : StaysInFrame kernel m.rt.maxCallDepth g stack s := by
  have inv := reached.inv.running running
  have starts := @branchHooks_opens ⟨kernel, frames, task⟩ m.rt saveFrames leaveFrames
    inInterrupt frameaddress rsp cpu returnAddress placed inv.coherent inv.consistent idle
    (reached.rested running idle) positive
  have starts : Ends (Event.run kernel ⟨frames, task,
        .branch saveFrames leaveFrames inInterrupt frameaddress rsp cpu returnAddress⟩)
      (fun _ t => t.inSpeculativeEmulation = true → InFrames kernel m.rt.maxCallDepth [] t)
      (fun _ _ => True) m.rt :=
    starts.bind (fun _ _ kept => kept)
  exact (run.inFrames (starts.of_ok opens inSpec)).staysInFrame takes

/-- A function in no category. -/
def sampleFunction (name : String) : ListedFunction :=
  { name, address := 0x400500, isIn := fun _ => false }

def sampleSite : CallSite where
  frames := sampleFrames
  task := sampleEnv.task
  regs := 0x71000
  frameaddr := 0x71100

/-- A call in the sample episode. -/
theorem speculation_staysInFrame_sample
    : StaysInFrame sampleKernel 100 (sampleFunction "vfs_read") [sampleFunction "rw_verify_area"]
        (endState (hookCheckCallDepth sampleEnv sampleEnv.onFail) sampleOpen.rt) := by
  refine @speculation_staysInFrame sampleKernel sampleMachine (sampleFunction "vfs_read")
    sampleFrames sampleFrames sampleFrames sampleEnv.task false 0x70200 0x70100 (fun _ => 0)
    0x400200 sampleOpen.rt _ _ sampleReached rfl rfl rfl ?_ rfl rfl (by decide) ?_
  · exact (by decide : ¬Within 0x70100 0x100 sampleKernel.swapBranchCondition)
  · refine .call (sampleFunction "rw_verify_area") sampleSite .refl ?_ rfl rfl
    exact (by decide : ¬Within 0x71000 sizeofPtregs sampleKernel.swapBranchCondition)

end Kasper
