import Kasper.Correctness.EpisodeStart
import Kasper.Correctness.Tours
import Kasper.Library.Simulation

/-! `kspecem_is_in_rt` over nested sections. The macros set and clear one flag, so a section
inside another one takes the flag with it when it is left; most hooks check the flag before
they enter one, a few do not.
-/

namespace Kasper

open ByteMemory Exits Simulation

-----------------------------------------------------------------------------------------
-- Hooks that return stay in speculation
-----------------------------------------------------------------------------------------

section
variable {env : Env} {onFail : SpecAssert → RtM Unit} {spec flag : Bool}

theorem anyTour : Tour (fun _ => True) (fun _ _ => True) where
  quiet := fun _ _ _ _ => True.intro
  final := fun _ _ _ _ _ _ => True.intro
  stores := fun _ _ => True.intro

theorem finishRestart_direct (restartType : RestartType)
    : Diverges (finishRestart env onFail true restartType) := by
  have leave : Diverges (leaveRestart env true) := by
    refine diverges_bind fun s => ?_
    cases s.specAssert with
    | some failed => exact diverges_throw _
    | none => exact diverges_bind fun _ => (diverges_bind fun _ => diverges_throw _).bind _
  refine diverges_bind fun _ => ?_
  exact diverges_ite (diverges_bind fun _ => leave) leave

/-- A rollback to the checkpoint itself does not return. -/
theorem rollBack_direct (restartType : RestartType) (frameaddr regs : Address)
    : Diverges (rollBack env onFail true restartType frameaddr regs) := by
  intro s
  have fails (failed : SpecAssert) : Keeps (fun _ => True) (fun _ _ => True) (onFail failed) :=
    fun _ _ => Ends.trivial _
  rw [rollBack, ends_bind, ends_get]
  refine Ends.bind (Ends.trivial _) fun _ t _ => ?_
  refine Ends.bind (anyTour.restoreWritelog fails _ _ True.intro) ?_
  rintro r u ⟨restored, _⟩
  rw [if_neg restored]
  refine diverges_bind (fun _ => diverges_bind fun _ => diverges_bind fun _ =>
    diverges_bind fun _ => diverges_bind fun _ => diverges_ite ?_ ?_) u
  · exact diverges_bind fun _ => finishRestart_direct restartType
  · exact finishRestart_direct restartType

/-- In speculation only the restart of a return returns. -/
theorem restart_leaves {restartType : RestartType} {callArg : Address} {s : Rt}
    (other : restartType ≠ .restartReturn) (inSpec : s.inSpeculativeEmulation = true)
    : Ends (restart env onFail true restartType callArg 0 0) (fun _ _ => False)
        (fun _ _ => True) s := by
  rw [restart, ends_bind, ends_get, if_neg (by simp [inSpec])]
  refine diverges_bind (fun _ => diverges_bind fun t => ?_) s
  have roll := @rollBack_direct env onFail restartType 0 0
  refine diverges_ite (diverges_bind fun u => ?_) roll
  rw [if_neg (fun returns => other returns.1)]
  refine diverges_bind fun _ => diverges_ite ?_ ?_
  · exact diverges_bind fun _ => roll
  · exact diverges_bind fun _ => roll

theorem specTour : Tour (fun s => s.inSpeculativeEmulation = spec) (fun _ _ => True) where
  quiet := fun _ _ quiet same => quiet.inSpec.trans same
  final := fun _ _ _ _ _ _ => True.intro
  stores := fun _ _ => True.intro

/-- A restart that returns has rolled nothing back. -/
theorem restart_keepsSpec (restartType : RestartType) (callArg : Address)
    : Keeps (fun s => s.inSpeculativeEmulation = spec) (fun _ _ => True)
        (restart env onFail true restartType callArg 0 0) := by
  have roll (t : Rt)
      : Ends (rollBack env onFail true restartType 0 0)
          (fun _ u => u.inSpeculativeEmulation = spec) (fun _ _ => True) t :=
    (rollBack_direct restartType 0 0 t).imp (fun _ _ no => no.elim) (fun _ _ exit => exit)
  refine keeps_read fun _ => keeps_branch (keeps_pure _) ?_
  refine keeps_bind (keeps_modify fun _ same => same) fun _ => keeps_read fun _ =>
    keeps_branch (keeps_read fun _ => keeps_branch ?_ ?_) (fun t _ => roll t)
  · refine keeps_bind (specTour.addSpecStatistics _ _ _ _ _) fun _ => ?_
    exact keeps_bind (keeps_modify fun _ same => same) fun _ => keeps_pure _
  · intro t _
    refine Ends.bind (Ends.trivial _) fun _ u _ => ?_
    rw [ends_ite]
    exact ⟨fun _ => Ends.bind (Ends.trivial _) fun _ v _ => roll v,
      fun _ => Ends.bind (Ends.trivial _) fun _ v _ => roll v⟩

theorem specSectionTour
    (fails
      : ∀ failed,
          Keeps (fun s => s.inSpeculativeEmulation = spec) (fun _ _ => True) (onFail failed))
    : SectionTour env onFail (fun s => s.inSpeculativeEmulation = spec) (fun _ _ => True) where
  toTour := specTour
  fails := fails
  restarts := fun _ _ _ => restart_keepsSpec _ _
  sections := fun _ _ same => same

/-- So has a failed assertion, by induction on the room. -/
theorem kspecemPanic_keepsSpec (env : Env) (depth : Nat) (failed : SpecAssert)
    : Keeps (fun s => s.inSpeculativeEmulation = spec) (fun _ _ => True)
        (kspecemPanic env depth failed) := by
  induction depth generalizing failed with
  | zero =>
      exact keeps_bind (keeps_modify fun _ same => same) fun _ =>
        keeps_throw fun _ _ => True.intro
  | succ depth ih =>
      intro s start
      exact (@specSectionTour env (kspecemPanic env depth) spec ih).kspecemPanicWith
        (fun _ _ _ => Or.inr fun _ _ => True.intro) (fun _ _ same => same)
        (restart_keepsSpec _ _) start

/-- A hook that returns leaves speculation as it found it. -/
theorem Action.run_keepsSpec {action : Action} (closed : ¬action.MayOpen)
    (hook : ¬action.Interrupts)
    : Keeps (fun s => s.inSpeculativeEmulation = spec) (fun _ _ => True) (action.run env) := by
  refine (specSectionTour (kspecemPanic_keepsSpec env env.kernel.panicDepth)).run
    (fun _ _ => True.intro) (fun _ _ => True.intro) ?_ closed hook
    (fun _ _ _ => restart_keepsSpec _ _)
  exact keeps_printRestartStatistics (fun _ _ => True.intro) (fun _ _ => Or.inr True.intro)

-----------------------------------------------------------------------------------------
-- The flag
-----------------------------------------------------------------------------------------

/-- Leaving a section clears the flag, whatever was open. -/
theorem leaveKspecemRt_unsets {line : Nat} {irqFlags : Word} {file : String} {s : Rt}
    : Ends (leaveKspecemRt env onFail line irqFlags file) (fun _ t => t.isInRt = false)
        (fun _ _ => True) s := by
  rw [leaveKspecemRt, ends_bind, ends_get]
  refine Ends.bind (Ends.trivial _) fun _ _ _ => Ends.bind (Ends.trivial _) fun _ _ _ => ?_
  refine Ends.bind (Ends.trivial _) fun _ _ _ => ?_
  rw [unsetRt, ends_modify]

theorem leaveKspecemNonmiRt_unsets {line : Nat} {irqFlags : Word} {s : Rt}
    : Ends (leaveKspecemNonmiRt onFail line irqFlags) (fun _ t => t.isInRt = false)
        (fun _ _ => True) s := by
  rw [leaveKspecemNonmiRt, ends_bind, ends_get]
  refine Ends.bind (Ends.trivial _) fun _ _ _ => Ends.bind (Ends.trivial _) fun _ _ _ => ?_
  rw [unsetRt, ends_modify]

/-- The store hook takes the flag with it, unless there is nothing to log. -/
theorem hookStore_unsets {addr : Address} {s : Rt} (initDone : s.initDone = true)
    : Ends (hookStore env onFail addr)
        (fun _ t => t.isInRt = if s.log.enabled then false else s.isInRt) (fun _ _ => True)
        s := by
  rw [hookStore, ends_bind, ends_get, ends_ite]
  refine ⟨fun disabled => by simp [disabled], fun enabled => ?_⟩
  rw [ends_bind, ends_get, if_neg (by simp [initDone]), if_pos (by simpa using enabled)]
  refine Ends.bind (Ends.trivial _) fun _ _ _ => Ends.bind (Ends.trivial _) fun _ _ _ => ?_
  exact leaveKspecemNonmiRt_unsets

/-- So a section with NMI handling runs without its flag in speculation: the hooked counter
update of `stop_nmi` has cleared it.
-/
theorem enterKspecemRt_flag {s : Rt} (initDone : s.initDone = true)
    : Ends (enterKspecemRt env onFail) (fun _ t => t.isInRt = !s.log.enabled) (fun _ _ => True)
        s := by
  rw [enterKspecemRt, setRt, ends_bind, ends_modify, ends_bind, localIrqSave]
  simp only [ends_bind, ends_get, ends_modify, ends_pure, stopNmi, countNmi]
  refine (hookStore_unsets (by exact initDone)).imp (fun _ t flag => ?_) (fun _ _ exit => exit)
  rw [flag]
  cases s.log.enabled <;> rfl

/-- A failed assertion returns only where it does nothing but note the failure. -/
theorem kspecemPanic_keepsFlag (env : Env) (depth : Nat) (failed : SpecAssert)
    : Keeps (fun s => s.isInRt = flag) (fun _ _ => True) (kspecemPanic env depth failed) := by
  cases depth with
  | zero =>
      exact keeps_bind (keeps_modify fun _ same => same) fun _ =>
        keeps_throw fun _ _ => True.intro
  | succ depth =>
      refine keeps_bind (keeps_modify fun _ same => same) fun _ => keeps_get_bind fun s same => ?_
      rw [ends_ite]
      refine ⟨fun inSpec => ?_, fun _ => True.intro⟩
      rw [ends_bind, ends_modify, ends_bind, ends_get, ends_ite]
      refine ⟨fun _ => ?_, fun _ => same⟩
      rw [ends_bind, hookRestart, ends_bind, ends_get, ends_ite]
      refine ⟨fun _ => same, fun _ => ?_⟩
      have tour := @specSectionTour env (kspecemPanic env depth) true
        (kspecemPanic_keepsSpec env depth)
      refine Ends.bind (tour.enterKspecemRt (fun _ _ _ => Or.inr fun _ _ => True.intro) _ inSpec) ?_
      intro _ t inSpec
      exact Ends.bind (restart_leaves (by decide) inSpec) (fun _ _ no => no.elim)

/-- The hooks that enter their section though one may be open: they check that the runtime
is initialised and not that it is outside its sections.
-/
def Action.Unguarded (inSpec : Bool) : Action → Prop
  | .store _ | .memcpy _ _ | .access _ _ _ _ => inSpec = true
  | .restart _ _ => True
  | _ => False

theorem flagTour : Tour (fun s => s.isInRt = flag) (fun _ _ => True) where
  quiet := fun _ _ quiet same => quiet.isInRt.trans same
  final := fun _ _ _ _ _ _ => True.intro
  stores := fun _ _ => True.intro

/-- A hook inside a section that returns has cleared the flag exactly if it is unguarded. -/
theorem Action.run_flag {action : Action} {s : Rt} (coherent : Coherent env.kernel s)
    (inside : s.isInRt = true) (closed : ¬action.MayOpen) (hook : ¬action.Interrupts)
    (stays : ∀ token, action = .leaveRt token → token = noCheckpoint)
    : Ends (action.run env)
        (fun _ t => t.isInRt = true ↔ ¬action.Unguarded s.inSpeculativeEmulation)
        (fun _ _ => True) s := by
  have kept {c : RtM Unit} (keeps : Keeps (fun s => s.isInRt = true) (fun _ _ => True) c)
      (guarded : ¬action.Unguarded s.inSpeculativeEmulation)
      : Ends c (fun _ t => t.isInRt = true ↔ ¬action.Unguarded s.inSpeculativeEmulation)
          (fun _ _ => True) s :=
    (keeps s inside).imp (fun _ _ flag => ⟨fun _ => guarded, fun _ => flag⟩)
      (fun _ _ exit => exit)
  have cleared {t : Rt} (flag : t.isInRt = false)
      (unguarded : action.Unguarded s.inSpeculativeEmulation)
      : t.isInRt = true ↔ ¬action.Unguarded s.inSpeculativeEmulation :=
    ⟨fun set => absurd (flag.symm.trans set) (by decide), fun guarded => absurd unguarded guarded⟩
  have initDone : s.initDone ≠ false := by simp [coherent.initDone]
  have fails := @kspecemPanic_keepsFlag true env env.kernel.panicDepth
  cases action with
  | checkSpecLength bbInstCount =>
      refine kept (fun t same => ?_) id
      simp only [Action.run, hookCheckSpecLength, ends_bind, ends_get, ends_ite, ends_pure]
      exact ⟨fun _ => ⟨fun _ => same, fun outside => absurd (Or.inr same) outside⟩, fun _ => same⟩
  | panicInfo => exact kept flagTour.panicInfo id
  | printRestartStatistics =>
      refine kept (fun t same => ?_) id
      rw [Action.run, hookPrintRestartStatistics, ends_bind, ends_get, ends_bind, ends_get,
        if_pos (Or.inr same)]
      exact same
  | checkCallDepth =>
      refine kept (fun t same => ?_) id
      rw [Action.run, hookCheckCallDepth, ends_bind, ends_get, ends_bind, ends_get,
        if_pos (Or.inr same)]
      exact same
  | newCheckpoint inInterrupt => exact absurd True.intro closed
  | saveStack irqFlags frameaddress rsp =>
      refine kept (keeps_hookSaveStack fails (fun s t stacked same => ?_) flagTour.final
        irqFlags frameaddress rsp) id
      exact stacked.quiet.isInRt.trans same
  | saveRegisters cpu returnAddress token => exact kept (keeps_modify fun _ same => same) id
  | leaveRt irqFlags =>
      obtain rfl := stays irqFlags rfl
      exact kept (fun t same => same) id
  | branch saveFrames leaveFrames inInterrupt frameaddress rsp cpu returnAddress =>
      exact absurd True.intro closed
  | restart restartType callArg =>
      refine Ends.imp ?_ (fun _ t flag => cleared flag True.intro) (fun _ _ exit => exit)
      rw [Action.run, ends_bind, hookRestart, ends_bind, ends_get, if_neg initDone]
      refine Ends.bind (Ends.trivial _) fun _ _ _ => Ends.bind (Ends.trivial _) fun _ _ _ => ?_
      exact Ends.bind leaveKspecemRt_unsets fun _ _ flag => flag
  | store addr =>
      refine (hookStore_unsets coherent.initDone).imp (fun _ t flag => ?_) (fun _ _ exit => exit)
      rw [flag, inside, coherent.coupled]
      cases s.inSpeculativeEmulation <;> simp [Action.Unguarded]
  | memcpy addr size =>
      rw [Action.run, hookMemcpy, ends_bind, ends_get, ends_ite]
      refine ⟨fun disabled => ?_, fun enabled => ?_⟩
      · have idle := coherent.coupled.symm.trans disabled
        exact ⟨fun _ spec => absurd (idle.symm.trans spec) (by decide), fun _ => inside⟩
      · have inSpec := coherent.coupled.symm.trans (Bool.of_not_eq_false enabled)
        rw [ends_bind, ends_get, if_neg initDone]
        refine Ends.bind (Ends.trivial _) fun _ _ _ => Ends.bind (Ends.trivial _) fun _ _ _ => ?_
        exact leaveKspecemRt_unsets.imp (fun _ t flag => cleared flag inSpec) (fun _ _ exit => exit)
  | report call =>
      have reports {line : Nat} {report : RtM Unit}
          : Keeps (fun s => s.isInRt = true) (fun _ _ => True)
              (hookReport env.onFail line report) := by
        intro t same
        rw [hookReport, ends_bind, ends_get, ends_bind, ends_get, if_pos (Or.inr same)]
        exact same
      refine kept ?_ id
      cases call with
      | kasan addr size isWrite ip =>
          exact keeps_bind (keeps_branch (keeps_pure _) reports) fun _ => keeps_pure _
      | ridl addr size isWrite ip dataLabel ptrLabel =>
          exact keeps_bind reports fun _ => keeps_pure _
      | specv1 addr size isWrite ip dataLabel ptrLabel =>
          exact keeps_bind reports fun _ => keeps_pure _
      | smotherspectre ip label => exact keeps_bind reports fun _ => keeps_pure _
  | isWhitelistTask =>
      refine kept (keeps_bind (fun t same => ?_) fun _ => keeps_pure _) id
      rw [hookIsWhitelistTask, ends_bind, ends_get, ends_bind, ends_get, if_pos (Or.inr same)]
      exact same
  | access pfDummyRegion ptr size addrValid =>
      rw [Action.run, ends_bind, hookAccess, ends_bind, ends_get, ends_ite]
      refine ⟨fun idle => ?_, fun spec => ?_⟩
      · exact ⟨fun _ spec => absurd (idle.symm.trans spec) (by decide), fun _ => inside⟩
      · rw [ends_bind, ends_get, if_neg initDone]
        refine Ends.bind (Ends.trivial _) fun _ _ _ => ?_
        exact Ends.bind leaveKspecemNonmiRt_unsets
          fun _ t flag => cleared flag (Bool.of_not_eq_false spec)
  | timer leaving regs frameaddr interrupted => exact absurd True.intro hook
  | exception regs frameaddr interrupted exceptionType => exact absurd True.intro hook
  | write target bytes =>
      exact kept (keeps_ite (fun _ => keeps_modify fun _ same => same)
        (fun _ => keeps_throw fun _ _ => True.intro)) id
  | setIrqs enabled => exact kept (keeps_modify fun _ same => same) id

/-- A hook outside the sections that returns is outside them. -/
theorem Action.run_clear {action : Action} (closed : ¬action.MayOpen)
    (hook : ¬action.Interrupts)
    : Keeps (fun s => s.isInRt = false) (fun _ _ => True) (action.run env) := by
  have fails := @kspecemPanic_keepsFlag false env env.kernel.panicDepth
  have cuts {restartType : RestartType} {line : Nat}
      : Keeps (fun s => s.isInRt = false) (fun _ _ => True) (do
          let irqFlags ← enterKspecemRt env env.onFail
          let _ ← Kasper.restart env env.onFail true restartType 0 0 0
          ltPanic "kspecem_interface.c" "should not return!\n"
          leaveKspecemRt env env.onFail line irqFlags) := by
    intro s _
    refine (?_ : Diverges _) s |>.imp (fun _ _ no => no.elim) (fun _ _ exit => exit)
    exact diverges_bind fun _ => diverges_bind fun _ => (diverges_throw _).bind _
  have reports {line : Nat} {report : RtM Unit}
      : Keeps (fun s => s.isInRt = false) (fun _ _ => True)
          (hookReport env.onFail line report) := by
    refine keeps_read fun _ => keeps_read fun _ => keeps_branch (keeps_pure _) fun s _ => ?_
    refine Ends.bind (Ends.trivial _) fun _ _ _ => Ends.bind (Ends.trivial _) fun _ _ _ => ?_
    exact Ends.bind leaveKspecemNonmiRt_unsets fun _ _ flag => flag
  cases action with
  | checkSpecLength bbInstCount =>
      refine keeps_read fun _ => keeps_branch ?_ (keeps_pure _)
      refine keeps_read fun _ => keeps_read fun _ => keeps_branch (keeps_pure _) ?_
      refine keeps_read fun _ => keeps_read fun _ => keeps_branch (keeps_pure _) ?_
      refine keeps_read fun _ => keeps_read fun _ => keeps_branch (keeps_pure _) ?_
      refine keeps_bind (keeps_modify fun _ clear => clear) fun _ => ?_
      exact keeps_read fun _ => keeps_read fun _ => keeps_branch cuts (keeps_pure _)
  | panicInfo => exact flagTour.panicInfo
  | printRestartStatistics =>
      refine keeps_read fun _ => keeps_read fun _ => keeps_branch (keeps_pure _) fun s _ => ?_
      refine Ends.bind (Ends.trivial _) fun _ _ _ => Ends.bind (Ends.trivial _) fun _ _ _ => ?_
      exact leaveKspecemRt_unsets
  | checkCallDepth =>
      refine keeps_read fun _ => keeps_read fun _ => keeps_branch (keeps_pure _) ?_
      refine keeps_read fun _ => keeps_branch ?_ (keeps_pure _)
      refine keeps_bind (flagTour.addSpecStatistics _ _ _ _ _) fun _ => ?_
      refine keeps_bind (keeps_modify fun _ clear => clear) fun _ => ?_
      exact keeps_read fun _ => keeps_read fun _ => keeps_branch cuts (keeps_pure _)
  | newCheckpoint inInterrupt => exact absurd True.intro closed
  | saveStack irqFlags frameaddress rsp =>
      exact keeps_hookSaveStack fails (fun _ _ stacked clear => stacked.quiet.isInRt.trans clear)
        flagTour.final irqFlags frameaddress rsp
  | saveRegisters cpu returnAddress token => exact keeps_modify fun _ clear => clear
  | leaveRt irqFlags => exact keeps_branch (fun _ _ => leaveKspecemRt_unsets) (keeps_pure _)
  | branch saveFrames leaveFrames inInterrupt frameaddress rsp cpu returnAddress =>
      exact absurd True.intro closed
  | restart restartType callArg =>
      refine keeps_bind (keeps_read fun _ => keeps_branch (keeps_pure _) fun s _ => ?_)
        fun _ => keeps_pure _
      refine Ends.bind (Ends.trivial _) fun _ _ _ => Ends.bind (Ends.trivial _) fun _ _ _ => ?_
      exact Ends.bind leaveKspecemRt_unsets fun _ _ flag => flag
  | store addr =>
      refine keeps_read fun _ => keeps_branch (keeps_pure _) ?_
      refine keeps_read fun _ => keeps_branch (keeps_pure _) fun s _ => ?_
      refine Ends.bind (Ends.trivial _) fun _ _ _ => Ends.bind (Ends.trivial _) fun _ _ _ => ?_
      exact leaveKspecemNonmiRt_unsets
  | memcpy addr size =>
      refine keeps_read fun _ => keeps_branch (keeps_pure _) ?_
      refine keeps_read fun _ => keeps_branch (keeps_pure _) fun s _ => ?_
      refine Ends.bind (Ends.trivial _) fun _ _ _ => Ends.bind (Ends.trivial _) fun _ _ _ => ?_
      exact leaveKspecemRt_unsets
  | report call =>
      cases call with
      | kasan addr size isWrite ip =>
          exact keeps_bind (keeps_branch (keeps_pure _) reports) fun _ => keeps_pure _
      | ridl addr size isWrite ip dataLabel ptrLabel =>
          exact keeps_bind reports fun _ => keeps_pure _
      | specv1 addr size isWrite ip dataLabel ptrLabel =>
          exact keeps_bind reports fun _ => keeps_pure _
      | smotherspectre ip label => exact keeps_bind reports fun _ => keeps_pure _
  | isWhitelistTask =>
      refine keeps_bind ?_ fun _ => keeps_pure _
      refine keeps_read fun _ => keeps_read fun _ => keeps_branch (keeps_pure _) fun s _ => ?_
      refine Ends.bind (Ends.trivial _) fun _ _ _ => Ends.bind (Ends.trivial _) fun _ _ _ => ?_
      exact Ends.bind leaveKspecemRt_unsets fun _ _ flag => flag
  | access pfDummyRegion ptr size addrValid =>
      refine keeps_bind ?_ fun _ => keeps_pure _
      refine keeps_read fun _ => keeps_branch (keeps_pure _) ?_
      refine keeps_read fun _ => keeps_branch (keeps_pure _) fun s _ => ?_
      refine Ends.bind (Ends.trivial _) fun _ _ _ => ?_
      exact Ends.bind leaveKspecemNonmiRt_unsets fun _ _ flag => flag
  | timer leaving regs frameaddr interrupted => exact absurd True.intro hook
  | exception regs frameaddr interrupted exceptionType => exact absurd True.intro hook
  | write target bytes =>
      exact keeps_ite (fun _ => keeps_modify fun _ clear => clear)
        (fun _ => keeps_throw fun _ _ => True.intro)
  | setIrqs enabled => exact keeps_modify fun _ clear => clear

/-- In speculation no checkpoint is taken. -/
theorem hookNewCheckpoint_nested {s : Rt} (inSpec : s.inSpeculativeEmulation = true)
    (inInterrupt : Bool)
    : Ends (hookNewCheckpoint env env.onFail inInterrupt)
        (fun token t => token = noCheckpoint ∧ t.isInRt = s.isInRt) (fun _ _ => True) s := by
  simp only [hookNewCheckpoint, ends_bind, ends_get, ends_ite, ends_pure]
  have refused : True ∧ True := ⟨True.intro, True.intro⟩
  refine ⟨fun _ => refused, fun _ => ⟨fun _ => refused, fun _ => ⟨fun _ => refused, fun _ =>
    ⟨fun _ => refused, fun _ => ⟨fun _ => refused, fun _ => ⟨fun _ => ?_, ?_⟩⟩⟩⟩⟩⟩
  · exact (flagTour.addSpecStatistics _ _ _ _ _ s rfl).imp (fun _ _ flag => ⟨True.intro, flag⟩)
      (fun _ _ exit => exit)
  · exact fun idle => absurd inSpec idle

/-- The timer's handler outside speculation only checks its frame. -/
theorem hookInterruptTimer_keepsFlag (regs frameaddr : Address)
    : Keeps (fun s => s.inSpeculativeEmulation = false ∧ s.isInRt = flag) (fun _ _ => True)
        (hookInterruptTimer env env.onFail regs frameaddr) := by
  have fails (failed : SpecAssert)
      : Keeps (fun s => s.inSpeculativeEmulation = false ∧ s.isInRt = flag) (fun _ _ => True)
          (env.onFail failed) :=
    fun s start =>
      ((kspecemPanic_keepsSpec env env.kernel.panicDepth failed s start.1).and
        (kspecemPanic_keepsFlag env env.kernel.panicDepth failed s start.2)).imp
        (fun _ _ kept => kept) (fun _ _ _ => True.intro)
  refine keeps_read fun _ => keeps_branch (keeps_pure _) ?_
  refine keeps_bind (keeps_ltAssert fails) fun _ => keeps_read fun _ => ?_
  refine keeps_read fun _ => keeps_bind (keeps_ltAssert fails) fun _ => ?_
  exact keeps_get_bind fun s start =>
    keeps_ite (fun spec => absurd (spec.symm.trans start.1) (by decide))
      (fun _ => keeps_pure _) s start

/-- A timer interrupt that returns to where it came came outside speculation. -/
theorem timerInterrupt_keepsFlag (regs frameaddr : Address) (interrupted : PtRegs)
    : Keeps (fun s => s.isInRt = flag) (fun _ _ => True)
        (timerInterrupt env regs frameaddr interrupted) := by
  refine keeps_bind (keeps_modify fun _ same => same) fun _ => keeps_get_bind fun s same => ?_
  cases spec : s.inSpeculativeEmulation with
  | true =>
      refine Ends.bind (Ends.trivial _) fun _ _ _ => ?_
      rw [ends_bind, leaveInterrupt, ends_modify, if_pos rfl]
      exact True.intro
  | false =>
      refine Ends.bind (hookInterruptTimer_keepsFlag regs frameaddr s ⟨spec, same⟩) ?_
      rintro _ t ⟨_, same⟩
      rw [ends_bind, leaveInterrupt, ends_modify, if_neg (by decide)]
      exact same

/-- So did an exception. -/
theorem exceptionInterrupt_keepsFlag (regs frameaddr : Address) (interrupted : PtRegs)
    (exceptionType : Int)
    : Keeps (fun s => s.isInRt = flag) (fun _ _ => True)
        (exceptionInterrupt env regs frameaddr interrupted exceptionType) := by
  have fails := @kspecemPanic_keepsFlag flag env env.kernel.panicDepth
  have handles (s : Rt) (same : s.isInRt = flag)
      : Ends (hookInterruptException env env.onFail regs frameaddr exceptionType)
          (fun handled t => handled = 1 ∨ t.isInRt = flag) (fun _ _ => True) s := by
    rw [hookInterruptException, ends_bind, ends_get, ends_ite]
    refine ⟨fun _ => Or.inr same, fun _ => ?_⟩
    refine Ends.bind (keeps_ltAssert fails s same) fun _ t same => ?_
    rw [ends_bind, ends_get, ends_bind, ends_get]
    refine Ends.bind (keeps_ltAssert fails t same) fun _ u same => ?_
    rw [ends_bind, ends_get, ends_ite]
    exact ⟨fun _ => Ends.bind (Ends.trivial _) fun _ _ _ => Or.inl rfl, fun _ => Or.inr same⟩
  refine keeps_bind (keeps_modify fun _ same => same) fun _ s same => ?_
  refine Ends.bind (handles s same) fun handled t returned => ?_
  rw [ends_bind, leaveInterrupt, ends_modify, ends_ite]
  exact ⟨fun _ => True.intro, fun passed => returned.resolve_left passed⟩

/-- The actions that are one hook. A branch is four; leaving a section that a checkpoint
left open is its end; a timer `leaving` comes inside the hook before it.
-/
def Action.OneHook : Action → Prop
  | .branch .. => False
  | .leaveRt irqFlags => irqFlags = noCheckpoint
  | .timer leaving _ _ _ => leaving = false
  | _ => True

/-- A checkpoint hook that opens no episode and an interrupt that returns leave the flag. -/
theorem Action.run_passes {action : Action} {s : Rt} (coherent : Coherent env.kernel s)
    (one : action.OneHook) (other : action.MayOpen ∨ action.Interrupts)
    : ¬action.Unguarded s.inSpeculativeEmulation
      ∧ Ends (action.run env)
          (fun _ t =>
            t.inSpeculativeEmulation = s.inSpeculativeEmulation → t.isInRt = s.isInRt)
          (fun _ _ => True) s := by
  cases action with
  | newCheckpoint inInterrupt =>
      refine ⟨id, ?_⟩
      rw [Action.run, ends_bind]
      cases spec : s.inSpeculativeEmulation with
      | true =>
          exact (hookNewCheckpoint_nested spec inInterrupt).imp (fun _ _ refused _ => refused.2)
            (fun _ _ exit => exit)
      | false =>
          refine (hookNewCheckpoint_idle coherent spec inInterrupt).imp ?_ (fun _ _ exit => exit)
          rintro _ t (⟨_, rfl⟩ | ⟨_, stats, rfl⟩)
          · exact fun _ => rfl
          · exact fun opened => absurd opened (by simp [Rt.checkpointed])
  | timer leaving regs frameaddr interrupted =>
      obtain rfl : leaving = false := one
      exact ⟨id, (timerInterrupt_keepsFlag regs frameaddr interrupted s rfl).imp
        (fun _ _ same _ => same) (fun _ _ exit => exit)⟩
  | exception regs frameaddr interrupted exceptionType =>
      exact ⟨id, (exceptionInterrupt_keepsFlag regs frameaddr interrupted exceptionType s rfl).imp
        (fun _ _ same _ => same) (fun _ _ exit => exit)⟩
  | branch saveFrames leaveFrames inInterrupt frameaddress rsp cpu returnAddress =>
      exact one.elim
  | _ => exact (other.elim id id).elim

end

-----------------------------------------------------------------------------------------
-- Runs inside a section
-----------------------------------------------------------------------------------------

/-- A hook runs to completion, and the episode, or its absence, is as before. -/
inductive Machine.Completes (kernel : Kernel) : Machine → Option Event → Machine → Prop
  | hook {m : Machine} {event : Event} {t : Rt} (running : m.phase = .running)
      (placed : event.action.Placed kernel) (one : event.action.OneHook)
      (returned : event.run kernel m.rt = .ok () t)
      (same : t.inSpeculativeEmulation = m.rt.inSpeculativeEmulation)
      : Completes kernel m (some event) ⟨t, .running⟩

/-- One hook: what stays as it was, and what becomes of the flag. -/
theorem Machine.Completes.flag {kernel : Kernel} {m n : Machine} {event : Event}
    (step : m.Completes kernel (some event) n) (inv : Inv kernel (Rider.trivial kernel) m.rt)
    : Inv kernel (Rider.trivial kernel) n.rt
      ∧ n.rt.inSpeculativeEmulation = m.rt.inSpeculativeEmulation
      ∧ (n.rt.isInRt = true
        ↔ m.rt.isInRt = true ∧ ¬event.action.Unguarded m.rt.inSpeculativeEmulation) := by
  cases step with
  | @hook _ t _ placed one returned same =>
      have admitted : event.Admitted kernel (Rider.trivial kernel) m.rt :=
        Rider.trivial_admitted placed
      have kept := (@Action.run_keeps (event.env kernel) _ m.rt event.action placed
        admitted.spares admitted.action inv.standing (Or.inr inv)).of_ok returned
      refine ⟨kept, same, ?_⟩
      by_cases other : event.action.MayOpen ∨ event.action.Interrupts
      · have passes :=
          @Action.run_passes (event.env kernel) event.action m.rt inv.coherent one other
        have flag : t.isInRt = m.rt.isInRt := passes.2.of_ok returned same
        simp [flag, passes.1]
      obtain ⟨closed, hook⟩ := not_or.mp other
      cases inside : m.rt.isInRt with
      | true =>
          have stays (irqFlags : Word) (leaves : event.action = .leaveRt irqFlags)
              : irqFlags = noCheckpoint := by
            rw [leaves] at one
            exact one
          have flag := (@Action.run_flag (event.env kernel) event.action m.rt inv.coherent inside
            closed hook stays).of_ok returned
          simpa using flag
      | false =>
          have clear := (@Action.run_clear (event.env kernel) event.action closed hook m.rt
            inside).of_ok returned
          simp [clear]

/-- Any number of them, by induction on the run. -/
theorem completes_flag {kernel : Kernel} {m n : Machine} {events : List Event}
    (inv : Inv kernel (Rider.trivial kernel) m.rt)
    (run : Trace (Machine.Completes kernel) m events n)
    : Inv kernel (Rider.trivial kernel) n.rt
      ∧ n.rt.inSpeculativeEmulation = m.rt.inSpeculativeEmulation
      ∧ (n.rt.isInRt = true
        ↔ m.rt.isInRt = true
          ∧ ∀ event ∈ events, ¬event.action.Unguarded m.rt.inSpeculativeEmulation) := by
  induction run with
  | refl => exact ⟨inv, rfl, by simp⟩
  | silent _ steps => cases steps
  | visible _ steps ih =>
      obtain ⟨inv, spec, flag⟩ := ih
      obtain ⟨inv, same, next⟩ := steps.flag inv
      refine ⟨inv, same.trans spec, next.trans ?_⟩
      rw [flag, spec]
      simp only [List.mem_append, List.mem_singleton, or_imp, forall_and, forall_eq, and_assoc]

/-- A hook runs from its call to its return. It takes no checkpoint and closes none. -/
inductive Machine.Returns (kernel : Kernel) : Machine → Option Event → Machine → Prop
  | hook {m : Machine} {event : Event} {t : Rt} (running : m.phase = .running)
      (placed : event.action.Placed kernel) (closed : ¬event.action.MayOpen)
      (hook : ¬event.action.Interrupts)
      (stays : ∀ token, event.action = .leaveRt token → token = noCheckpoint)
      (returned : event.run kernel m.rt = .ok () t)
      : Returns kernel m (some event) ⟨t, .running⟩

theorem Machine.Returns.completes {kernel : Kernel} {m n : Machine} {event : Option Event}
    (step : m.Returns kernel event n)
    : m.Completes kernel event n := by
  cases step with
  | @hook event t running placed closed hook stays returned =>
      have same := (@Action.run_keepsSpec (event.env kernel) m.rt.inSpeculativeEmulation
        event.action closed hook m.rt rfl).of_ok returned
      refine .hook running placed ?_ returned same
      cases action : event.action with
      | branch => exact absurd (by rw [action]; exact True.intro) closed
      | timer => exact absurd (by rw [action]; exact True.intro) hook
      | leaveRt irqFlags => exact stays irqFlags action
      | _ => exact True.intro

/-- In every reachable kernel with a section open, through any number of hooks that return:
`kspecem_is_in_rt` is still set exactly if none of them was one that checks no more than
`kspecem_init_done`. In speculation those are the store, block and access hooks and the
restart hook, outside it the restart hook alone.
-/
theorem sections_nest_iff {kernel : Kernel} {m n : Machine} {events : List Event}
    (reached : Reached kernel m) (running : m.phase = .running)
    (inside : m.rt.isInRt = true) (run : Trace (Machine.Returns kernel) m events n)
    : n.rt.isInRt = true
      ↔ ∀ event ∈ events, ¬event.action.Unguarded m.rt.inSpeculativeEmulation := by
  have kept := completes_flag (reached.inv.running running)
    (run.imp fun _ _ _ returns => returns.completes)
  simpa only [inside, true_and] using kept.2.2

/-- A checkpoint was taken, and its section is still open. -/
def sampleSection : Machine :=
  machineAfter [sampleEvent (.newCheckpoint false)] sampleMachine

/-- A call in it, which the flag keeps out, and a store, which it does not. -/
def sampleSectionEvents : List Event :=
  [sampleEvent .checkCallDepth, sampleEvent (.store 0x70000)]

theorem sections_nest_iff_sample
    : (machineAfter sampleSectionEvents sampleSection).rt.isInRt = true
      ↔ ∀ event ∈ sampleSectionEvents,
          ¬event.action.Unguarded sampleSection.rt.inSpeculativeEmulation := by
  refine @sections_nest_iff sampleKernel sampleSection _ _ ?_ rfl rfl ?_
  · exact sampleReached.after (sampleEvent (.newCheckpoint false)) True.intro (by decide)
  · have call : Machine.Returns sampleKernel sampleSection (some (sampleEvent .checkCallDepth))
        (machineAfter [sampleEvent .checkCallDepth] sampleSection) :=
      .hook rfl True.intro id id (fun _ other => Action.noConfusion other) rfl
    have store
        : Machine.Returns sampleKernel (machineAfter [sampleEvent .checkCallDepth] sampleSection)
            (some (sampleEvent (.store 0x70000)))
            (machineAfter sampleSectionEvents sampleSection) :=
      .hook rfl True.intro id id (fun _ other => Action.noConfusion other) rfl
    exact @Trace.visible _ _ _ _ [_] _ _ _ (@Trace.visible _ _ _ _ [] _ _ _ .refl call) store

end Kasper
