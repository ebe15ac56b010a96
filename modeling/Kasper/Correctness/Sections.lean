import Kasper.Correctness.Rider

/-! Rollbacks, logging and runtime sections keep every rider.
A rollback ends the episode; logging and sections leave the rest of the state alone.
-/

namespace Kasper

open ByteMemory Exits

section
variable {env : Env} {X : Rider env.kernel} {onFail : SpecAssert → RtM Unit} {s u : Rt}

/-- The state `t` of a handler after its rollback of `s` returned. -/
structure Settled (kernel : Kernel) (X : Rider kernel) (skip : Address → Bool) (s t : Rt)
    : Prop where
  coherent : Coherent kernel t
  consistent : t.Consistent
  idle : t.inSpeculativeEmulation = false
  landed : X.landed t
  registers : t.registers = s.registers
  kept
    : ∀ b,
        skip (wordOf b) = true
        → ¬s.stack.Holds b
        → b ≠ kernel.swapBranchCondition
        → t.mem b = s.mem b

/-- What a replay of `s` keeps true: the rider's part, and the skipped words as they were. -/
def ReplayKept (X : Rider env.kernel) (skip : Address → Bool) (s : Rt) (n : Nat)
    (mem : Memory)
    : Prop :=
  n ≤ s.log.position ∧ X.replay s n mem ∧ ∀ b, skip (wordOf b) = true → mem b = s.mem b

theorem Rolling.rules {skip : Address → Bool} (rolling : Rolling env.kernel X s)
    (spares : X.spares skip)
    : ReplayRules env.kernel skip s.log (ReplayKept X skip s) := by
  have rules := X.rules s skip rolling.rolls spares
  refine ⟨?_, ?_, ?_⟩
  · intro n mem ⟨bound, left, kept⟩ skips
    exact ⟨Nat.le_of_succ_le bound, rules.skipped n mem left skips, kept⟩
  · intro n mem ⟨bound, left, kept⟩ spared writable
    refine ⟨Nat.le_of_succ_le bound, rules.replayed n mem left spared writable, ?_⟩
    intro b skips
    have aligned := rolling.coherent.aligned n bound
    have outside : ¬Within (s.log.addrs.cell n) 8 b := by
      intro within
      rw [(within_word_iff aligned b).mp within, spared] at skips
      contradiction
    rw [writeWord_outside outside]
    exact kept b skips
  · intro n mem ⟨bound, left, kept⟩ blocked
    exact ⟨Nat.le_of_succ_le bound, rules.blocked n mem left blocked, kept⟩

theorem Rt.Consistent.replaying {P : Nat → Memory → Prop} {stats : Statistics} {n : Nat}
    {u : Rt} (h : s.Consistent) (replaying : Replaying P (s.restarting stats) n u)
    : u.Consistent :=
  h.mono fun failed member =>
    (replaying.failures failed member).imp_right SpecAssert.OfReplay.not_ofStateMachine

/-- Flushing reports is consistent, however it ends. -/
theorem Rt.Consistent.flushExit {ip : Word} {restartType : Int} {t : Rt} {e : Exit}
    (h : s.Consistent) (exit : FlushExit ip restartType s e t)
    : t.Consistent := by
  refine h.mono (fun failed member => (exit.failures failed member).imp_right (fun file => ?_))
  simp [SpecAssert.OfStateMachine, file]

/-- A restart in speculation that counts no frame off ends the episode. -/
theorem restart_rolls {direct : Bool} {restartType : RestartType}
    {callArg frameaddr regs : Address} (handler : Handler env.kernel onFail)
    (rolling : Rolling env.kernel X s) (admitted : X.admits restartType s)
    (rolls : ¬NestedReturn restartType s)
    (spares : X.spares (restartSkips env direct frameaddr regs))
    : Ends (restart env onFail direct restartType callArg frameaddr regs)
        (fun _ t =>
          direct = false
          ∧ Settled env.kernel X (restartSkips env direct frameaddr regs) s t)
        (InvExit env.kernel X) s := by
  have coherent := rolling.coherent
  refine restart_ends ?_ ?_ ?_ ?_
  · intro idle
    rw [rolling.inSpec] at idle
    contradiction
  · intro _ e t ⟨⟨table, _, exit⟩, frame⟩
    refine InvExit.final (exit ▸ trivial) (rolling.consistent.congr ?_) ?_
    · rw [frame]
    · rw [frame]
      exact X.ended_rolls s rolling.rolls
  · exact fun _ nested _ => absurd nested rolls
  intro _ _ stats
  -- a replay cut short can be rolled back again, a finished one has landed
  have stopped (P : Nat → Memory → Prop) (k : Nat) (u : Rt) (fewer : k ≤ s.log.position)
      (replaying : Replaying P (s.restarting stats) k u) (rolls : X.rolls u)
      : Rolling env.kernel X u := by
    refine ⟨coherent.replaying rolling.inSpec fewer replaying, ?_, ?_, rolls⟩
    · exact rolling.consistent.replaying replaying
    · rw [replaying.frame]
      exact rolling.inSpec
  have landed {u : Rt}
        (replayed
          : Replaying (ReplayKept X (restartSkips env direct frameaddr regs) s)
              (s.restarting stats) 0 u)
      (passed : u.specAssert = none) {t : Rt}
      (landed : Landed restartType (u.discarded env.kernel) t)
      : Settled env.kernel X (restartSkips env direct frameaddr regs) s t := by
    have stack : u.stack = s.stack := by
      rw [replayed.frame]
      rfl
    have registers : u.registers = s.registers := by
      rw [replayed.frame]
      rfl
    have discarded := coherent.discarded replayed
    refine ⟨?_, ?_, ?_, ?_, ?_, ?_⟩
    · rw [landed.frame]
      exact discarded.congr rfl rfl rfl rfl rfl (fun _ clear => clear)
    · rw [landed.frame]
      exact (rolling.consistent.replaying replayed).congr rfl
    · rw [landed.frame]
      rfl
    · exact X.rolledBack s stats restartType u t coherent rolling.rolls rolling.inSpec admitted
        (replayed.imp (fun kept => kept.2.1)) passed landed
    · rw [landed.frame]
      exact registers
    · intro b skips outside other
      rw [landed.frame]
      have outside : ¬u.stack.Holds b := by
        rw [stack]
        exact outside
      simp only [Rt.discarded, StackLog.restored, if_neg outside, flag_byte other]
      exact replayed.mem.2.2 b skips
  refine rollBack_ends (P := ReplayKept X (restartSkips env direct frameaddr regs) s)
    handler.quiet ?_ rolling.inSpec rfl (rolling.rules spares) ?_ ?_ ?_ ?_ ?_ ?_ ?_
  · exact coherent.coupled.trans rolling.inSpec
  · exact coherent.allocated.addrsSize ▸ coherent.room
  · exact coherent.allocated.dataSize ▸ coherent.room
  · exact ⟨Nat.le_refl _, X.starts s rolling.rolls, fun _ _ => rfl⟩
  · rintro e u (⟨rfl, k, fewer, replaying⟩ | ⟨_, rfl, reports, failures⟩)
    · have rider := replaying.imp (R := X.replay s) (fun kept => kept.2.1)
      exact InvExit.fault (stopped _ k u (Nat.le_of_lt fewer) replaying
        (X.stopped s stats k u rolling.rolls (Nat.le_of_lt fewer) rider)) true
    · refine InvExit.final trivial (rolling.consistent.mono fun failed member =>
        (failures failed member).imp_right SpecAssert.OfReplay.not_ofStateMachine) ?_
      rw [reports]
      exact X.ended_rolls s rolling.rolls
  · intro u replayed _
    have consistent : u.Consistent := rolling.consistent.replaying replayed
    refine finishRestart_ends handler.loud rfl ?_ ?_ ?_
    · intro e t exit
      have consistent :=
        consistent.congr (t := { u.discarded env.kernel with isInRestart := false }) rfl
      refine InvExit.final exit.ours.final (consistent.flushExit exit) ?_
      have printed : PartFlushed (u.registers .rip) restartType.code u.reports t.reports.printed :=
        exit.printed
      rw [replayed.reports, replayed.frame] at printed
      exact X.ended_rolled s restartType.code _ rolling.rolls rolling.inSpec printed
    · intro indirect passed t settled
      exact ⟨indirect, landed replayed passed settled⟩
    · intro _ passed t settled
      have settled := landed replayed passed settled
      refine ⟨settled.consistent, fun _ => ⟨?_, settled.idle, X.jumped t settled.landed⟩,
        by simp, fun final => final.elim⟩
      exact settled.coherent.congr rfl rfl rfl rfl rfl (fun _ clear => clear)
  · intro u reason replayed _ _
    have consistent : u.Consistent := rolling.consistent.replaying replayed
    refine InvExit.final trivial (consistent.congr rfl) ?_
    have reports : (u.discarded env.kernel).reports = s.reports := replayed.reports
    rw [reports]
    exact X.ended_rolls s rolling.rolls
  · intro u v replayed _ same reports
    refine InvExit.final trivial ((rolling.consistent.replaying replayed).congr same) ?_
    rw [reports, replayed.reports]
    exact X.ended_rolls s rolling.rolls

-----------------------------------------------------------------------------------------
-- Logging
-----------------------------------------------------------------------------------------

/-- A direct restart never returns in speculation, a nested return apart. -/
theorem restart_direct {restartType : RestartType} {callArg frameaddr regs : Address}
    {Q : Int → Rt → Prop} (handler : Handler env.kernel onFail)
    (inv : Inv env.kernel X s) (inSpec : s.inSpeculativeEmulation = true)
    (admitted : X.admits restartType s) (rolls : ¬NestedReturn restartType s)
    (spares : X.spares (restartSkips env true frameaddr regs))
    : Ends (restart env onFail true restartType callArg frameaddr regs) Q
        (InvExit env.kernel X) s := by
  refine (restart_rolls handler (inv.rolling inSpec) admitted rolls spares).imp ?_
    (fun _ _ exit => exit)
  intro _ _ returned
  exact absurd returned.1 (by decide)

/-- The restarts the runtime makes by itself are admitted. -/
theorem restart_flushing {restartType : RestartType} {callArg : Address}
    {Q : Int → Rt → Prop} (handler : Handler env.kernel onFail)
    (inv : Inv env.kernel X s) (inSpec : s.inSpeculativeEmulation = true)
    (flushes : restartType.Flushes) (other : restartType ≠ .restartReturn)
    (spares : X.spares (restartSkips env true 0 0))
    : Ends (restart env onFail true restartType callArg 0 0) Q (InvExit env.kernel X) s :=
  restart_direct handler inv inSpec (X.admits_flush restartType s flushes other)
    (fun nested => other nested.2.1) spares

/-- An entry is filled for the word, or reading it faults. -/
theorem appendEntry_keeps {w : Address} {t : Rt} (inv : InvBusy env.kernel X u t)
    (inSpec : t.inSpeculativeEmulation = true) (aligned : wordOf w = w)
    (room : t.log.position < logCapacity)
    : Ends (appendEntry env w)
        (fun _ v => InvBusy env.kernel X u v ∧ v = t.appended w env.frames.returnAddress)
        (InvExit env.kernel X) t := by
  have coherent := inv.1.coherent
  have allocated := coherent.allocated
  refine appendEntry_ends ?_ ?_ ?_ ?_
  · have busy := Busy.appended t w env.frames.returnAddress
    refine ⟨⟨⟨?_, ?_, ?_⟩, inv.2.trans busy⟩, rfl⟩
    · exact coherent.appended inSpec aligned room _
    · exact inv.1.consistent.congr rfl
    · exact X.appended t w _ coherent inv.1.holds inSpec aligned room
  · exact fun null => absurd null (allocated.slot_ne room)
  · refine InvExit.fault ⟨coherent.scratched w, ?_, inSpec, ?_⟩ false
    · exact inv.1.consistent.congr rfl
    · exact X.scratched t w inv.1.holds inSpec
  · refine fun out => absurd ⟨?_, ?_, ?_⟩ out
    · exact allocated.addrsSize ▸ room
    · exact allocated.dataSize ▸ room
    · exact allocated.metasSize ▸ room

/-- Logging an aligned word in speculation returns with the word in the log, unless it is
one the log passes over. Every failure leads on or ends the episode.
-/
theorem writeWlAligned_keeps {w : Address} {t : Rt} (handler : Handler env.kernel onFail)
    (spares : X.spares (restartSkips env true 0 0)) (inv : InvBusy env.kernel X u t)
    (inSpec : t.inSpeculativeEmulation = true) (aligned : wordOf w = w)
    : Ends (writeWlAligned env onFail w)
        (fun _ v => InvBusy env.kernel X u v ∧ Busy t v ∧ Admitted env.kernel [w] t v)
        (InvExit env.kernel X) t := by
  have allocated := inv.1.coherent.allocated
  simp only [writeWlAligned, ends_bind, ends_get]
  refine ends_ltAssert_pos inv.1.coherent.coupled ?_
  refine ends_ltAssert_pos allocated.addrsBase (ends_ltAssert_pos allocated.dataBase ?_)
  by_cases full : t.log.position ≥ writelogMaxlen * 2
  · rw [if_pos full]
    exact Ends.bind (restart_flushing (Q := fun _ _ => False) handler inv.1 inSpec
      (by decide) (by decide) spares) (fun _ _ no => no.elim)
  rw [if_neg full]
  have room : t.log.position < logCapacity := Nat.lt_of_not_le full
  simp only [ends_bind, ends_get]
  refine ends_ltAssert_pos room (ends_ltAssert_pos room ?_)
  -- behind the assertions the log is as it was, whether or not one of them failed
  have append (v : Rt) (kept : InvBusy env.kernel X t v) (same : v.log = t.log)
      (outside : t.isInRestart = false → t.log.Outside w)
      : Ends
          (if w = env.kernel.wlPosition then pure ()
          else if w = env.kernel.writelogEnabled then pure ()
          else appendEntry env w)
          (fun _ v => InvBusy env.kernel X u v ∧ Busy t v ∧ Admitted env.kernel [w] t v)
          (InvExit env.kernel X) v := by
    have outside (idle : t.isInRestart = false) : ∀ x ∈ [w], t.log.Outside x := by
      intro x single
      rw [List.mem_singleton.mp single]
      exact outside idle
    have passed (passes : env.kernel.PassesOver w) : Admitted env.kernel [w] t v := by
      refine ⟨?_, by rw [same], by rw [same], outside⟩
      rw [env.kernel.recorded_passed passes, List.append_nil, same]
    simp only [ends_ite, ends_pure]
    refine ⟨fun position => ?_, fun other => ⟨fun enabled => ?_, fun different => ?_⟩⟩
    · exact ⟨kept.trans inv.2, kept.2, passed (Or.inl position)⟩
    · exact ⟨kept.trans inv.2, kept.2, passed (Or.inr enabled)⟩
    · refine (appendEntry_keeps kept (kept.2.inSpec.trans inSpec) aligned
        (same ▸ room)).imp ?_ (fun _ _ exit => exit)
      rintro _ v' ⟨appended, rfl⟩
      have logged : ¬env.kernel.PassesOver w := fun passes => passes.elim other different
      refine ⟨appended.trans inv.2, appended.2, ?_, ?_, ?_, outside⟩
      · rw [appended_words, same, env.kernel.recorded_logged logged]
      · exact congrArg (fun log => log.addrs.base) same
      · exact congrArg (fun log => log.data.base) same
  refine (handler.ltAssert inv.1.busy (by decide)).imp ?_ (fun _ _ exit => exit)
  rintro _ v ⟨kept, same⟩
  have logSame : v.log = t.log := by
    rcases same with ⟨_, rfl⟩ | ⟨_, _, _, rfl⟩ <;> rfl
  have addrs (idle : t.isInRestart = false)
      : w < t.log.addrs.base ∨ w ≥ t.log.addrs.base + BitVec.ofNat 64 writelogBytes := by
    rcases same with ⟨clear, _⟩ | ⟨_, _, restarts, _⟩
    · exact clear
    · exact absurd (restarts.symm.trans idle) (by decide)
  refine (handler.ltAssert kept (by decide)).imp ?_ (fun _ _ exit => exit)
  rintro _ v' ⟨kept', same'⟩
  have data (idle : t.isInRestart = false)
      : w < t.log.data.base ∨ w ≥ t.log.data.base + BitVec.ofNat 64 writelogBytes := by
    rcases same' with ⟨clear, _⟩ | ⟨_, _, restarts, _⟩
    · exact clear
    · exact absurd (restarts.symm.trans (kept.2.inRestart.trans idle)) (by decide)
  refine append v' kept' ?_ (fun idle => ⟨addrs idle, data idle⟩)
  rcases same' with ⟨_, rfl⟩ | ⟨_, _, _, rfl⟩
  · exact logSame
  · exact logSame

/-- Logging any address in speculation logs the one or two words its eight bytes lie in. -/
theorem store_keeps {a : Address} {t : Rt} (handler : Handler env.kernel onFail)
    (spares : X.spares (restartSkips env true 0 0)) (inv : InvBusy env.kernel X u t)
    (inSpec : t.inSpeculativeEmulation = true)
    : Ends (store env onFail a)
        (fun _ v => InvBusy env.kernel X u v ∧ Admitted env.kernel (savedWords a) t v)
        (InvExit env.kernel X) t := by
  rw [store, writeWl]
  by_cases aligned : a = wordOf a
  · rw [if_neg (fun unaligned => unaligned aligned), savedWords_aligned aligned]
    refine (writeWlAligned_keeps handler spares inv inSpec (wordOf_wordOf a)).imp ?_
      (fun _ _ exit => exit)
    rintro _ v ⟨kept, _, admitted⟩
    exact ⟨kept, admitted⟩
  · rw [if_pos (show a ≠ alignDown 3 a from aligned), savedWords_unaligned aligned]
    refine Ends.bind (writeWlAligned_keeps handler spares inv inSpec (wordOf_add_eight a)) ?_
    rintro _ t' ⟨kept, busy, second⟩
    refine (writeWlAligned_keeps handler spares kept (busy.inSpec.trans inSpec)
      (wordOf_wordOf a)).imp ?_ (fun _ _ exit => exit)
    rintro _ v ⟨kept, _, first⟩
    exact ⟨kept, second.trans first busy.inRestart⟩

theorem memcpyLoop_keeps {stop : Address} (handler : Handler env.kernel onFail)
    (spares : X.spares (restartSkips env true 0 0)) (fuel : Nat) {reg : Address} {t : Rt}
    (inv : InvBusy env.kernel X u t) (inSpec : t.inSpeculativeEmulation = true)
    : Ends (memcpyLoop env onFail stop fuel reg)
        (fun _ v => InvBusy env.kernel X u v) (InvExit env.kernel X) t := by
  induction fuel generalizing reg t with
  | zero => exact InvExit.final trivial inv.1.consistent (X.ended_holds t inv.1.holds)
  | succ fuel ih =>
      rw [memcpyLoop, ends_ite]
      refine ⟨fun _ => ?_, fun _ => inv⟩
      refine Ends.bind (store_keeps handler spares inv.1.busy inSpec) ?_
      rintro _ v ⟨kept, _⟩
      exact ih (kept.trans inv.2) (kept.2.inSpec.trans inSpec)

theorem localIrqSave_keeps
    : Keeps (InvBusy env.kernel X u) (InvExit env.kernel X) localIrqSave := by
  intro t inv
  simp only [localIrqSave, ends_bind, ends_get, ends_modify, ends_pure]
  exact inv.section_ t.isInRt false

theorem enterKspecemNonmiRt_keeps
    : Keeps (InvBusy env.kernel X u) (InvExit env.kernel X) enterKspecemNonmiRt :=
  keeps_bind (keeps_modify fun t inv => inv.section_ true t.irqsEnabled)
    fun _ => localIrqSave_keeps

theorem leaveKspecemNonmiRt_keeps (handler : Handler env.kernel onFail) (line : Nat)
    (irqFlags : Word)
    (other
      : ¬SpecAssert.OfStateMachine ⟨"kspecem_interface.c", line, "irqs_disabled()"⟩)
    : Keeps (InvBusy env.kernel X u) (InvExit env.kernel X)
        (leaveKspecemNonmiRt onFail line irqFlags) :=
  keeps_get_bind fun t inv =>
    keeps_bind (handler.keeps_ltAssert other)
      (fun _ =>
        keeps_bind (keeps_modify fun t inv => inv.section_ t.isInRt (irqsEnabledIn irqFlags))
          fun _ => keeps_modify fun t inv => inv.section_ false t.irqsEnabled)
      t inv

/-- The store hook saves its words when it returns in speculation. -/
theorem hookStore_keeps {a : Address} {t : Rt} (handler : Handler env.kernel onFail)
    (spares : X.spares (restartSkips env true 0 0)) (inv : InvBusy env.kernel X u t)
    : Ends (hookStore env onFail a)
        (fun _ v => InvBusy env.kernel X u v ∧ v.Saved env.kernel a)
        (InvExit env.kernel X) t := by
  simp only [hookStore, ends_bind, ends_get, ends_ite, ends_pure]
  refine ⟨fun disabled => ⟨inv, ?_⟩, fun enabled => ⟨fun early => ?_, fun _ => ?_⟩⟩
  · have idle := inv.1.coherent.coupled.symm.trans disabled
    exact fun inSpec => absurd (inSpec.symm.trans idle) (by decide)
  · exact absurd (inv.1.coherent.initDone.symm.trans early) (by decide)
  have inSpec := inv.1.coherent.coupled.symm.trans (Bool.of_not_eq_false enabled)
  refine (enterKspecemNonmiRt_keeps t inv.1.busy).imp ?_ (fun _ _ exit => exit)
  intro irqFlags v kept
  have entered := kept.trans inv.2
  refine (store_keeps handler spares entered (kept.2.inSpec.trans inSpec)).imp ?_
    (fun _ _ exit => exit)
  rintro _ v' ⟨stored, admitted⟩
  have saved : v'.Saved env.kernel a := fun _ w saved => words_saved admitted.logged saved
  refine (leaveKspecemNonmiRt_keeps handler 125 irqFlags (by decide) v' stored.1.busy).imp ?_
    (fun _ _ exit => exit)
  intro _ v'' left
  exact ⟨left.trans stored.2, left.2.saved saved⟩

/-- `stop_nmi` and `restart_nmi`: the counter changes after its word was saved. -/
theorem countNmi_keeps (handler : Handler env.kernel onFail)
    (spares : X.spares (restartSkips env true 0 0)) (delta : Word)
    : Keeps (InvBusy env.kernel X u) (InvExit env.kernel X) (countNmi env onFail delta) := by
  intro t inv
  refine Ends.bind (hookStore_keeps handler spares inv) ?_
  rintro _ v ⟨kept, saved⟩
  refine ⟨⟨kept.1.coherent.counted delta, kept.1.consistent.congr rfl, ?_⟩, ?_⟩
  · exact X.counted v delta kept.1.coherent kept.1.holds saved
  · exact kept.2.trans ⟨rfl, id, fun _ => id⟩

theorem enterKspecemRt_keeps (handler : Handler env.kernel onFail)
    (spares : X.spares (restartSkips env true 0 0))
    : Keeps (InvBusy env.kernel X u) (InvExit env.kernel X) (enterKspecemRt env onFail) :=
  keeps_bind (keeps_modify fun t inv => inv.section_ true t.irqsEnabled) fun _ =>
    keeps_bind localIrqSave_keeps fun _ =>
      keeps_bind (countNmi_keeps handler spares 1) fun _ => keeps_pure _

theorem leaveKspecemRt_keeps (handler : Handler env.kernel onFail)
    (spares : X.spares (restartSkips env true 0 0)) (line : Nat) (irqFlags : Word)
    (other
      : ¬SpecAssert.OfStateMachine ⟨"kspecem_interface.c", line, "irqs_disabled()"⟩)
    : Keeps (InvBusy env.kernel X u) (InvExit env.kernel X)
        (leaveKspecemRt env onFail line irqFlags) :=
  keeps_get_bind fun t inv =>
    keeps_bind (handler.keeps_ltAssert other)
      (fun _ =>
        keeps_bind (countNmi_keeps handler spares (-1)) fun _ =>
          keeps_bind
            (keeps_modify fun t inv => inv.section_ t.isInRt (irqsEnabledIn irqFlags))
            fun _ => keeps_modify fun t inv => inv.section_ false t.irqsEnabled)
      t inv

-----------------------------------------------------------------------------------------
-- Restarts and failed assertions
-----------------------------------------------------------------------------------------

/-- A direct restart returns outside speculation and where it counts a frame off. -/
theorem restart_returns {restartType : RestartType} {callArg : Address}
    (handler : Handler env.kernel onFail) (spares : X.spares (restartSkips env true 0 0))
    (inv : Inv env.kernel X s) (admitted : X.admits restartType s)
    : Ends (restart env onFail true restartType callArg 0 0)
        (fun _ t =>
          Inv env.kernel X t
          ∧ (s.inSpeculativeEmulation = true → NestedReturn restartType s))
        (InvExit env.kernel X) s := by
  cases spec : s.inSpeculativeEmulation with
  | false =>
      rw [restart, ends_bind, ends_get, if_pos spec]
      exact ⟨inv, fun inSpec => by contradiction⟩
  | true =>
      by_cases nested : NestedReturn restartType s
      · refine restart_ends ?_ ?_ ?_ ?_
        · intro idle
          rw [spec] at idle
          contradiction
        · intro _ e t left
          obtain ⟨⟨table, _, exit⟩, frame⟩ := left
          refine InvExit.final (exit ▸ trivial) (inv.consistent.congr ?_) ?_
          · rw [frame]
          · rw [frame]
            exact X.ended_holds s inv.holds
        · intro _ _ stats
          refine ⟨⟨?_, inv.consistent.congr rfl, ?_⟩, fun _ => nested⟩
          · have restarting : Coherent env.kernel (s.restarting stats) :=
              inv.coherent.congr rfl rfl rfl rfl rfl (fun _ clear => clear)
            exact restarting.redepth spec _
          · exact X.nested s stats restartType inv.holds spec admitted nested
        · exact fun _ rolls => absurd nested rolls
      · exact restart_direct handler inv spec admitted nested spares

/-- The restart hook returns outside speculation and where it counts a frame off. -/
theorem hookRestart_returns {restartType : RestartType} {callArg : Address}
    (handler : Handler env.kernel onFail) (spares : X.spares (restartSkips env true 0 0))
    (inv : Inv env.kernel X s) (admitted : X.admits restartType s)
    : Ends (hookRestart env onFail true restartType callArg)
        (fun _ t =>
          Inv env.kernel X t
          ∧ (s.inSpeculativeEmulation = true → NestedReturn restartType s))
        (InvExit env.kernel X) s := by
  rw [hookRestart, ends_bind, ends_get, if_neg (by simp [inv.coherent.initDone])]
  refine Ends.bind (enterKspecemRt_keeps handler spares s inv.busy) ?_
  intro irqFlags t entered
  have admitted := X.admits_busy s t restartType entered.2 admitted
  refine Ends.bind (restart_returns handler spares entered.1 admitted) ?_
  rintro _ v ⟨kept, nested⟩
  refine Ends.bind (leaveKspecemRt_keeps handler spares 102 irqFlags (by decide) v kept.busy) ?_
  intro _ w left
  refine ⟨left.1, fun inSpec => ?_⟩
  exact entered.2.nested (nested (entered.2.inSpec.trans inSpec))

/-- `kspecem_panic` handles failures as every function needs, by induction on the room. -/
theorem kspecemPanic_handler (env : Env) (depth : Nat)
    : Handler env.kernel (kspecemPanic env depth) where
  quiet := kspecemPanic_quiet_or_overflow env depth
  loud := kspecemPanic_loud env depth
  rollsBack := by
    induction depth with
    | zero =>
        intro failed s _ consistent other _ _
        exact ⟨consistent.cons other rfl, by decide, by simp, fun _ => ⟨0, .none⟩⟩
    | succ depth ih =>
        intro failed s coherent consistent other inSpec restarts
        have handler : Handler env.kernel (kspecemPanic env depth) :=
          ⟨kspecemPanic_quiet_or_overflow env depth, kspecemPanic_loud env depth, ih⟩
        have inv : Inv env.kernel (Rider.ofDoomed env.kernel s.reports s.registers)
            (s.recordFailure failed) := {
          coherent := coherent.congr rfl rfl rfl rfl rfl (fun _ clear => clear)
          consistent := consistent.cons other rfl
          holds := ⟨by simp [Rt.recordFailure], inSpec, rfl, rfl⟩
        }
        rw [kspecemPanic, kspecemPanicWith, ends_bind, ends_modify, ends_bind, ends_get,
          if_pos inSpec, ends_bind, ends_modify, ends_bind, ends_get, if_pos restarts,
          ends_bind]
        refine (hookRestart_returns handler True.intro inv True.intro).imp ?_
          (fun _ _ exit => exit.doomed)
        rintro _ t ⟨_, nested⟩
        exact absurd (nested inSpec).2.1 (by decide)

/-- What `lt_assert` calls on failure handles failures. -/
theorem Env.handler (env : Env) : Handler env.kernel env.onFail :=
  kspecemPanic_handler env env.kernel.panicDepth

end

end Kasper
