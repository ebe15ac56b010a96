import Kasper.Correctness.Logging
import Kasper.Runtime.Machine
import Kasper.Runtime.Sample

/-! From a checkpoint through any sequence of logged writes, memcpys and writes to the saved
frame, a rollback gives back the memory of the checkpoint.
-/

namespace Kasper

open ByteMemory Exits UndoLog

/-- `kspecem_new_checkpoint` followed by `kspecem_save_stack`. -/
def takeCheckpoint (env : Env) (frameaddress rsp : Address) : RtM Unit := do
  let _ ← newCheckpoint env env.onFail
  saveStack env.onFail frameaddress rsp

/-- A write of an episode, with the hook before it and the stack addresses the hook ran
with. The written bytes may be none: the episode then ended between the hook and its write.
-/
inductive UndoEvent
  | store (frames : Frames) (addr : Address) (bytes : List Byte)
  | memcpy (frames : Frames) (addr : Address) (size : Word) (target : Address)
      (bytes : List Byte)
  | frame (target : Address) (bytes : List Byte)

/-- One call of `kspecem_restart`. -/
structure Attempt where
  frames : Frames
  direct : Bool
  restartType : RestartType
  callArg : Address
  frameaddr : Address
  regs : Address

section
variable (kernel : Kernel) (task : Task)

def UndoEvent.run : UndoEvent → RtM Unit
  | .store frames addr bytes => do
      let env : Env := { kernel, frames, task }
      Kasper.store env env.onFail addr
      programWrite kernel addr bytes
  | .memcpy frames addr size target bytes => do
      let env : Env := { kernel, frames, task }
      Kasper.memcpy env env.onFail addr size
      programWrite kernel target bytes
  | .frame target bytes => programWrite kernel target bytes

def runEvents : List UndoEvent → RtM Unit
  | [] => pure ()
  | event :: rest => do
      event.run kernel task
      runEvents rest

def Attempt.run (attempt : Attempt) : RtM Int :=
  let env : Env := { kernel, frames := attempt.frames, task }
  restart env env.onFail attempt.direct attempt.restartType attempt.callArg attempt.frameaddr
    attempt.regs

/-- Restarts inside one another: each one after the first is the handler's for a fault of
the one before.
-/
def runAttempts (first : Attempt) : List Attempt → RtM Int
  | [] => first.run kernel task
  | next :: rest =>
      tryCatch (first.run kernel task) fun
        | .fault _ => runAttempts next rest
        | e => throw e

/-- The end of an episode: one more event, which may fault or find the log full, and the
restarts that follow unless its hook has already jumped back.
-/
def endEpisode (last : Option UndoEvent) (first : Attempt) (nested : List Attempt)
    : RtM Int :=
  match last with
  | none => runAttempts kernel task first nested
  | some event => do
      tryCatch (event.run kernel task) fun
        | .fault _ => pure ()
        | e => throw e
      runAttempts kernel task first nested

/-- The words a full log's rollback in an event's hook leaves alone. -/
def UndoEvent.Skips : UndoEvent → Address → Prop
  | .store frames _ _, w | .memcpy frames _ _ _ _, w =>
      restartSkips { kernel, frames, task } true 0 0 w = true
  | .frame _ _, _ => False

/-- The words a restart's replay leaves alone. -/
def Attempt.Skips (attempt : Attempt) (w : Address) : Prop :=
  restartSkips { kernel, frames := attempt.frames, task } attempt.direct attempt.frameaddr
    attempt.regs w = true

/-- The words that some rollback at the end of an episode leaves alone. -/
def EndSkips (last : Option UndoEvent) (attempts : List Attempt) (w : Address) : Prop :=
  (∃ event, last = some event ∧ event.Skips kernel task w)
  ∨ ∃ attempt ∈ attempts, attempt.Skips kernel task w

/-- An event of the kinds an episode may hold: a write of at most eight bytes at the hooked
address, a write inside the hooked range, or one inside the saved frame, where no hooked
word lies in the runtime's own memory.
-/
def UndoEvent.Fits (s : Rt) : UndoEvent → Prop
  | .store _ addr bytes =>
      bytes.length ≤ 8 ∧ ∀ w, SavedBy addr w → s.log.Clear kernel w
  | .memcpy _ addr size target bytes =>
      addr.toNat + size.toNat < 2 ^ 64
      ∧ (∀ b, Within target bytes.length b → Within addr size.toNat b)
      ∧ ∀ w, LoopHooks (alignDown 2 addr) (addr + size) w → s.log.Clear kernel w
  | .frame target bytes => ∀ b, Within target bytes.length b → s.stack.Holds b

end

/-- The parts of a state that the events of an episode leave alone. -/
def SameLayout (s t : Rt) : Prop :=
  t.log.addrs.base = s.log.addrs.base
  ∧ t.log.data.base = s.log.data.base
  ∧ t.stack = s.stack

theorem SameLayout.trans {s t u : Rt} (first : SameLayout s t) (second : SameLayout t u)
    : SameLayout s u :=
  ⟨second.1.trans first.1, second.2.1.trans first.2.1, second.2.2.trans first.2.2⟩

theorem SameLayout.fits {kernel : Kernel} {s t : Rt} (same : SameLayout s t)
    {event : UndoEvent} (fits : event.Fits kernel s)
    : event.Fits kernel t := by
  have clear {w : Address} (clear : s.log.Clear kernel w) : t.log.Clear kernel w := by
    refine ⟨?_, ?_, clear.position, clear.enabled⟩
    · rw [same.1]
      exact clear.addrs
    · rw [same.2.1]
      exact clear.data
  cases event with
  | store frames addr bytes => exact ⟨fits.1, fun w saved => clear (fits.2 w saved)⟩
  | memcpy frames addr size target bytes =>
      exact ⟨fits.1, fits.2.1, fun w hooked => clear (fits.2.2 w hooked)⟩
  | frame target bytes =>
      intro b within
      rw [same.2.2]
      exact fits b within

theorem Grown.sameLayout {s t : Rt} (h : Grown s t) : SameLayout s t :=
  ⟨h.addrsBase, h.dataBase, h.stack⟩

section
variable {kernel : Kernel} {task : Task} {skips : Address → Prop} {start : Memory} {s : Rt}

/-- A write to logged words or the saved frame keeps a state recoverable. -/
theorem programWrite_recovers {target : Address} {bytes : List Byte}
    (h : Recoverable kernel skips start s)
    (covered
      : ∀ b, Within target bytes.length b → s.stack.Holds b ∨ s.log.Has (wordOf b))
    : Ends (programWrite kernel target bytes)
        (fun _ t => Recoverable kernel skips start t ∧ SameLayout s t)
        (fun e t => ∃ isWrite, e = .fault isWrite ∧ Recoverable kernel skips start t) s := by
  simp only [programWrite, ends_ite, ends_modify, ends_throw]
  refine ⟨fun writable => ⟨?_, rfl, rfl, rfl⟩, fun _ => ⟨true, rfl, h⟩⟩
  refine ⟨h.inSpec, h.enabled, h.shallow, ?_, h.fits, h.saved⟩
  refine h.sound.write (fun b bound => ?_) (fun b _ readOnly => ?_)
  · by_cases within : Within target bytes.length b
    · rcases covered b within with holds | has
      · exact absurd (Or.inl holds) bound
      · exact Or.inr has.logged
    · exact Or.inl (writeBytes_outside within)
  · refine writeBytes_outside (fun within => ?_)
    have allowed := writable ⟨_, within⟩
    rw [BitVec.ofNat_toNat, BitVec.setWidth_eq, BitVec.add_comm, BitVec.sub_add_cancel,
      readOnly] at allowed
    contradiction

/-- One event keeps a state recoverable, or leaves by a rollback of its hook. -/
theorem UndoEvent.run_recovers {event : UndoEvent} (h : Recoverable kernel skips start s)
    (fits : event.Fits kernel s)
    : Ends (event.run kernel task)
        (fun _ t => Recoverable kernel skips start t ∧ SameLayout s t)
        (RestartExit kernel (fun w => skips w ∨ event.Skips kernel task w) start) s := by
  have wide (w : Address) (skip : skips w) : skips w ∨ event.Skips kernel task w :=
    Or.inl skip
  -- the write the hook stands before, with the words its hook has logged
  have write {target : Address} {bytes : List Byte} {t : Rt}
      (kept : Recoverable kernel skips start t) (same : SameLayout s t)
      (covered
        : ∀ b, Within target bytes.length b → t.stack.Holds b ∨ t.log.Has (wordOf b))
      : Ends (programWrite kernel target bytes)
          (fun _ u => Recoverable kernel skips start u ∧ SameLayout s u)
          (RestartExit kernel (fun w => skips w ∨ event.Skips kernel task w) start) t := by
    refine (programWrite_recovers kept covered).imp ?_ ?_
    · exact fun _ u both => ⟨both.1, same.trans both.2⟩
    · rintro _ u ⟨_, rfl, kept⟩
      exact kept.mono wide
  have quiet (frames : Frames) :=
    kspecemPanic_quiet { kernel, frames, task } kernel.panicDepth_pos
  have loud (frames : Frames) := kspecemPanic_loud { kernel, frames, task } kernel.panicDepth
  cases event with
  | store frames addr bytes =>
      have h : Recoverable (Env.kernel { kernel, frames, task }) skips start s := h
      refine Ends.bind (writeWl_recovers h wide (fun w skip => Or.inr skip) (quiet frames)
        (loud frames) (fun _ => fits.2)) ?_
      rintro _ t ⟨⟨kept, grown, saved⟩, _⟩
      refine write kept grown.sameLayout (fun b within => Or.inr (saved _ ?_))
      exact savedBy_of_within within fits.1
  | memcpy frames addr size target bytes =>
      have h : Recoverable (Env.kernel { kernel, frames, task }) skips start s := h
      obtain ⟨noWrap, inside, clear⟩ := fits
      refine Ends.bind (memcpyLoop_recovers h wide (fun w skip => Or.inr skip) (quiet frames)
        (loud frames) ?_ ?_) ?_
      · have rounds : logCapacity < memcpyRounds := by decide
        omega
      · intro k room before w saved
        exact clear w ⟨k, by omega, before, saved⟩
      rintro _ t ⟨kept, grown, saved⟩
      refine write kept grown.sameLayout (fun b within => Or.inr (saved _ ⟨b, ?_, ?_, rfl⟩))
      · have within := inside b within
        rw [Within, BitVec.toNat_sub] at within
        rw [BitVec.le_def, toNat_alignDown]
        omega
      · have within := inside b within
        rw [Within, BitVec.toNat_sub] at within
        rw [BitVec.lt_def, BitVec.toNat_add]
        omega
  | frame target bytes =>
      exact write h ⟨rfl, rfl, rfl⟩ (fun b within => Or.inl (fits b within))

/-- Events that all return leave a recoverable state, by induction on the events. -/
theorem runEvents_recovers {events : List UndoEvent} (h : Recoverable kernel skips start s)
    (fits : ∀ event ∈ events, event.Fits kernel s)
    : Ends (runEvents kernel task events)
        (fun _ t => Recoverable kernel skips start t ∧ SameLayout s t) (fun _ _ => True) s := by
  induction events generalizing s with
  | nil => exact ⟨h, rfl, rfl, rfl⟩
  | cons event rest ih =>
      refine Ends.bind ((UndoEvent.run_recovers h (fits event List.mem_cons_self)).imp
        (fun _ _ kept => kept) (fun _ _ _ => trivial)) ?_
      rintro _ t ⟨kept, same⟩
      have later (other : UndoEvent) (member : other ∈ rest) : other.Fits kernel t :=
        same.fits (fits other (List.mem_cons_of_mem _ member))
      exact (ih kept later).imp (fun _ u both => ⟨both.1, same.trans both.2⟩)
        (fun _ _ exit => exit)

theorem Attempt.run_restores {attempt : Attempt} {wider : Address → Prop}
    (h : Recoverable kernel skips start s) (wide : ∀ w, skips w → wider w)
    (range : ∀ w, attempt.Skips kernel task w → wider w)
    : Ends (attempt.run kernel task) (fun r t => r = 0 ∧ Restored kernel wider start t)
        (RestartExit kernel wider start) s := by
  have h : Recoverable (Env.kernel { kernel, frames := attempt.frames, task }) skips start s := h
  refine (restart_recovers h wide range (kspecemPanic_quiet _ kernel.panicDepth_pos)
    (kspecemPanic_loud _ _)).imp ?_ (fun _ _ exit => exit)
  exact fun _ _ ⟨_, zero, restored⟩ => ⟨zero, restored⟩

/-- Restarts inside one another restore memory, by induction on the nesting: a fault leaves
a recoverable state to the next one.
-/
theorem runAttempts_restores {first : Attempt} {nested : List Attempt}
    {wider : Address → Prop} (h : Recoverable kernel skips start s)
    (wide : ∀ w, skips w → wider w)
    (range : ∀ attempt ∈ first :: nested, ∀ w, attempt.Skips kernel task w → wider w)
    : Ends (runAttempts kernel task first nested)
        (fun r t => r = 0 ∧ Restored kernel wider start t) (RestartExit kernel wider start)
        s := by
  induction nested generalizing first s skips with
  | nil => exact first.run_restores h wide (range first List.mem_cons_self)
  | cons next rest ih =>
      rw [runAttempts, ends_tryCatch]
      refine (first.run_restores h wide (range first List.mem_cons_self)).imp
        (fun _ _ done => done) (fun e t exit => ?_)
      cases e with
      | fault isWrite =>
          exact ih exit (fun _ skip => skip)
            (fun attempt member => range attempt (List.mem_cons_of_mem _ member))
      | resumed => exact exit
      | panicked reason => exact exit
      | outOfBounds table => exact exit
      | stackOverflow => exact exit
      | diverged => exact exit

/-- `kspecem_save_stack` on a frame that fits saves the bytes of memory. -/
theorem saveStack_recoverable {onFail : SpecAssert → RtM Unit} {frameaddress rsp : Address}
    (inSpec : s.inSpeculativeEmulation = true) (enabled : s.log.enabled = true)
    (shallow : s.specCallDepth = 0) (empty : s.log.position = 0)
    (allocated : s.log.Allocated) (buffer : s.stack.stack.size = stacklogMaxlen)
    (base : s.stack.stack.base ≠ 0) (frame : frameaddress ≠ 0) (stack : rsp ≠ 0)
    (small : (frameaddress - rsp).toNat ≤ stacklogMaxlen)
    : Ends (saveStack onFail frameaddress rsp)
        (fun _ t => Recoverable kernel (fun _ => False) t.mem t) (fun _ _ => True) s := by
  have fits : (frameaddress - rsp).toNat ≤ s.stack.stack.size := buffer ▸ small
  simp only [saveStack, copyToStackLog, ends_bind, ends_modify, ends_get]
  refine ends_ltAssert_pos frame (ends_ltAssert_pos stack (ends_ltAssert_pos small ?_))
  refine ends_ltAssert_pos base ?_
  rw [ends_ite]
  refine ⟨fun _ => ?_, fun past => absurd fits past⟩
  rw [ends_modify, if_neg base]
  refine ⟨inSpec, enabled, shallow, ?_, fits, ?_⟩
  · rw [empty]
    exact LogSound.empty allocated
  · intro b holds
    have within := holds
    simp only [StackLog.Holds, Within] at within
    simp only [if_pos within, BitVec.ofNat_toNat, BitVec.setWidth_eq]
    rw [BitVec.add_comm, BitVec.sub_add_cancel]

/-- Taking a checkpoint leaves a recoverable state whose memory is the checkpoint's. -/
theorem takeCheckpoint_recoverable {env : Env} {frameaddress rsp : Address}
    (idle : s.inSpeculativeEmulation = false) (allocated : s.log.Allocated)
    (buffer : s.stack.stack.size = stacklogMaxlen) (frame : frameaddress ≠ 0)
    (stack : rsp ≠ 0) (small : (frameaddress - rsp).toNat ≤ stacklogMaxlen)
    : Ends (takeCheckpoint env frameaddress rsp)
        (fun _ t => Recoverable env.kernel (fun _ => False) t.mem t) (fun _ _ => True) s := by
  refine Ends.bind
    (R := fun _ t =>
      s.stack.stack.base ≠ 0 ∧ ∃ stats, t = s.checkpointed env.kernel stats)
    (newCheckpoint_ends (kspecemPanic_loud env _) idle (fun base stats => ⟨base, stats, rfl⟩)
      (fun _ _ _ => trivial)) ?_
  rintro _ _ ⟨base, stats, rfl⟩
  exact saveStack_recoverable rfl rfl rfl rfl (allocated.congr ⟨rfl, rfl⟩ ⟨rfl, rfl⟩ rfl) buffer
    base frame stack small

/-- After a checkpoint and any events that all returned, every way to end the episode gives
back the checkpoint's memory, the words apart that one of its rollbacks had to skip outside
the saved frame, and no log array is indexed past its end.
-/
theorem rollback_restores_memory {env : Env} {frameaddress rsp : Address} {s₀ t : Rt}
    {events : List UndoEvent} {last : Option UndoEvent} {first : Attempt}
    {nested : List Attempt} (idle : s₀.inSpeculativeEmulation = false)
    (allocated : s₀.log.Allocated) (buffer : s₀.stack.stack.size = stacklogMaxlen)
    (frame : frameaddress ≠ 0) (stack : rsp ≠ 0)
    (small : (frameaddress - rsp).toNat ≤ stacklogMaxlen)
    (taken : takeCheckpoint env frameaddress rsp s₀ = .ok () s)
    (fits : ∀ event, event ∈ events ∨ last = some event → event.Fits env.kernel s)
    (ran : runEvents env.kernel env.task events s = .ok () t)
    : Ends (endEpisode env.kernel env.task last first nested)
        (fun r u =>
          r = 0
          ∧ Restored env.kernel (EndSkips env.kernel env.task last (first :: nested)) s.mem u)
        (RestartExit env.kernel (EndSkips env.kernel env.task last (first :: nested)) s.mem)
        t := by
  have opened := (takeCheckpoint_recoverable idle allocated buffer frame stack small).of_ok taken
  obtain ⟨kept, same⟩ :=
    (runEvents_recovers opened (fun event member => fits event (Or.inl member))).of_ok ran
  have range (attempt : Attempt) (member : attempt ∈ first :: nested) (w : Address)
      (skip : attempt.Skips env.kernel env.task w)
      : EndSkips env.kernel env.task last (first :: nested) w :=
    Or.inr ⟨attempt, member, skip⟩
  cases last with
  | none => exact runAttempts_restores kept (fun _ no => no.elim) range
  | some event =>
      have wide (w : Address) (skip : False ∨ event.Skips env.kernel env.task w)
          : EndSkips env.kernel env.task (some event) (first :: nested) w := by
        rcases skip with no | skip
        · exact no.elim
        · exact Or.inl ⟨event, rfl, skip⟩
      rw [endEpisode, ends_bind, ends_tryCatch]
      refine (UndoEvent.run_recovers kept (same.fits (fits event (Or.inr rfl)))).imp ?_ ?_
      · intro _ u both
        exact runAttempts_restores both.1 (fun _ no => no.elim) range
      -- only a fault leaves the last event into the attempts; other exits end the episode
      · intro e u exit
        cases e with
        | fault isWrite => exact runAttempts_restores exit wide range
        | resumed => exact RestartExit.mono (e := .resumed) exit wide
        | panicked reason => exact RestartExit.mono (e := .panicked reason) exit wide
        | outOfBounds table => exact RestartExit.mono (e := .outOfBounds table) exit wide
        | stackOverflow => exact RestartExit.mono (e := .stackOverflow) exit wide
        | diverged => exact exit

end

/-- The sample kernel at a checkpoint whose frame is `0x100` bytes long. -/
def sampleCheckpoint : Rt :=
  endState (takeCheckpoint sampleEnv 0x70200 0x70100) sampleRt

/-- An unaligned store and a write to the saved frame. -/
def sampleEvents : List UndoEvent :=
  [.store sampleFrames 0x600006 [1, 2, 3], .frame 0x70110 [7]]

/-- Witness: after the sample events an interrupted store and a direct restart of type
`LIMIT_SPEC` restore memory.
-/
theorem rollback_restores_memory_sample
    : Ends
        (endEpisode sampleKernel sampleEnv.task (some (.store sampleFrames 0x600010 []))
          ⟨sampleFrames, true, .restartLimitSpec, 0, 0, 0⟩ [])
        (fun r u =>
          r = 0
          ∧ Restored sampleKernel
              (EndSkips sampleKernel sampleEnv.task (some (.store sampleFrames 0x600010 []))
                [⟨sampleFrames, true, .restartLimitSpec, 0, 0, 0⟩])
              sampleCheckpoint.mem u)
        (RestartExit sampleKernel
          (EndSkips sampleKernel sampleEnv.task (some (.store sampleFrames 0x600010 []))
            [⟨sampleFrames, true, .restartLimitSpec, 0, 0, 0⟩])
          sampleCheckpoint.mem)
        (endState (runEvents sampleKernel sampleEnv.task sampleEvents) sampleCheckpoint) := by
  have clear (w : Address) (far : 0x600000 ≤ w ∧ w < 0x700000)
      : sampleCheckpoint.log.Clear sampleKernel w := by
    have addrs : sampleCheckpoint.log.addrs.base = 0x3000000 := rfl
    have data : sampleCheckpoint.log.data.base = 0x4000000 := rfl
    have position : sampleKernel.wlPosition = 0x8010 := rfl
    have enabled : sampleKernel.writelogEnabled = 0x8018 := rfl
    constructor <;> simp only [addrs, data, position, enabled] <;> bv_omega
  refine @rollback_restores_memory sampleCheckpoint sampleEnv 0x70200 0x70100 sampleRt _
    sampleEvents _ _ _ rfl ?_ rfl (by decide) (by decide) (by decide) rfl ?_ rfl
  · constructor <;> decide +kernel
  · rintro event (member | last)
    · simp only [sampleEvents, List.mem_cons, List.not_mem_nil, or_false] at member
      rcases member with rfl | rfl
      · refine ⟨by decide, ?_⟩
        rintro w (rfl | ⟨_, rfl⟩)
        · exact clear _ (by decide)
        · exact clear _ (by decide)
      · intro b within
        have base : sampleCheckpoint.stack.baseAddress = 0x70200 := rfl
        have len : sampleCheckpoint.stack.len = 0x100 := rfl
        simp only [StackLog.Holds, Within, base, len, List.length_cons, List.length_nil] at *
        bv_omega
    · obtain rfl := Option.some.inj last
      refine ⟨by decide, ?_⟩
      rintro w (rfl | ⟨_, rfl⟩)
      · exact clear _ (by decide)
      · exact clear _ (by decide)

end Kasper
