import Kasper.Runtime.Interface

/-! Rules for the runtime's primitive steps, and what a failed assertion does.
`kspecem_panic` has three behaviours: outside speculation it panics, inside
`kspecem_restart` it records the failure and returns, otherwise it rolls back.
-/

namespace Kasper

open ByteMemory Exits

variable {α : Type} {Q : α → Rt → Prop} {E : Exit → Rt → Prop} {s : Rt}

/-- No code runs after these exits. -/
def Exit.Final : Exit → Prop
  | .resumed => False
  | .fault _ => False
  | _ => True

@[simp] theorem ends_fetch {name : TableId} {table : Table α} {index : Nat}
    : Ends (fetch name table index) Q E s
      ↔ (index < table.size → Q (table.cell index) s)
        ∧ (¬index < table.size → E (.outOfBounds name) s) := by
  unfold fetch
  exact ends_ite _ _ _

@[simp] theorem ends_checkBounds {name : TableId} {table : Table α} {index : Nat}
    {R : Unit → Rt → Prop}
    : Ends (checkBounds name table index) R E s
      ↔ (index < table.size → R () s) ∧ (¬index < table.size → E (.outOfBounds name) s) := by
  unfold checkBounds
  exact ends_ite _ _ _

/-- The eight bytes from `a` on can be read. -/
def Kernel.ReadableWord (kernel : Kernel) (a : Address) : Prop :=
  ∀ i : Fin 8, kernel.readable (a + BitVec.ofNat 64 i) = true

/-- The eight bytes from `a` on can be written. -/
def Kernel.WritableWord (kernel : Kernel) (a : Address) : Prop :=
  ∀ i : Fin 8, kernel.writable (a + BitVec.ofNat 64 i) = true

theorem ends_loadWord {kernel : Kernel} {a : Address} {R : Word → Rt → Prop}
    (value : kernel.ReadableWord a → R (readWord s.mem a) s)
    (fault : ¬kernel.ReadableWord a → E (.fault false) s)
    : Ends (loadWord kernel a) R E s := by
  simp only [loadWord, ends_bind, ends_get, ends_ite, ends_pure, ends_throw]
  exact ⟨value, fault⟩

theorem ends_storeWord {kernel : Kernel} {a : Address} {value : Word} {R : Unit → Rt → Prop}
    (done : kernel.WritableWord a → R () { s with mem := writeWord s.mem a value })
    (fault : ¬kernel.WritableWord a → E (.fault true) s)
    : Ends (storeWord kernel a value) R E s := by
  simp only [storeWord, ends_ite, ends_modify, ends_throw]
  exact ⟨done, fault⟩

theorem ends_ltAssert {onFail : SpecAssert → RtM Unit} {holds : Prop} [Decidable holds]
    {file condition : String} {line : Nat} {R : Unit → Rt → Prop} (pass : holds → R () s)
    (fail : ¬holds → Ends (onFail { file, line, condition }) R E s)
    : Ends (ltAssert onFail holds file line condition) R E s := by
  rw [ltAssert, ends_ite]
  exact ⟨pass, fail⟩

theorem ends_ltAssert_pos {onFail : SpecAssert → RtM Unit} {holds : Prop} [Decidable holds]
    {file condition : String} {line : Nat} {R : Unit → Rt → Prop} (pass : holds)
    (next : R () s)
    : Ends (ltAssert onFail holds file line condition) R E s :=
  ends_ltAssert (fun _ => next) (fun fail => absurd pass fail)

/-- The state after `kspecem_panic` recorded a failure. -/
def Rt.recordFailure (s : Rt) (failed : SpecAssert) : Rt :=
  { s with specAssert := some failed, asserted := failed :: s.asserted }

/-- Inside `kspecem_restart` a failed assertion is recorded and the restart goes on. Where
`overflows` holds it may find the stack full instead.
-/
def FailsQuietly (overflows : Prop) (onFail : SpecAssert → RtM Unit) : Prop :=
  ∀ failed s,
    s.inSpeculativeEmulation = true
    → s.isInRestart = true
    → Ends (onFail failed) (fun _ t => t = s.recordFailure failed)
        (fun e t =>
          overflows
          ∧ e = .stackOverflow
          ∧ t = { s with asserted := failed :: s.asserted })
        s

/-- Outside speculation a failed assertion ends the run where it fails. -/
def FailsLoudly (onFail : SpecAssert → RtM Unit) : Prop :=
  ∀ failed s,
    s.inSpeculativeEmulation = false
    → Ends (onFail failed) (fun _ _ => False)
        (fun e t =>
          (e = .stackOverflow ∨ e = .panicked (.assertion failed))
          ∧ t = { s with asserted := failed :: s.asserted })
        s

theorem kspecemPanicWith_quiet (overflows : Prop) (env : Env) (onFail : SpecAssert → RtM Unit)
    : FailsQuietly overflows (kspecemPanicWith env onFail) := by
  intro failed s inSpec inRestart
  simp [kspecemPanicWith, Rt.recordFailure, inSpec, inRestart]

theorem kspecemPanic_quiet (env : Env) {depth : Nat} (room : 0 < depth)
    : FailsQuietly False (kspecemPanic env depth) := by
  obtain ⟨depth, rfl⟩ := Nat.exists_eq_succ_of_ne_zero (Nat.ne_of_gt room)
  exact kspecemPanicWith_quiet False env _

/-- At any depth, a failure inside `kspecem_restart` is recorded or overflows the stack. -/
theorem kspecemPanic_quiet_or_overflow (env : Env) (depth : Nat)
    : FailsQuietly True (kspecemPanic env depth) := by
  cases depth with
  | zero => exact fun _ _ _ _ => ⟨trivial, rfl, rfl⟩
  | succ depth => exact kspecemPanicWith_quiet True env _

theorem kspecemPanic_loud (env : Env) (depth : Nat) : FailsLoudly (kspecemPanic env depth) := by
  intro failed s notInSpec
  cases depth with
  | zero => exact ⟨Or.inl rfl, rfl⟩
  | succ depth => simp [kspecemPanic, kspecemPanicWith, notInSpec]

/-- In quiet mode both outcomes of an assertion lead on. -/
theorem FailsQuietly.ends_ltAssert {overflows : Prop} {onFail : SpecAssert → RtM Unit}
    {holds : Prop} [Decidable holds] {file condition : String} {line : Nat}
    {R : Unit → Rt → Prop} (quiet : FailsQuietly overflows onFail)
    (inSpec : s.inSpeculativeEmulation = true) (inRestart : s.isInRestart = true)
    (pass : R () s) (fail : R () (s.recordFailure { file, line, condition }))
    (overflow
      : overflows
        → E .stackOverflow { s with asserted := { file, line, condition } :: s.asserted })
    : Ends (ltAssert onFail holds file line condition) R E s := by
  refine Kasper.ends_ltAssert (fun _ => pass) (fun _ => ?_)
  refine (quiet _ s inSpec inRestart).imp ?_ ?_
  · rintro _ _ rfl
    exact fail
  · rintro _ _ ⟨deep, rfl, rfl⟩
    exact overflow deep

end Kasper
