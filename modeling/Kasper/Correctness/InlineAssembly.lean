import Kasper.Passes.KSpecEm

/-! Which inline assembly the list in `getCalledFunction` means, and which it lets run. -/

namespace Kasper

variable {asmString : List Char} {constraints : Constraints}

theorem rfind_zero_iff (string text : List Char)
    : rfind string text 0 = some 0 ↔ text <+: string := by
  rw [rfind, ← List.isPrefixOf_iff_prefix]
  cases text.isPrefixOf string <;> simp

/-- A search finds its text exactly if the text stands at a position it looks at. -/
theorem rfind_ne_none_iff (string text : List Char) (pos : Nat)
    : rfind string text pos ≠ none ↔ ∃ start ≤ pos, text <+: string.drop start := by
  induction pos with
  | zero =>
      simp only [rfind, ← List.isPrefixOf_iff_prefix, Nat.le_zero, exists_eq_left, List.drop_zero]
      cases text.isPrefixOf string <;> simp
  | succ pos ih =>
      have split : (∃ start ≤ pos + 1, text <+: string.drop start)
          ↔ text <+: string.drop (pos + 1) ∨ ∃ start ≤ pos, text <+: string.drop start := by
        constructor
        · intro found
          obtain ⟨start, bound, here⟩ := found
          rcases Nat.lt_or_eq_of_le bound with below | rfl
          · exact Or.inr ⟨start, Nat.le_of_lt_succ below, here⟩
          · exact Or.inl here
        · intro found
          rcases found with here | ⟨start, bound, here⟩
          · exact ⟨pos + 1, le_refl _, here⟩
          · exact ⟨start, Nat.le_succ_of_le bound, here⟩
      rw [rfind, split, ← ih, ← List.isPrefixOf_iff_prefix]
      cases text.isPrefixOf (string.drop (pos + 1)) <;> simp

/-- A search through the whole string finds the text exactly if the string contains it. -/
theorem rfind_npos_iff (string text : List Char)
    : rfind string text string.length ≠ none ↔ text <:+: string := by
  rw [rfind_ne_none_iff, List.infix_iff_prefix_suffix]
  constructor
  · intro found
    obtain ⟨start, _, here⟩ := found
    exact ⟨string.drop start, here, List.drop_suffix start string⟩
  · intro found
    obtain ⟨rest, here, last⟩ := found
    rw [List.suffix_iff_eq_drop] at last
    exact ⟨string.length - rest.length, Nat.sub_le _ _, last ▸ here⟩

/-- What a test asks of a template when its literal stands for `text`. -/
def AsmTest.Meets (text : String → List Char) (asmString : List Char) : AsmTest → Prop
  | .contains literal => text literal <:+: asmString
  | .startsWith literal => text literal <+: asmString
  | .equals literal => asmString = text literal

/-- The tests read their literals up to the first NUL. -/
theorem AsmTest.passes_iff (test : AsmTest)
    : test.passes asmString = true ↔ test.Meets literalText asmString := by
  cases test with
  | contains literal => simpa [passes, Meets] using rfind_npos_iff asmString (literalText literal)
  | startsWith literal => simpa [passes, Meets] using rfind_zero_iff asmString (literalText literal)
  | equals literal => simp [passes, Meets]

theorem hasMemoryGlobber_iff
    : hasMemoryGlobber constraints = true
      ↔ ∃ codes ∈ constraints, "\x7bmemory\x7d" ∈ codes ∨ "m" ∈ codes := by
  simp only [hasMemoryGlobber, List.any_eq_true, Bool.or_eq_true, beq_iff_eq]
  constructor
  · intro found
    obtain ⟨codes, member, code, inside, rfl | rfl⟩ := found
    · exact ⟨codes, member, Or.inl inside⟩
    · exact ⟨codes, member, Or.inr inside⟩
  · intro found
    obtain ⟨codes, member, inside | inside⟩ := found
    · exact ⟨codes, member, _, inside, Or.inl rfl⟩
    · exact ⟨codes, member, _, inside, Or.inr rfl⟩

/-- A literal as the kernel's template has it: `\09` is a tab, `\0A` a newline and `\22` a
quote.
-/
def wholeText (literal : String) : List Char :=
  go literal.toList
where
  go : List Char → List Char
    | '\x00' :: '9' :: rest => '\t' :: go rest
    | '\x00' :: 'A' :: rest => '\n' :: go rest
    | '\x12' :: rest => '\"' :: go rest
    | char :: rest => char :: go rest
    | [] => []

/-- The constraints name a memory clobber or an `m` operand. -/
def NamesMemory (constraints : Constraints) : Prop :=
  ∃ codes ∈ constraints, "\x7bmemory\x7d" ∈ codes ∨ "m" ∈ codes

/-- The template is on the list when a literal stands for `text`. -/
def Listed (text : String → List Char) (asmString : List Char) (constraints : Constraints)
    : Prop :=
  asmString = []
  ∨ (∃ test ∈ unguardedTests, test.Meets text asmString)
  ∨ ((∃ test ∈ guardedTests, test.Meets text asmString) ∧ ¬NamesMemory constraints)

/-- A template stays as it is, without a hook or under restart type 3. -/
theorem visitCallInst_inlineAsm
    : visitCallInst false (.inlineAsm asmString constraints)
      = if asmString = [] ∨ safeInlineAsm asmString constraints = true then none
        else some { restartType := 3, calledFunc := none } := by
  cases asmString with
  | nil => rfl
  | cons char rest =>
      cases safe : safeInlineAsm (char :: rest) constraints <;>
        simp [visitCallInst, getCalledFunction, safe]

theorem any_passes_iff {tests : List AsmTest}
    : tests.any (·.passes asmString) = true ↔ ∃ test ∈ tests, test.Meets literalText asmString := by
  simp only [List.any_eq_true, AsmTest.passes_iff]

/-- The code decides by what its literals hold up to their first NUL. -/
theorem visitCallInst_eq_none_iff
    : visitCallInst false (.inlineAsm asmString constraints) = none
      ↔ Listed literalText asmString constraints := by
  have guarded : hasMemoryGlobber constraints = false ↔ ¬NamesMemory constraints := by
    rw [NamesMemory, ← hasMemoryGlobber_iff, Bool.not_eq_true]
  have safe : safeInlineAsm asmString constraints = true
      ↔ (∃ test ∈ unguardedTests, test.Meets literalText asmString)
        ∨ ((∃ test ∈ guardedTests, test.Meets literalText asmString)
          ∧ ¬NamesMemory constraints) := by
    rw [safeInlineAsm, Bool.or_eq_true, Bool.and_eq_true, any_passes_iff, any_passes_iff,
      Bool.not_eq_true', guarded]
  rw [visitCallInst_inlineAsm, Listed, ← safe]
  by_cases spared : asmString = [] ∨ safeInlineAsm asmString constraints = true <;>
    simp [spared]

/-- The test for `BUG()` and its kin. -/
def bugTable : AsmTest :=
  .startsWith "1:\x009.byte 0x0f, 0x0b\x00A.pushsection __bug_table,\x12aw\x12"

/-- The test for a reachability annotation. -/
def discardReachable : AsmTest :=
  .startsWith
    "$\x7b0:c\x7d:\x00A\x009.pushsection .discard.reachable\x00A\x009.long $\x7b0:c\x7db"

/-- A test that asks for the whole text of its literal. -/
def AsmTest.Whole : AsmTest → Prop
  | .contains literal | .startsWith literal | .equals literal =>
      literalText literal = wholeText literal

instance (test : AsmTest) : Decidable test.Whole := by
  unfold AsmTest.Whole
  cases test <;> infer_instance

theorem AsmTest.Whole.meets_iff {test : AsmTest} (whole : test.Whole)
    : test.Meets literalText asmString ↔ test.Meets wholeText asmString := by
  cases test with
  | contains literal | startsWith literal | equals literal =>
      simp only [Whole] at whole
      simp only [Meets, whole]

theorem unguardedTests_whole : ∀ test ∈ unguardedTests, test.Whole := by
  decide

theorem guardedTests_whole
    : ∀ test ∈ guardedTests, test.Whole ∨ test = bugTable ∨ test = discardReachable := by
  decide

/-- Some template can meet the test and start with `start`. -/
def AsmTest.Admits (start : List Char) : AsmTest → Prop
  | .contains _ => True
  | .startsWith literal => start <+: wholeText literal ∨ wholeText literal <+: start
  | .equals literal => start <+: wholeText literal

instance (start : List Char) (test : AsmTest) : Decidable (test.Admits start) := by
  unfold AsmTest.Admits
  cases test <;> infer_instance

theorem AsmTest.admits {test : AsmTest} {start : List Char}
    (meets : test.Meets wholeText asmString) (starts : start <+: asmString)
    : test.Admits start := by
  cases test with
  | contains literal => exact trivial
  | startsWith literal => exact List.prefix_or_prefix_of_prefix starts meets
  | equals literal =>
      rw [Meets] at meets
      rwa [meets] at starts

/-- The marker by which the kernel exempts a template. -/
def noRestart : AsmTest := .contains "#KSPECEM_NO_RESTART"

/-- Where one test alone admits a start, a listed template with that start meets it. -/
theorem meets_of_listed {early : AsmTest} {start : List Char}
    (only : ∀ test ∈ unguardedTests ++ guardedTests,
      test.Admits start → test = noRestart ∨ test = early)
    (listed : Listed wholeText asmString constraints) (starts : start <+: asmString)
    (nonempty : start ≠ []) (unmarked : ¬noRestart.Meets wholeText asmString)
    : early.Meets wholeText asmString := by
  have decided {test : AsmTest} (member : test ∈ unguardedTests ++ guardedTests)
      (meets : test.Meets wholeText asmString) : early.Meets wholeText asmString := by
    rcases only test member (AsmTest.admits meets starts) with rfl | rfl
    · exact absurd meets unmarked
    · exact meets
  rcases listed with empty | ⟨test, member, meets⟩ | ⟨⟨test, member, meets⟩, _⟩
  · rw [empty, List.prefix_nil] at starts
    exact absurd starts nonempty
  · exact decided (List.mem_append_left _ member) meets
  · exact decided (List.mem_append_right _ member) meets

theorem bugTable_only
    : ∀ test ∈ unguardedTests ++ guardedTests,
        test.Admits "1:".toList → test = noRestart ∨ test = bugTable := by
  decide

theorem discardReachable_only
    : ∀ test ∈ unguardedTests ++ guardedTests,
        test.Admits "$\x7b0:c\x7d:".toList → test = noRestart ∨ test = discardReachable := by
  decide

theorem bugTable_meets
    : bugTable.Meets wholeText asmString
      ↔ "1:\t.byte 0x0f, 0x0b\n.pushsection __bug_table,\"aw\"".toList <+: asmString :=
  Iff.rfl

theorem discardReachable_meets
    : discardReachable.Meets wholeText asmString
      ↔ "$\x7b0:c\x7d:\n\t.pushsection .discard.reachable\n\t.long $\x7b0:c\x7db".toList
        <+: asmString :=
  Iff.rfl

/-- A call of the template gets no restart hook exactly if it is listed, and otherwise one
of type 3.
-/
def OnlyListedRuns (asmString : List Char) (constraints : Constraints) : Prop :=
  (visitCallInst false (.inlineAsm asmString constraints) = none
    ↔ Listed wholeText asmString constraints)
  ∧ (¬Listed wholeText asmString constraints
    → visitCallInst false (.inlineAsm asmString constraints)
      = some { restartType := 3, calledFunc := none })

/-- A template that starts like one of the two cut entries has its whole text, is exempt by
the marker, or is guarded by its constraints.
-/
def NotCutShort (asmString : List Char) (constraints : Constraints) : Prop :=
  NamesMemory constraints
  ∨ "#KSPECEM_NO_RESTART".toList <:+: asmString
  ∨ (("1:".toList <+: asmString
      → "1:\t.byte 0x0f, 0x0b\n.pushsection __bug_table,\"aw\"".toList <+: asmString)
    ∧ ("$\x7b0:c\x7d:".toList <+: asmString
      → "$\x7b0:c\x7d:\n\t.pushsection .discard.reachable\n\t.long $\x7b0:c\x7db".toList
        <+: asmString))

/-- The whole texts of the two entries begin with what the code compares. -/
theorem listed_literalText_of_listed (listed : Listed wholeText asmString constraints)
    : Listed literalText asmString constraints := by
  have guarded {test : AsmTest} (member : test ∈ guardedTests)
      (meets : test.Meets wholeText asmString) : test.Meets literalText asmString := by
    rcases guardedTests_whole test member with whole | rfl | rfl
    · exact whole.meets_iff.mpr meets
    · exact List.IsPrefix.trans (by decide) meets
    · exact List.IsPrefix.trans (by decide) meets
  rcases listed with empty | ⟨test, member, meets⟩ | ⟨⟨test, member, meets⟩, free⟩
  · exact Or.inl empty
  · exact Or.inr (Or.inl ⟨test, member, (unguardedTests_whole test member).meets_iff.mpr meets⟩)
  · exact Or.inr (Or.inr ⟨⟨test, member, guarded member meets⟩, free⟩)

/-- Under the condition the code's tests pass listed templates only. -/
theorem listed_of_listed_literalText (notCut : NotCutShort asmString constraints)
    (listed : Listed literalText asmString constraints)
    : Listed wholeText asmString constraints := by
  rcases listed with empty | ⟨test, member, meets⟩ | ⟨⟨test, member, meets⟩, free⟩
  · exact Or.inl empty
  · exact Or.inr (Or.inl ⟨test, member, (unguardedTests_whole test member).meets_iff.mp meets⟩)
  rcases notCut with memory | marked | ⟨bug, reachable⟩
  · exact absurd memory free
  · exact Or.inr (Or.inl ⟨noRestart, by decide, marked⟩)
  refine Or.inr (Or.inr ⟨⟨test, member, ?_⟩, free⟩)
  rcases guardedTests_whole test member with whole | rfl | rfl
  · exact whole.meets_iff.mp meets
  · exact bugTable_meets.mpr (bug meets)
  · exact discardReachable_meets.mpr (reachable meets)

/-- Otherwise they pass a template that is not listed. -/
theorem notCutShort_of_listed
    (listed : Listed literalText asmString constraints → Listed wholeText asmString constraints)
    : NotCutShort asmString constraints := by
  by_cases memory : NamesMemory constraints
  · exact Or.inl memory
  by_cases marked : noRestart.Meets wholeText asmString
  · exact Or.inr (Or.inl marked)
  have entry {early : AsmTest} (member : early ∈ guardedTests)
      (meets : early.Meets literalText asmString) : Listed wholeText asmString constraints :=
    listed (Or.inr (Or.inr ⟨⟨early, member, meets⟩, memory⟩))
  refine Or.inr (Or.inr ⟨fun starts => ?_, fun starts => ?_⟩)
  · have whole := @entry bugTable (by decide) starts
    exact bugTable_meets.mp (meets_of_listed bugTable_only whole starts (by decide) marked)
  · have whole := @entry discardReachable (by decide) starts
    exact discardReachable_meets.mp
      (meets_of_listed discardReachable_only whole starts (by decide) marked)

/-- The pass leaves exactly the listed templates alone if and only if the template is not
one that only starts like a cut entry.
-/
theorem onlyListedRuns_iff (asmString : List Char) (constraints : Constraints)
    : OnlyListedRuns asmString constraints ↔ NotCutShort asmString constraints := by
  rw [OnlyListedRuns, visitCallInst_eq_none_iff]
  constructor
  · intro only
    exact notCutShort_of_listed only.1.mp
  · intro notCut
    have same : Listed literalText asmString constraints ↔ Listed wholeText asmString constraints :=
      ⟨listed_of_listed_literalText notCut, listed_literalText_of_listed⟩
    refine ⟨same, fun unlisted => ?_⟩
    rw [← same, ← visitCallInst_eq_none_iff, visitCallInst_inlineAsm] at unlisted
    rw [visitCallInst_inlineAsm, if_neg]
    intro spared
    exact unlisted (if_pos spared)

/-- The constraint codes of the kernel's `rdmsr`. -/
def rdmsrConstraints : Constraints := [["\x7bax\x7d"], ["\x7bdx\x7d"], ["\x7bcx\x7d"]]

/-- The kernel's `rdmsr` starts with a label `1:` and so gets no hook. -/
theorem rdmsr_runs : ¬OnlyListedRuns "1: rdmsr\n2:\n".toList rdmsrConstraints := by
  intro only
  have whole : Listed wholeText "1: rdmsr\n2:\n".toList rdmsrConstraints :=
    only.1.mp (by decide)
  rcases notCutShort_of_listed (fun _ => whole) with memory | marked | ⟨bug, _⟩
  · revert memory
    unfold NamesMemory
    decide
  · exact absurd marked (by decide)
  · exact absurd (bug (by decide)) (by decide)

end Kasper
