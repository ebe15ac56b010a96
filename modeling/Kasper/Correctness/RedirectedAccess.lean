import Kasper.Correctness.StateMachine
import Kasper.Passes.KSpecEmPfChecker

/-! When a redirected access stays in mapped memory: the hook asks about the page of the
pointer only, and the region it falls back on is too small by its last size.
-/

namespace Kasper

open ByteMemory Exits

/-- The page of every byte of the range is mapped. -/
def Mapped (mappedPage : Nat → Bool) (a : Address) (size : Nat) : Prop :=
  ∀ b, Within a size b → mappedPage (b.toNat / pageSize) = true

theorem Mapped.head {mappedPage : Nat → Bool} {a : Address} {size : Nat} (positive : 0 < size)
    (mapped : Mapped mappedPage a size)
    : mappedPage (a.toNat / pageSize) = true := by
  refine mapped a ?_
  rw [Within, BitVec.sub_self]
  exact positive

theorem Mapped.shrink {mappedPage : Nat → Bool} {a : Address} {size more : Nat}
    (mapped : Mapped mappedPage a more) (le : size ≤ more)
    : Mapped mappedPage a size :=
  fun b within => mapped b (Nat.lt_of_lt_of_le within le)

/-- In speculation the hook returns the pointer `kspecem_access` chooses. -/
theorem hookAccess_ends {onFail : SpecAssert → RtM Unit} {pfDummyRegion ptr : Address}
    {size : Word} {addrValid : Bool} {s : Rt} (inSpec : s.inSpeculativeEmulation = true)
    (initDone : s.initDone = true)
    : Ends (hookAccess onFail pfDummyRegion ptr size addrValid)
        (fun q _ => q = access pfDummyRegion ptr size addrValid) (fun _ _ => False) s := by
  simp [hookAccess, enterKspecemNonmiRt, leaveKspecemNonmiRt, setRt, localIrqSave, ltAssert,
    localIrqRestore, unsetRt, inSpec, initDone, ends_ite]

/-- A rewritten instruction hands its size to the hook. -/
theorem runImpl_size {moduleName : String} {inst : AccessInst} {size : Word}
    (rewrites : KSpecEmPfChecker.runImpl moduleName inst = some size)
    (fits : inst.size ≤ pageSize)
    : size.toNat = inst.size := by
  have small (n : Nat) (le : n ≤ pageSize) : (BitVec.ofNat 64 n).toNat = n := by
    rw [BitVec.toNat_ofNat]
    simp only [pageSize] at le
    omega
  rw [KSpecEmPfChecker.runImpl] at rewrites
  split at rewrites
  · cases rewrites
  · cases inst with
    | load mark typeStoreSize =>
        simp only [KSpecEmPfCheckerPassVisitor.visit, KSpecEmPfCheckerPassVisitor.visitLoadInst,
          Option.ite_none_left_eq_some, Option.some_inj] at rewrites
        rw [← rewrites.2]
        exact small typeStoreSize fits
    | store mark typeStoreSize =>
        simp only [KSpecEmPfCheckerPassVisitor.visit, KSpecEmPfCheckerPassVisitor.visitStoreInst,
          Option.ite_none_left_eq_some, Option.some_inj] at rewrites
        rw [← rewrites.2]
        exact small typeStoreSize fits
    | memIntrinsic mark length =>
        simp only [KSpecEmPfCheckerPassVisitor.visit,
          KSpecEmPfCheckerPassVisitor.visitMemIntrinsic, Option.ite_none_left_eq_some,
          Option.some_inj] at rewrites
        rw [← rewrites.2]
        rfl

/-- The chosen pointer is good for the access exactly when a mapped pointer is good for all
of it, and an unmapped one is accessed for less than a page.
-/
theorem access_mapped_iff {mappedPage : Nat → Bool} {pfDummyRegion ptr : Address} {size : Word}
    (region : Mapped mappedPage pfDummyRegion pageSize) (positive : 1 ≤ size.toNat)
    : Mapped mappedPage
        (access pfDummyRegion ptr size (mappedPage (ptr.toNat / pageSize))) size.toNat
      ↔ if mappedPage (ptr.toNat / pageSize) then Mapped mappedPage ptr size.toNat
        else size.toNat < pageSize := by
  have below : size < BitVec.ofNat 64 pageSize ↔ size.toNat < pageSize := by
    rw [BitVec.lt_def]
    rfl
  cases valid : mappedPage (ptr.toNat / pageSize) with
  | true => simp [access]
  | false =>
      simp only [access, Bool.not_false, Bool.true_and, decide_eq_true_eq, below,
        Bool.false_eq_true, if_false]
      split
      case isTrue small => exact iff_of_true (region.shrink (Nat.le_of_lt small)) small
      case isFalse large =>
        refine iff_of_false (fun mapped => ?_) large
        have head := mapped.head positive
        rw [valid] at head
        contradiction

/-- In speculation, a rewritten access touches mapped memory only, whatever the mapping, if
and only if its range is mapped, or its pointer is not and it is smaller than the region.
-/
theorem redirected_access_mapped_iff {mappedPage : Nat → Bool} {pfDummyRegion ptr : Address}
    {onFail : SpecAssert → RtM Unit} {moduleName : String} {inst : AccessInst} {s : Rt}
    (region : Mapped mappedPage pfDummyRegion pageSize)
    (rewritten : KSpecEmPfChecker.runImpl moduleName inst ≠ none)
    (inSpec : s.inSpeculativeEmulation = true) (initDone : s.initDone = true)
    (positive : 1 ≤ inst.size) (fits : inst.size ≤ pageSize)
    : Ends
          (accessedPtr onFail pfDummyRegion moduleName inst ptr
            (mappedPage (ptr.toNat / pageSize)))
          (fun q _ => Mapped mappedPage q inst.size) (fun _ _ => False) s
      ↔ if mappedPage (ptr.toNat / pageSize) then Mapped mappedPage ptr inst.size
        else inst.size < pageSize := by
  obtain ⟨size, rewrites⟩ := Option.ne_none_iff_exists'.mp rewritten
  have same := runImpl_size rewrites fits
  rw [← same] at positive ⊢
  rw [← access_mapped_iff region positive, accessedPtr, rewrites]
  have hook := @hookAccess_ends onFail pfDummyRegion ptr size (mappedPage (ptr.toNat / pageSize))
    s inSpec initDone
  constructor
  · intro mapped
    obtain ⟨q, t, run⟩ := mapped.returns
    have isMapped := mapped.of_ok run
    have chosen := hook.of_ok run
    rwa [chosen] at isMapped
  · intro mapped
    refine hook.imp (fun q _ chosen => ?_) (fun _ _ exit => exit)
    rwa [chosen]

/-- All pages but one are mapped. -/
def sampleMapping (page : Nat) : Bool := page != 0x500

theorem sampleMapping_region : Mapped sampleMapping 0x700000 pageSize := by
  intro b within
  rw [Within, BitVec.toNat_sub] at within
  simp only [pageSize, sampleMapping, bne_iff_ne, BitVec.ofNat_eq_ofNat, BitVec.toNat_ofNat]
    at within ⊢
  omega

theorem redirected_access_mapped_iff_sample
    : Ends
          (accessedPtr sampleEnv.onFail 0x700000 "fs.ko" (.load true 8) 0x500000
            (sampleMapping ((0x500000 : Address).toNat / pageSize)))
          (fun q _ => Mapped sampleMapping q 8) (fun _ _ => False) sampleOpen.rt
      ↔ if sampleMapping ((0x500000 : Address).toNat / pageSize) then
          Mapped sampleMapping 0x500000 8
        else 8 < pageSize :=
  @redirected_access_mapped_iff sampleMapping 0x700000 0x500000 sampleEnv.onFail "fs.ko"
    (.load true 8) sampleOpen.rt sampleMapping_region (by decide) rfl rfl (by decide) (by decide)

/-- A load of exactly the dummy region's size keeps its unmapped pointer. -/
theorem full_region_load_not_redirected
    : Mapped sampleMapping 0x700000 pageSize
      ∧ ¬Ends
        (accessedPtr sampleEnv.onFail 0x700000 "fs.ko" (.load true pageSize) 0x500000
          (sampleMapping ((0x500000 : Address).toNat / pageSize)))
        (fun q _ => Mapped sampleMapping q pageSize) (fun _ _ => False) sampleOpen.rt := by
  refine ⟨sampleMapping_region, fun mapped => ?_⟩
  obtain ⟨q, t, run⟩ := mapped.returns
  have isMapped := mapped.of_ok run
  have rewrites : KSpecEmPfChecker.runImpl "fs.ko" (.load true pageSize)
      = some (BitVec.ofNat 64 pageSize) := by decide
  unfold accessedPtr at run
  rw [rewrites] at run
  have inSpec : sampleOpen.rt.inSpeculativeEmulation = true := rfl
  have initDone : sampleOpen.rt.initDone = true := rfl
  have chosen := (hookAccess_ends inSpec initDone).of_ok run
  rw [chosen] at isMapped
  exact absurd (isMapped.head (by decide)) (by decide)

end Kasper
