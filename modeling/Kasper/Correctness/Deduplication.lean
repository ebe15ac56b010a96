import Kasper.Correctness.ReportQueue
import Kasper.Library.Firsts

/-! Default reporting prints the first report of each instruction and access type.
The bytes of the deduplication map stand for the set of printed pairs; each flush prints the
pending reports whose pair is not in the set yet.
-/

namespace Kasper

open ByteMemory Exits Firsts

/-- What duplicates have in common: the instruction and the access type. -/
def Bug.place (bug : Bug) : Address × AccessType :=
  (bug.kinfo.ip, bug.accessType)

/-- The reports that were printed. -/
def printedBugs (printed : List Printed) : List Bug :=
  printed.filterMap fun
    | .accessBug bug => some bug
    | _ => none

theorem printedBugs_append (printed more : List Printed)
    : printedBugs (printed ++ more) = printedBugs printed ++ printedBugs more :=
  List.filterMap_append

/-- The lowest address of the kernel's half of the address space. A kernel links its text
there, so the text is short enough for every offset into it to have its block in the map.
-/
def kernelHalf : Address := 0xffff800000000000

/-- The instruction lies in the kernel's text. -/
def Kernel.InText (kernel : Kernel) (ip : Address) : Prop :=
  kernel.text ≤ ip ∧ ip < kernel.etext

instance (kernel : Kernel) (ip : Address) : Decidable (kernel.InText ip) :=
  inferInstanceAs (Decidable (_ ∧ _))

/-- A report of the kernel's text with an access type that is printed. -/
def Bug.Known (kernel : Kernel) (bug : Bug) : Prop :=
  kernel.InText bug.kinfo.ip ∧ bug.accessType ≠ .undefAccess

/-- The byte of the deduplication map for an instruction. -/
def Reports.mark (kernel : Kernel) (reports : Reports) (ip : Address) : BitVec 8 :=
  let offset := (ip - kernel.text).toNat
  (reports.previousBugsMap.cell (offset / blockBytes)).cell (offset % blockBytes)

/-- Setting the bit of one access type sets no other one's. -/
theorem mask_set {bug other : Bug} (known : bug.accessType ≠ .undefAccess)
    (otherKnown : other.accessType ≠ .undefAccess) (previous : BitVec 8)
    : (previous ||| getBugMask bug) &&& getBugMask other = getBugMask other
      ↔ previous &&& getBugMask other = getBugMask other ∨ other.accessType = bug.accessType := by
  unfold getBugMask
  generalize bug.accessType = x at *
  generalize other.accessType = y at *
  revert previous
  cases x <;> cases y <;> first | contradiction | decide +kernel

theorem mask_ne {bug : Bug} (known : bug.accessType ≠ .undefAccess) : getBugMask bug ≠ 0xff := by
  unfold getBugMask
  generalize bug.accessType = x at *
  cases x <;> first | contradiction | decide

section
variable {kernel : Kernel} {ip : Address}

/-- The size of the bitmap, without wrapping: the text has at most `2 ^ 47` bytes. -/
theorem toNat_bitmapSize (high : kernelHalf ≤ kernel.text) (inText : kernel.InText ip)
    : (bitmapSize kernel).toNat
        = (kernel.etext.toNat - kernel.text.toNat + pageSize) / pageSize * pageSize
      ∧ kernel.etext.toNat - kernel.text.toNat ≤ 2 ^ 47 := by
  obtain ⟨low, below⟩ := inText
  rw [BitVec.le_def] at low high
  rw [BitVec.lt_def] at below
  have top := kernel.etext.isLt
  have half : kernelHalf.toNat = 0xffff800000000000 := rfl
  have size : (kernelSize kernel).toNat = kernel.etext.toNat - kernel.text.toNat := by
    rw [kernelSize, BitVec.toNat_sub]
    omega
  refine ⟨?_, by omega⟩
  have rounded := toNat_alignDown 12 (kernelSize kernel + BitVec.ofNat 64 pageSize)
  have mask : BitVec.ofNat 64 (2 ^ 12 - 1) = 0xfff := rfl
  rw [alignDown, mask] at rounded
  rw [bitmapSize, rounded, BitVec.toNat_add, size, BitVec.toNat_ofNat, pageSize]
  omega

/-- The offset of an instruction of the text. -/
theorem toNat_offset (inText : kernel.InText ip)
    : (ip - kernel.text).toNat = ip.toNat - kernel.text.toNat := by
  have low := inText.1
  rw [BitVec.le_def] at low
  rw [BitVec.toNat_sub]
  have bound := ip.isLt
  omega

/-- The blocks that are allocated hold the whole bitmap. -/
theorem bitmapSize_le (kernel : Kernel)
    : (bitmapSize kernel).toNat ≤ (allocBlocks kernel).toNat * blockBytes := by
  have block : (BitVec.ofNat 64 blockBytes).toNat = 4194304 := rfl
  have bytes : blockBytes = 4194304 := rfl
  have one : (1 : Word).toNat = 1 := rfl
  have divided : (bitmapSize kernel / BitVec.ofNat 64 blockBytes).toNat
      = (bitmapSize kernel).toNat / 4194304 := by
    rw [BitVec.toNat_udiv, block]
  have rest : (bitmapSize kernel % BitVec.ofNat 64 blockBytes).toNat
      = (bitmapSize kernel).toNat % 4194304 := by
    rw [BitVec.toNat_umod, block]
  have bound := (bitmapSize kernel).isLt
  unfold allocBlocks
  split
  · rw [BitVec.toNat_add, divided, one, bytes]
    omega
  · rename_i whole
    have none : (bitmapSize kernel % BitVec.ofNat 64 blockBytes).toNat = 0 :=
      congrArg BitVec.toNat (not_not.mp whole)
    rw [rest] at none
    rw [divided, bytes]
    omega

/-- Every offset lies in the bitmap, in a block that was allocated. -/
theorem offset_inside (high : kernelHalf ≤ kernel.text) (inText : kernel.InText ip)
    : ip - kernel.text < bitmapSize kernel
      ∧ (ip - kernel.text).toNat / blockBytes < (allocBlocks kernel).toNat
      ∧ (ip - kernel.text).toNat / blockBytes < 2 ^ 31 := by
  obtain ⟨size, small⟩ := toNat_bitmapSize high inText
  have offset := toNat_offset inText
  have blocks := bitmapSize_le kernel
  have below := inText.2
  rw [BitVec.lt_def] at below
  rw [BitVec.lt_def, offset]
  have bytes : blockBytes = 4194304 := rfl
  rw [size, pageSize] at blocks
  rw [size, pageSize]
  rw [bytes] at blocks ⊢
  omega

end

-----------------------------------------------------------------------------------------
-- The map as a set of places
-----------------------------------------------------------------------------------------

/-- The map marks the places of the bugs `seen`, and has the blocks that were allocated. -/
structure Marks (kernel : Kernel) (seen : List Bug) (reports : Reports) : Prop where
  byDefault : reports.printLevel = .printDefault
  mapSize : reports.previousBugsMap.size = (allocBlocks kernel).toNat
  blockSize : ∀ i < 2 ^ 31, (reports.previousBugsMap.cell i).size = blockBytes
  marks
    : ∀ bug : Bug,
        bug.Known kernel
        → (reports.mark kernel bug.kinfo.ip &&& getBugMask bug = getBugMask bug
          ↔ bug.place ∈ seen.map Bug.place)

theorem Marks.congr {kernel : Kernel} {seen : List Bug} {reports other : Reports}
    (h : Marks kernel seen reports) (printLevel : other.printLevel = reports.printLevel)
    (map : other.previousBugsMap = reports.previousBugsMap)
    : Marks kernel seen other where
  byDefault := printLevel.trans h.byDefault
  mapSize := by
    rw [map]
    exact h.mapSize
  blockSize := by
    rw [map]
    exact h.blockSize
  marks := by
    unfold Reports.mark
    rw [map]
    exact h.marks

section
variable {env : Env} {onFail : SpecAssert → RtM Unit} {seen : List Bug} {bug : Bug} {t : Rt}

/-- Neither assertion on an instruction of the text fails. -/
theorem getOffsetByIp_inText {ip : Address} (high : kernelHalf ≤ env.kernel.text)
    (inText : env.kernel.InText ip)
    : Ends (getOffsetByIp env onFail ip) (fun offset v => offset = ip - env.kernel.text ∧ v = t)
        (fun _ _ => False) t := by
  rw [getOffsetByIp, ends_bind]
  refine ends_ltAssert_pos inText ?_
  rw [ends_bind]
  exact ends_ltAssert_pos (offset_inside high inText).1 ⟨rfl, rfl⟩

/-- The read of the byte stays inside its block. -/
theorem previousBugs_inside {ip : Address} (h : Marks env.kernel seen t.reports)
    (high : kernelHalf ≤ env.kernel.text) (inText : env.kernel.InText ip)
    : Ends (previousBugs (ip - env.kernel.text))
        (fun previous v => previous = t.reports.mark env.kernel ip ∧ v = t)
        (fun _ _ => False) t := by
  obtain ⟨_, block, small⟩ := offset_inside high inText
  have inBlock : (ip - env.kernel.text).toNat % blockBytes < blockBytes :=
    Nat.mod_lt _ (by decide)
  rw [previousBugs, ends_bind, ends_get, ends_bind, ends_fetch]
  refine ⟨fun _ => ?_, fun past => past (h.mapSize ▸ block)⟩
  rw [ends_fetch]
  refine ⟨fun _ => ⟨rfl, rfl⟩, fun past => past ?_⟩
  rw [h.blockSize _ small]
  exact inBlock

theorem bugAlreadyReported_iff (h : Marks env.kernel seen t.reports)
    (high : kernelHalf ≤ env.kernel.text) (known : bug.Known env.kernel)
    : Ends (bugAlreadyReported env onFail bug)
        (fun reported v => (reported = true ↔ bug.place ∈ seen.map Bug.place) ∧ v = t)
        (fun _ _ => False) t := by
  rw [bugAlreadyReported]
  refine Ends.bind (getOffsetByIp_inText high known.1) ?_
  rintro _ _ ⟨rfl, rfl⟩
  refine Ends.bind (previousBugs_inside h high known.1) ?_
  rintro _ _ ⟨rfl, rfl⟩
  refine ⟨?_, rfl⟩
  rw [decide_eq_true_eq, h.marks bug known]
  exact or_iff_left (mask_ne known.2)

/-- The reports with the byte of an instruction set. -/
def Reports.setMark (kernel : Kernel) (reports : Reports) (ip : Address) (value : BitVec 8)
    : Reports :=
  let offset := (ip - kernel.text).toNat
  let map := reports.previousBugsMap
  { reports with
    previousBugsMap :=
      map.put (offset / blockBytes)
        ((map.cell (offset / blockBytes)).put (offset % blockBytes) value) }

theorem mark_setMark (kernel : Kernel) (reports : Reports) (ip other : Address)
    (value : BitVec 8)
    : (reports.setMark kernel ip value).mark kernel other
      = if other = ip then value else reports.mark kernel other := by
  simp only [Reports.setMark, Reports.mark]
  by_cases same : other = ip
  · rw [same, if_pos rfl, Table.put_cell_same, Table.put_cell_same]
  · have different : (other - kernel.text).toNat ≠ (ip - kernel.text).toNat := by
      intro equal
      have shifted := congrArg (· + kernel.text) (BitVec.eq_of_toNat_eq equal)
      simp only [BitVec.sub_add_cancel] at shifted
      exact same shifted
    rw [if_neg same]
    by_cases block
      : (other - kernel.text).toNat / blockBytes = (ip - kernel.text).toNat / blockBytes
    · rw [block, Table.put_cell_same]
      refine Table.put_cell_other _ _ (fun rest => different ?_)
      rw [← Nat.div_add_mod (other - kernel.text).toNat blockBytes, block, rest,
        Nat.div_add_mod]
    · rw [Table.put_cell_other _ _ block]

/-- Setting a mark changes no block's size. -/
theorem blockSize_setMark {kernel : Kernel} {reports : Reports} (ip : Address)
    (value : BitVec 8) (i : Nat)
    : ((reports.setMark kernel ip value).previousBugsMap.cell i).size
      = (reports.previousBugsMap.cell i).size := by
  simp only [Reports.setMark]
  by_cases block : i = (ip - kernel.text).toNat / blockBytes
  · rw [block, Table.put_cell_same]
    rfl
  · rw [Table.put_cell_other _ _ block]

/-- Marking a bug adds its place. -/
theorem Marks.add {kernel : Kernel} {reports : Reports} (h : Marks kernel seen reports)
    (known : bug.Known kernel)
    : Marks kernel (seen ++ [bug])
        (reports.setMark kernel bug.kinfo.ip
          (reports.mark kernel bug.kinfo.ip ||| getBugMask bug)) where
  byDefault := h.byDefault
  mapSize := h.mapSize
  blockSize := by
    intro i below
    rw [blockSize_setMark]
    exact h.blockSize i below
  marks := by
    intro other otherKnown
    have before := h.marks other otherKnown
    simp only [List.map_append, List.map_singleton, List.mem_append, List.mem_singleton]
    rw [mark_setMark]
    by_cases same : other.kinfo.ip = bug.kinfo.ip
    · rw [if_pos same, mask_set known.2 otherKnown.2, ← same, before]
      simp [Bug.place, same]
    · rw [if_neg same, before]
      simp [Bug.place, same]

theorem bugSetIpAsReported_marks (h : Marks env.kernel seen t.reports)
    (high : kernelHalf ≤ env.kernel.text) (known : bug.Known env.kernel)
    : Ends (bugSetIpAsReported env onFail bug)
        (fun _ v => OnlyMap t v ∧ Marks env.kernel (seen ++ [bug]) v.reports)
        (fun _ _ => False) t := by
  rw [bugSetIpAsReported]
  refine Ends.bind (getOffsetByIp_inText high known.1) ?_
  rintro _ _ ⟨rfl, rfl⟩
  refine Ends.bind (previousBugs_inside h high known.1) ?_
  rintro _ _ ⟨rfl, rfl⟩
  rw [ends_modify]
  exact ⟨rfl, h.add known⟩

/-- A known bug is to be printed unless its place was seen. -/
theorem shouldReportAccessBug_keeps (h : Marks env.kernel seen t.reports)
    (high : kernelHalf ≤ env.kernel.text) (known : bug.Known env.kernel)
    : Ends (shouldReportAccessBug env onFail bug)
        (fun report v =>
          OnlyMap t v
          ∧ (if report then
              bug.place ∉ seen.map Bug.place ∧ Marks env.kernel (seen ++ [bug]) v.reports
            else bug.place ∈ seen.map Bug.place ∧ Marks env.kernel seen v.reports))
        (fun _ _ => False) t := by
  rw [shouldReportAccessBug, ends_bind, ends_get, h.byDefault, if_neg (by decide),
    if_neg (by decide), ends_bind]
  refine ends_ltAssert_pos rfl ?_
  refine Ends.bind (bugAlreadyReported_iff h high known) ?_
  rintro reported _ ⟨already, rfl⟩
  cases reported with
  | true => exact ⟨rfl, already.mp rfl, h⟩
  | false =>
      have fresh : bug.place ∉ seen.map Bug.place := by simpa using already
      refine Ends.bind (bugSetIpAsReported_marks h high known) ?_
      rintro _ v ⟨frame, marks⟩
      exact ⟨frame, fresh, marks⟩

-----------------------------------------------------------------------------------------
-- One flush
-----------------------------------------------------------------------------------------

/-- The map marks the places of the reports that were printed. -/
def Deduplicated (kernel : Kernel) (reports : Reports) : Prop :=
  Marks kernel (printedBugs reports.printed) reports

/-- The pending reports, oldest first. -/
def Reports.pending (reports : Reports) : List Bug :=
  (List.range' 0 reports.nextBugIndex).map reports.bugs.cell

/-- `v` has printed the bugs of `t` in the list whose places `t` had not printed. -/
structure PrintedFirsts (kernel : Kernel) (bugs : List Bug) (t v : Rt) : Prop where
  list : v.reports.bugs = t.reports.bugs
  index : v.reports.nextBugIndex = t.reports.nextBugIndex
  deduplicated : Deduplicated kernel v.reports
  printed
    : printedBugs v.reports.printed = bugs.foldl (keep Bug.place) (printedBugs t.reports.printed)

/-- Lines other than reports do not count. -/
theorem PrintedFirsts.line {bugs : List Bug} {v : Rt} {line : Printed}
    (h : PrintedFirsts env.kernel bugs t v) (other : printedBugs [line] = [])
    : Ends (printLine line) (fun _ w => PrintedFirsts env.kernel bugs t w) (fun _ _ => False)
        v := by
  have same : printedBugs (v.reports.printed ++ [line]) = printedBugs v.reports.printed := by
    rw [printedBugs_append, other, List.append_nil]
  rw [printLine, ends_modify]
  refine ⟨h.list, h.index, ?_, same.trans h.printed⟩
  unfold Deduplicated
  rw [same]
  exact h.deduplicated.congr rfl rfl

theorem PrintedFirsts.trans {bugs more : List Bug} {v w : Rt}
    (first : PrintedFirsts env.kernel bugs t v) (second : PrintedFirsts env.kernel more v w)
    : PrintedFirsts env.kernel (bugs ++ more) t w where
  list := second.list.trans first.list
  index := second.index.trans first.index
  deduplicated := second.deduplicated
  printed := by
    rw [second.printed, first.printed, List.foldl_append]

theorem Deduplicated.start (h : Deduplicated env.kernel t.reports)
    : PrintedFirsts env.kernel [] t t :=
  ⟨rfl, rfl, h, rfl⟩

/-- The map marks one more bug, which is still to be printed. -/
structure Marked (kernel : Kernel) (bug : Bug) (t w : Rt) : Prop where
  list : w.reports.bugs = t.reports.bugs
  index : w.reports.nextBugIndex = t.reports.nextBugIndex
  printed : printedBugs w.reports.printed = printedBugs t.reports.printed
  fresh : bug.place ∉ (printedBugs t.reports.printed).map Bug.place
  marks : Marks kernel (printedBugs t.reports.printed ++ [bug]) w.reports

theorem Marked.begin {v : Rt} (h : Marked env.kernel bug t v)
    : Ends (printLine .restartBegin) (fun _ w => Marked env.kernel bug t w) (fun _ _ => False)
        v := by
  have same : printedBugs (v.reports.printed ++ [.restartBegin])
      = printedBugs v.reports.printed := by
    rw [printedBugs_append]
    exact List.append_nil _
  rw [printLine, ends_modify]
  exact ⟨h.list, h.index, same.trans h.printed, h.fresh, h.marks.congr rfl rfl⟩

theorem Marked.print {v : Rt} (h : Marked env.kernel bug t v) (known : bug.Known env.kernel)
    : Ends (reportPrintAccessBug bug) (fun _ w => PrintedFirsts env.kernel [bug] t w)
        (fun _ _ => False) v := by
  have more : printedBugs (v.reports.printed ++ [.accessBug bug])
      = printedBugs t.reports.printed ++ [bug] := by
    rw [printedBugs_append, h.printed]
    rfl
  rw [reportPrintAccessBug, if_neg known.2, printLine, ends_modify]
  refine ⟨h.list, h.index, ?_, ?_⟩
  · unfold Deduplicated
    rw [more]
    exact h.marks.congr rfl rfl
  · rw [more, List.foldl_cons, List.foldl_nil, keep, if_neg h.fresh]

/-- The loop prints the first bugs of their places, by induction on the bugs left. -/
theorem printReports_firsts (high : kernelHalf ≤ env.kernel.text) {left i : Nat} {flag : Bool}
    (dedup : Deduplicated env.kernel t.reports)
    (known : ∀ j < i + left, (t.reports.bugs.cell j).Known env.kernel)
    (room : i + left ≤ t.reports.bugs.size)
    : Ends (printReports env onFail left i flag)
        (fun _ v =>
          PrintedFirsts env.kernel ((List.range' i left).map t.reports.bugs.cell) t v)
        (fun _ _ => False) t := by
  induction left generalizing i flag t with
  | zero => exact dedup.start
  | succ left ih =>
      rw [printReports, ends_bind, ends_get, ends_bind, ends_fetch]
      refine ⟨fun _ => ?_, fun past => past (by omega)⟩
      have here := known i (by omega)
      -- printed or passed over, this bug is one step before the rest of the loop
      have later {v : Rt} {flag : Bool}
          (step : PrintedFirsts env.kernel [t.reports.bugs.cell i] t v)
          : Ends (printReports env onFail left (i + 1) flag)
              (fun _ w =>
                PrintedFirsts env.kernel ((List.range' i (left + 1)).map t.reports.bugs.cell) t w)
              (fun _ _ => False) v := by
        rw [List.range'_succ, List.map_cons]
        refine (ih step.deduplicated ?_ ?_).imp ?_ (fun _ _ no => no)
        · rw [step.list]
          exact fun j below => known j (by omega)
        · rw [step.list]
          omega
        · intro _ w rest
          rw [step.list] at rest
          exact step.trans rest
      refine Ends.bind (shouldReportAccessBug_keeps dedup high here) ?_
      rintro report v ⟨frame, decided⟩
      have list : v.reports.bugs = t.reports.bugs := by rw [frame]
      have index : v.reports.nextBugIndex = t.reports.nextBugIndex := by rw [frame]
      have printed : v.reports.printed = t.reports.printed := by rw [frame]
      cases report with
      | false =>
          obtain ⟨duplicate, marks⟩ := decided
          refine later ⟨list, index, ?_, ?_⟩
          · unfold Deduplicated
            rw [printed]
            exact marks
          · rw [printed, List.foldl_cons, List.foldl_nil, keep, if_pos duplicate]
      | true =>
          obtain ⟨fresh, marks⟩ := decided
          have marked : Marked env.kernel (t.reports.bugs.cell i) t v :=
            ⟨list, index, congrArg printedBugs printed, fresh, marks⟩
          rw [if_pos rfl]
          cases flag with
          | true => exact Ends.bind (marked.print here) (fun _ _ step => later step)
          | false =>
              refine Ends.bind marked.begin (fun _ w marked => ?_)
              exact Ends.bind (marked.print here) (fun _ _ step => later step)

/-- The queue has its size and only reports of the text, and the map marks what was printed. -/
structure Reports.Sound (kernel : Kernel) (reports : Reports) : Prop where
  tidy : reports.Tidy
  room : reports.nextBugIndex ≤ bugsListSize
  known : ∀ j < reports.nextBugIndex, (reports.bugs.cell j).Known kernel
  deduplicated : Deduplicated kernel reports

/-- A sound queue that was cleared. -/
theorem PrintedFirsts.clear {bugs : List Bug} {v : Rt}
    (h : PrintedFirsts env.kernel bugs t v) (tidy : t.reports.Tidy)
    : Ends reportClearGlobals
        (fun _ w =>
          w.reports.Sound env.kernel
          ∧ printedBugs w.reports.printed
            = bugs.foldl (keep Bug.place) (printedBugs t.reports.printed))
        (fun _ _ => False) v := by
  have size : v.reports.bugs.size = bugsListSize := h.list.symm ▸ tidy.size
  rw [reportClearGlobals, ends_bind, ends_get, ends_ite]
  refine ⟨fun short => absurd short (by omega), fun _ => ?_⟩
  rw [ends_modify]
  refine ⟨⟨⟨size, fun i _ below => if_pos below⟩, Nat.zero_le _, ?_, ?_⟩, h.printed⟩
  · exact fun j below => absurd below (Nat.not_lt_zero j)
  · exact h.deduplicated.congr rfl rfl

/-- A flush prints the pending reports whose place was not printed, each place once. -/
theorem reportPrintAndClear_firsts (high : kernelHalf ≤ env.kernel.text)
    (sound : t.reports.Sound env.kernel) (calledFromRestart : Bool) (restartType : Int)
    : Ends (reportPrintAndClear env onFail calledFromRestart restartType)
        (fun _ v =>
          v.reports.Sound env.kernel
          ∧ printedBugs v.reports.printed
            = t.reports.pending.foldl (keep Bug.place) (printedBugs t.reports.printed))
        (fun _ _ => False) t := by
  rw [reportPrintAndClear, ends_bind, ends_get, ends_ite]
  refine ⟨fun none => ⟨sound, ?_⟩, fun _ => ?_⟩
  · rw [Reports.pending, none]
    rfl
  have room := sound.room
  have known : ∀ j < 0 + t.reports.nextBugIndex, (t.reports.bugs.cell j).Known env.kernel := by
    rw [Nat.zero_add]
    exact sound.known
  have inside : 0 + t.reports.nextBugIndex ≤ t.reports.bugs.size := by
    rw [sound.tidy.size, Nat.zero_add]
    exact room
  refine Ends.bind (printReports_firsts high sound.deduplicated known inside) ?_
  intro printed v firsts
  cases printed with
  | false => exact firsts.clear sound.tidy
  | true =>
      rw [if_pos rfl, ends_bind, ends_get]
      refine Ends.bind (firsts.line rfl) (fun _ w firsts => ?_)
      exact firsts.clear sound.tidy

/-- The instruction a report is about. -/
def ReportCall.ip : ReportCall → Address
  | .kasan _ _ _ ip => ip
  | .ridl _ _ _ ip _ _ => ip
  | .specv1 _ _ _ ip _ _ => ip
  | .smotherspectre ip _ => ip

theorem ReportCall.bug_known {kernel : Kernel} {call : ReportCall}
    (inText : kernel.InText call.ip) (inSpec : Bool) (specLength : BitVec 32)
    : (call.bug kernel inSpec specLength).Known kernel := by
  cases call <;> exact ⟨inText, nofun⟩

/-- A sound queue with room takes a report of the text. -/
theorem Reports.Sound.filled {kernel : Kernel} {reports : Reports} (h : reports.Sound kernel)
    (room : reports.nextBugIndex < bugsListSize) (known : bug.Known kernel)
    : (reports.filled bug).Sound kernel where
  tidy := h.tidy.filled bug
  room := room
  known := by
    intro j below
    rcases Nat.lt_succ_iff_lt_or_eq.mp below with older | rfl
    · have kept := Table.put_cell_other reports.bugs bug (Nat.ne_of_lt older)
      exact kept.symm ▸ h.known j older
    · exact (Table.put_cell_same reports.bugs reports.nextBugIndex bug).symm ▸ known
  deduplicated := h.deduplicated.congr rfl rfl

/-- The reports a report hook flushes: outside speculation all that wait, with its own. -/
def ReportCall.flushed (kernel : Kernel) (call : ReportCall) (t : Rt) : List Bug :=
  if t.inSpeculativeEmulation then [] else (t.stored kernel call).reports.pending

/-- A report of the text goes into the queue, and outside speculation through it. -/
theorem ReportCall.report_firsts {call : ReportCall} (high : kernelHalf ≤ env.kernel.text)
    (sound : t.reports.Sound env.kernel) (inText : env.kernel.InText call.ip)
    (room : t.reports.nextBugIndex < bugsListSize)
    : Ends (call.report env onFail)
        (fun _ v =>
          v.reports.Sound env.kernel
          ∧ printedBugs v.reports.printed
            = (call.flushed env.kernel t).foldl (keep Bug.place)
                (printedBugs t.reports.printed))
        (fun _ _ => False) t := by
  have stores : Stores env call t := sound.tidy.stores room
  have stored : (t.stored env.kernel call).reports.Sound env.kernel :=
    sound.filled room (ReportCall.bug_known inText _ _)
  unfold Ends
  rw [stores.2.2 onFail]
  change Ends (afterReport env onFail) _ _ (t.stored env.kernel call)
  rw [afterReport, ends_bind, ends_get, ends_ite]
  have same : (t.stored env.kernel call).inSpeculativeEmulation = t.inSpeculativeEmulation := rfl
  rw [same, ReportCall.flushed]
  cases t.inSpeculativeEmulation with
  | true => exact ⟨fun no => by contradiction, fun _ => ⟨stored, rfl⟩⟩
  | false =>
      refine ⟨fun _ => ?_, fun no => absurd rfl no⟩
      exact reportPrintAndClear_firsts high stored false (-1)

end

-----------------------------------------------------------------------------------------
-- Runs
-----------------------------------------------------------------------------------------

/-- A step of the runtime as far as reports go, with the reports it flushes: a report hook
past its guards with a slot left, the flush at the end of a restart, or anything else, which
leaves reports alone.
-/
inductive ReportStep (kernel : Kernel) (t : Rt) : List Bug → Rt → Prop
  | report {env : Env} {onFail : SpecAssert → RtM Unit} {call : ReportCall} {u : Rt}
      (ours : env.kernel = kernel) (inText : kernel.InText call.ip)
      (room : t.reports.nextBugIndex < bugsListSize)
      (runs : call.report env onFail t = .ok () u)
      : ReportStep kernel t (call.flushed kernel t) u
  | flush {env : Env} {onFail : SpecAssert → RtM Unit} {restartType : Int} {u : Rt}
      (ours : env.kernel = kernel)
      (runs : reportPrintAndClear env onFail true restartType t = .ok () u)
      : ReportStep kernel t t.reports.pending u
  | other {u : Rt} (same : u.reports = t.reports) : ReportStep kernel t [] u

/-- A run together with the reports it has flushed, in the order of the flushes. -/
inductive ReportRun (kernel : Kernel) (start : Rt) : List Bug → Rt → Prop
  | refl : ReportRun kernel start [] start
  | step {flushed batch : List Bug} {t u : Rt} (run : ReportRun kernel start flushed t)
      (steps : ReportStep kernel t batch u)
      : ReportRun kernel start (flushed ++ batch) u

section
variable {kernel : Kernel} {flushed batch : List Bug} {s t u : Rt}

/-- A step prints what it flushes, the places apart that were printed before. -/
theorem ReportStep.firsts (high : kernelHalf ≤ kernel.text) (sound : t.reports.Sound kernel)
    (steps : ReportStep kernel t batch u)
    : u.reports.Sound kernel
      ∧ printedBugs u.reports.printed
        = batch.foldl (keep Bug.place) (printedBugs t.reports.printed) := by
  cases steps with
  | report ours inText room runs =>
      subst ours
      exact (ReportCall.report_firsts high sound inText room).of_ok runs
  | flush ours runs =>
      subst ours
      exact (reportPrintAndClear_firsts high sound true _).of_ok runs
  | other same =>
      rw [same]
      exact ⟨sound, rfl⟩

/-- Every run prints the first reports of their places, by induction on the steps. -/
theorem ReportRun.firsts (high : kernelHalf ≤ kernel.text) (sound : s.reports.Sound kernel)
    (silent : s.reports.printed = []) (run : ReportRun kernel s flushed t)
    : t.reports.Sound kernel
      ∧ printedBugs t.reports.printed = firsts Bug.place flushed := by
  induction run with
  | refl =>
      rw [silent]
      exact ⟨sound, rfl⟩
  | step _ steps ih =>
      obtain ⟨sound, printed⟩ := ih
      obtain ⟨next, more⟩ := steps.firsts high sound
      exact ⟨next, by rw [more, printed, firsts_append]⟩

/-- The late initialisation leaves an empty queue and a map without marks. -/
theorem Booted.sound {switches : Switches} (booted : Booted kernel switches s)
    (byDefault : switches.printLevel = .printDefault)
    (high : kernelHalf ≤ kernel.text)
    : s.reports.Sound kernel where
  tidy := ⟨booted.size, fun i _ below => booted.slots i below⟩
  room := booted.index ▸ Nat.zero_le _
  known := by
    intro j below
    rw [booted.index] at below
    exact absurd below (Nat.not_lt_zero j)
  deduplicated := by
    refine ⟨booted.printLevel.trans byDefault, booted.mapSize,
      fun i below => (booted.blocks i below).1, ?_⟩
    intro bug known
    obtain ⟨_, _, small⟩ := offset_inside high known.1
    have zero : s.reports.mark kernel bug.kinfo.ip = 0 := (booted.blocks _ small).2 _
    rw [zero, booted.printed]
    have some : getBugMask bug ≠ 0 := by
      unfold getBugMask
      split <;> decide
    refine ⟨fun set => absurd ?_ some, fun no => absurd no List.not_mem_nil⟩
    rw [← set]
    exact BitVec.zero_and

end

/-- Over every run of reports of the kernel's text and flushes, with a slot left for each
report, what is printed is the first flushed report of each instruction and access type, once.
`high` is the layout of a kernel, whose linker places `_text` and `_etext`. No step leaves the
deduplication map: every further report and flush returns.
-/
theorem reports_deduplicated {env : Env} {heap : Heap} {switches : Switches} {mem : Memory}
    {cpu : PtRegs} {irqsEnabled : Bool} {s t : Rt} {flushed : List Bug}
    (fits : heap.writelogAddrs.toNat + writelogBytes < 2 ^ 64)
    (booted
      : commonLateInit env env.onFail heap (Rt.static switches mem cpu irqsEnabled)
        = .ok () s)
    (byDefault : switches.printLevel = .printDefault)
    (high : kernelHalf ≤ env.kernel.text) (run : ReportRun env.kernel s flushed t)
    : printedBugs t.reports.printed = firsts Bug.place flushed
      ∧ (∀ bug ∈ flushed, ((printedBugs t.reports.printed).map Bug.place).count bug.place = 1)
      ∧ ∀ (other : Env) (onFail : SpecAssert → RtM Unit),
          other.kernel = env.kernel
          → (∀ call : ReportCall,
              env.kernel.InText call.ip
              → t.reports.nextBugIndex < bugsListSize
              → ∃ u, call.report other onFail t = .ok () u)
            ∧ ∀ calledFromRestart restartType,
                ∃ u, reportPrintAndClear other onFail calledFromRestart restartType t
                  = .ok () u := by
  have booted : Booted env.kernel switches s := (commonLateInit_booted fits).of_ok booted
  obtain ⟨sound, printed⟩ := run.firsts high (booted.sound byDefault high) booted.printed
  refine ⟨printed, ?_, ?_⟩
  · intro bug member
    rw [printed]
    exact @count_keys_firsts _ _ _ Bug.place flushed bug _ _ member
  · rintro other onFail same
    rw [← same] at high sound
    refine ⟨fun call inText room => ?_, fun calledFromRestart restartType => ?_⟩
    · rw [← same] at inText
      have ends : Ends (call.report other onFail) _ _ t :=
        ReportCall.report_firsts high sound inText room
      obtain ⟨_, u, runs⟩ := ends.returns
      exact ⟨u, runs⟩
    · have ends : Ends (reportPrintAndClear other onFail calledFromRestart restartType) _ _ t :=
        reportPrintAndClear_firsts high sound calledFromRestart restartType
      obtain ⟨_, u, runs⟩ := ends.returns
      exact ⟨u, runs⟩

/-- The sample kernel with its text where kernels have it. -/
def textKernel : Kernel :=
  { sampleKernel with text := 0xffffffff81000000, etext := 0xffffffff82000000 }

def textEnv : Env := { sampleEnv with kernel := textKernel }

/-- That kernel after its late initialisation. -/
def textRt : Rt := endState (commonLateInit textEnv textEnv.onFail sampleHeap) sampleStatic

/-- A report of its text. -/
def textReport : ReportCall := .kasan 0x600000 8 false 0xffffffff81000123

/-- The state after `n` of these reports. -/
def textReported (n : Nat) : Rt :=
  n.repeat (endState (textReport.report textEnv textEnv.onFail)) textRt

/-- Of two reports of one instruction outside speculation, the first is printed. -/
theorem reports_deduplicated_sample
    : printedBugs (textReported 2).reports.printed
        = firsts Bug.place
            (([] ++ textReport.flushed textKernel textRt)
              ++ textReport.flushed textKernel (textReported 1))
      ∧ (∀ bug ∈
            (([] ++ textReport.flushed textKernel textRt)
              ++ textReport.flushed textKernel (textReported 1)),
          ((printedBugs (textReported 2).reports.printed).map Bug.place).count bug.place = 1)
      ∧ ∀ (other : Env) (onFail : SpecAssert → RtM Unit),
          other.kernel = textKernel
          → (∀ call : ReportCall,
              textKernel.InText call.ip
              → (textReported 2).reports.nextBugIndex < bugsListSize
              → ∃ u, call.report other onFail (textReported 2) = .ok () u)
            ∧ ∀ calledFromRestart restartType,
                ∃ u, reportPrintAndClear other onFail calledFromRestart restartType
                    (textReported 2)
                  = .ok () u := by
  have room : (0 : Nat) < bugsListSize := by decide
  have inText : textKernel.InText textReport.ip := by decide
  refine @reports_deduplicated textEnv sampleHeap sampleSwitches (fun _ => 0) (fun _ => 0) true
    textRt _ _ (by decide) rfl rfl (by decide) ?_
  have first : ReportStep textKernel textRt (textReport.flushed textKernel textRt)
      (textReported 1) :=
    @ReportStep.report _ _ textEnv textEnv.onFail textReport _ rfl inText room rfl
  have second : ReportStep textKernel (textReported 1)
      (textReport.flushed textKernel (textReported 1)) (textReported 2) :=
    @ReportStep.report _ _ textEnv textEnv.onFail textReport _ rfl inText room rfl
  exact (ReportRun.refl.step first).step second

end Kasper
