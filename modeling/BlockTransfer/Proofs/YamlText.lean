/-
BlockTransfer.Proofs.YamlText — the YAML document of a list loses nothing.

The document is lines: one for each number of the header, and for each set a
line with its key, a line that opens the sequence of its ranges, and two lines
for each range (`toList_toYaml`). Nothing says how many ranges there are, and one
set follows the other. The lines of a range can be told from all others by how
they begin, so the ranges of a set end where no such line comes
(`rangeLines_cancel`), and an empty set has another line in the place of the one
that opens the sequence. Hence the lines of a set are known from those of the set
and what follows, as long as no line of a range follows (`setLines_cancel`).
-/
import BlockTransfer.Text.Numeral.Lemmas
import BlockTransfer.Text.Split.Lemmas
import BlockTransfer.TransferList.Yaml

namespace BlockTransfer.TransferList

/-! ## The lines of the document -/

/-- A line that ends in a number. -/
def numberLine (lead : String) (n : Nat) : List Char :=
  lead.toList ++ Text.decimal n

/-- The two lines of a range. -/
def rangeLines (range : BlockRange) : List (List Char) :=
  [numberLine "  - - " range.start, numberLine "    - " range.stop]

/-- The lines that a set begins with: its key, and whether ranges follow. -/
def openingLines (key : String) (set : RangeSet) : List (List Char) :=
  [(key ++ ":").toList, (if set.ranges = [] then "  pairs: []" else "  pairs:").toList]

/-- The lines of a set. -/
def setLines (key : String) (set : RangeSet) : List (List Char) :=
  openingLines key set ++ set.ranges.flatMap rangeLines

/-- All lines of the document. -/
def documentLines (list : TransferList) : List (List Char) :=
  numberLine "version: " list.version :: numberLine "total_blocks: " list.totalBlocks ::
    (setLines "erase_set" list.eraseSet ++ setLines "new_set" list.newSet)

theorem toList_yamlRange (range : BlockRange) :
    (yamlRange range).toList = Text.ended '\n' (rangeLines range) := by
  simp [yamlRange, rangeLines, numberLine, Text.ended, toString, Text.decimal]

theorem toList_yamlRanges (ranges : List BlockRange) :
    (String.join (ranges.map yamlRange)).toList = Text.ended '\n' (ranges.flatMap rangeLines) := by
  induction ranges with
  | nil => rfl
  | cons range ranges ih =>
    rw [List.map_cons, String.join_cons, String.toList_append, toList_yamlRange, ih,
      List.flatMap_cons, Text.ended_append]

theorem toList_yamlSet (key : String) (set : RangeSet) :
    (yamlSet key set).toList = Text.ended '\n' (setLines key set) := by
  obtain ⟨ranges⟩ := set
  cases ranges with
  | nil => simp [yamlSet, setLines, openingLines, Text.ended, toString]
  | cons range ranges =>
    have hranges := toList_yamlRanges (range :: ranges)
    simp only [yamlSet, setLines, openingLines, Text.ended_append, String.toList_append, hranges]
    simp [Text.ended, toString]

theorem toList_toYaml (list : TransferList) :
    list.toYaml.toList = Text.ended '\n' (documentLines list) := by
  have hheader : (s!"version: {list.version.val}\ntotal_blocks: {list.totalBlocks.val}\n").toList =
      Text.ended '\n'
        [numberLine "version: " list.version, numberLine "total_blocks: " list.totalBlocks] := by
    simp [numberLine, Text.ended, toString, Text.decimal]
  delta toYaml
  rw [String.toList_append, String.toList_append, toList_yamlSet, toList_yamlSet, hheader,
    ← Text.ended_append, ← Text.ended_append]
  rfl

theorem newline_not_mem_numberLine {lead : String} (hlead : '\n' ∉ lead.toList) (n : Nat) :
    '\n' ∉ numberLine lead n := by
  intro hmem
  rcases List.mem_append.mp hmem with hmem | hmem
  · exact hlead hmem
  · exact absurd ((Text.isPlain_decimal n).digits _ hmem) (by decide)

theorem newline_not_mem_setLines {key : String} (hkey : '\n' ∉ key.toList) (set : RangeSet) :
    ∀ line ∈ setLines key set, '\n' ∉ line := by
  intro line hline
  rcases List.mem_append.mp hline with hline | hline
  · simp only [openingLines, List.mem_cons, List.not_mem_nil, or_false] at hline
    obtain rfl | rfl := hline
    · simp [hkey]
    · split <;> decide
  · obtain ⟨range, _, hline⟩ := List.mem_flatMap.mp hline
    simp only [rangeLines, List.mem_cons, List.not_mem_nil, or_false] at hline
    obtain rfl | rfl := hline
    · exact newline_not_mem_numberLine (by decide) _
    · exact newline_not_mem_numberLine (by decide) _

/-- No line of the document holds a line feed, so the document has these lines
and no others. -/
theorem newline_not_mem_documentLines (list : TransferList) :
    ∀ line ∈ documentLines list, '\n' ∉ line := by
  intro line hline
  simp only [documentLines, List.mem_cons, List.mem_append] at hline
  obtain rfl | rfl | hline | hline := hline
  · exact newline_not_mem_numberLine (by decide) _
  · exact newline_not_mem_numberLine (by decide) _
  · exact newline_not_mem_setLines (by decide) _ line hline
  · exact newline_not_mem_setLines (by decide) _ line hline

/-- Documents are the same when their lines are. -/
theorem toYaml_eq_iff_lines {list other : TransferList} :
    list.toYaml = other.toYaml ↔ documentLines list = documentLines other := by
  rw [← String.toList_inj, toList_toYaml, toList_toYaml]
  refine ⟨fun h => ?_, congrArg _⟩
  have hpieces := congrArg (Text.splitAt '\n') h
  rw [Text.splitAt_ended (newline_not_mem_documentLines list),
    Text.splitAt_ended (newline_not_mem_documentLines other)] at hpieces
  exact List.append_cancel_right hpieces

/-! ## Telling the lines apart -/

theorem numberLine_inj {lead : String} {n m : Nat} :
    numberLine lead n = numberLine lead m ↔ n = m := by
  rw [numberLine, numberLine, List.append_cancel_left_eq, Text.decimal_inj]

/-- Lines of which the first, if there is one, is no first line of a range. -/
def NoRange (lines : List (List Char)) : Prop :=
  ∀ line ∈ lines.head?, ∀ n, line ≠ numberLine "  - - " n

theorem noRange_setLines {key : String} (hkey : key.toList.head? ≠ some ' ') (set : RangeSet) :
    NoRange (setLines key set) := by
  intro line hline n hnumber
  obtain rfl : (key ++ ":").toList = line := Option.some.inj hline
  have hhead := congrArg List.head? hnumber
  cases hcs : key.toList with
  | nil => simp [numberLine, hcs] at hhead
  | cons c cs => simp_all [numberLine]

/-- Ranges are known from their lines and what follows them, when that is not
another range. -/
theorem rangeLines_cancel {ranges others : List BlockRange} {rest more : List (List Char)}
    (hrest : NoRange rest) (hmore : NoRange more)
    (h : ranges.flatMap rangeLines ++ rest = others.flatMap rangeLines ++ more) :
    ranges = others ∧ rest = more := by
  induction ranges generalizing others with
  | nil =>
    cases others with
    | nil => exact ⟨rfl, h⟩
    | cons other others =>
      -- What follows no range would be a range.
      have hline : numberLine "  - - " other.start ∈ rest.head? := by
        simp_all [rangeLines]
      exact absurd rfl (hrest _ hline other.start)
  | cons range ranges ih =>
    cases others with
    | nil =>
      have hline : numberLine "  - - " range.start ∈ more.head? := by
        rw [List.flatMap_nil, List.nil_append] at h
        simp [← h, rangeLines]
      exact absurd rfl (hmore _ hline range.start)
    | cons other others =>
      simp only [List.flatMap_cons, rangeLines, List.cons_append, List.nil_append, List.cons.injEq,
        numberLine_inj] at h
      obtain ⟨hstart, hstop, h⟩ := h
      obtain ⟨rfl, hrests⟩ := ih h
      cases range
      cases other
      simp_all

/-- A set is known from its lines and what follows them, when that does not begin
with a range. -/
theorem setLines_cancel {key : String} {set other : RangeSet} {rest more : List (List Char)}
    (hrest : NoRange rest) (hmore : NoRange more)
    (h : setLines key set ++ rest = setLines key other ++ more) : set = other ∧ rest = more := by
  simp only [setLines, openingLines, List.cons_append, List.nil_append,
    List.cons.injEq, true_and] at h
  obtain ⟨hranges, hfollowing⟩ := rangeLines_cancel hrest hmore h.2
  cases set
  cases other
  exact ⟨congrArg _ hranges, hfollowing⟩

theorem documentLines_inj {list other : TransferList} :
    documentLines list = documentLines other ↔ list = other := by
  refine ⟨fun h => ?_, congrArg _⟩
  simp only [documentLines, List.cons.injEq, numberLine_inj] at h
  obtain ⟨hversion, htotal, hsets⟩ := h
  have hnew : ∀ set, NoRange (setLines "new_set" set) := noRange_setLines (by decide)
  obtain ⟨herase, hlast⟩ := setLines_cancel (hnew _) (hnew _) hsets
  have hnone : NoRange [] := by simp [NoRange]
  obtain ⟨hnew, _⟩ := setLines_cancel hnone hnone
    (by simpa using hlast : _ ++ [] = setLines "new_set" other.newSet ++ [])
  cases list
  cases other
  simp_all [Fin.ext_iff]

/-- Two lists have the same document just when all that they say is the same:
their versions, their totals, and the ranges of each set in order. -/
theorem toYaml_eq_iff (list other : TransferList) :
    list.toYaml = other.toYaml ↔
      list.version = other.version ∧ list.totalBlocks = other.totalBlocks ∧
        list.eraseSet.pairs = other.eraseSet.pairs ∧ list.newSet.pairs = other.newSet.pairs := by
  rw [toYaml_eq_iff_lines, documentLines_inj, RangeSet.pairs_inj, RangeSet.pairs_inj]
  cases list
  cases other
  simp

end BlockTransfer.TransferList
