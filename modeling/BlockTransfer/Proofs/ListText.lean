/-
BlockTransfer.Proofs.ListText — reading the text of a transfer list.

A text is lines with line feeds between them. Its first two lines hold the
version and the total count of blocks, in decimal and with blanks around them,
and the lines after these give a set for each of the two commands, in the sense
of `Proofs.CommandLines`. Such a text reads as the list that it says
(`ofText_gives`), whatever other lines it has and however its lines end.
-/
import BlockTransfer.Proofs.CommandLines
import BlockTransfer.TransferList.Parser

namespace BlockTransfer.TransferList

/-! ## The header -/

/-- A number that is alone on its line is read, if it lies below the bound. -/
theorem readHeaderLine_of_trim {bound : Nat} {positive : 0 < bound} {lines : List (List Char)}
    {line : Nat} {written : List Char} {number : Fin bound} (hline : lines[line]? = some written)
    (hwritten : Text.trim written = Text.decimal number) :
    (readHeaderLine positive lines line).result = .ok number := by
  have hread : Text.readNumeral positive (Text.decimal number) = .ok number :=
    Text.readNumeral_eq_ok_iff.mpr (Text.isNumeral_decimal number)
  simp only [readHeaderLine, hline, hwritten, hread, Logged.result_pure]

theorem ofLines_of_trim {version : Fin versionLimit} {totalBlocks : Fin wordLimit}
    {first second : List Char} {body : List (List Char)}
    (hfirst : Text.trim first = Text.decimal version)
    (hsecond : Text.trim second = Text.decimal totalBlocks) :
    (Header.ofLines (first :: second :: body)).result = .ok ⟨version, totalBlocks⟩ := by
  have hversion : (readHeaderLine versionLimit_pos (first :: second :: body) 0).result =
      .ok version := readHeaderLine_of_trim rfl hfirst
  have htotal : (readHeaderLine wordLimit_pos (first :: second :: body) 1).result =
      .ok totalBlocks := readHeaderLine_of_trim rfl hsecond
  simp only [Header.ofLines, Logged.result_bind, hversion, htotal, Except.bind, Logged.result_pure]

theorem trim_dropReturn (line : List Char) : Text.trim (Text.dropReturn line) = Text.trim line := by
  obtain hsame | hreturn := Text.dropReturn_cases line
  · rw [hsame]
  · have hblank : ∀ c ∈ ['\r'], Text.isBlank c := List.forall_mem_singleton.mpr (by decide)
    rw [← Text.trim_append hblank, ← hreturn]

/-- The pieces of a header make its two lines, whatever follows. -/
theorem finish_header {first second : List Char} (body : List (List Char)) (hsecond : second ≠ []) :
    ∃ version totalBlocks,
      Text.finish (first :: second :: body) = version :: totalBlocks :: Text.finish body ∧
        Text.trim version = Text.trim first ∧ Text.trim totalBlocks = Text.trim second := by
  cases body with
  | nil =>
    have hline : second.isEmpty = false := by simpa using hsecond
    exact ⟨Text.dropReturn first, second, by simp [Text.finish, hline], trim_dropReturn first, rfl⟩
  | cons line body =>
    exact ⟨Text.dropReturn first, Text.dropReturn second, rfl, trim_dropReturn first,
      trim_dropReturn second⟩

/-! ## The commands -/

theorem ofLines_of_gives {sets : Command → RangeSet} {first second : List Char}
    {lines : List (List Char)} (hcount : ∀ command, (sets command).count < rangeLimit)
    (hgives : ∀ command, Gives command (sets command) lines) :
    (Commands.ofLines (first :: second :: lines)).result =
      .ok ⟨sets .erase, sets .new⟩ := by
  have hawaits : ∀ command, Awaits .empty command (sets command) lines := fun command =>
    .inr ⟨by cases command <;> rfl, hgives command⟩
  obtain ⟨final, hread, hfinal⟩ := readLines_gives 2 hcount hawaits
  have herase : final.erase?.getD .empty = sets .erase := hfinal .erase
  have hnew : final.new?.getD .empty = sets .new := hfinal .new
  simp only [Commands.ofLines, List.drop_succ_cons, List.drop_zero, Logged.result_bind, hread,
    Except.bind, Logged.result_pure, herase, hnew]

/-! ## The text -/

/-- The set that a list has for a command. -/
def setOf (list : TransferList) : Command → RangeSet
  | .erase => list.eraseSet
  | .new => list.newSet

/-- Blanks around a number are trimmed away. -/
theorem trim_of_padded_decimal {number : Nat} {line : List Char}
    (h : Text.Padded (Text.decimal number) line) : Text.trim line = Text.decimal number :=
  Text.trim_of_padded h (RangeSet.isSolid_of_isNumeral (Text.isNumeral_decimal number))

/-- A text reads as a list when its first two lines hold the numbers of the
list and the lines after them give its sets. -/
theorem ofText_gives {list : TransferList} {text : String} {first second : List Char}
    {body : List (List Char)} (htext : text.toList = Text.joinWith '\n' (first :: second :: body))
    (hlines : ∀ line ∈ first :: second :: body, '\n' ∉ line)
    (hversion : Text.Padded (Text.decimal list.version) first)
    (htotal : Text.Padded (Text.decimal list.totalBlocks) second)
    (herase : Gives .erase list.eraseSet body) (hnew : Gives .new list.newSet body)
    (heraseCount : list.eraseSet.count < rangeLimit) (hnewCount : list.newSet.count < rangeLimit) :
    (ofText text).result = .ok list := by
  have hfirst := trim_of_padded_decimal hversion
  have hsecond := trim_of_padded_decimal htotal
  have hsome : second ≠ [] := by
    rintro rfl
    exact (Text.isPlain_decimal list.totalBlocks).ne_nil hsecond.symm
  obtain ⟨version, totalBlocks, hfinish, hversion', htotal'⟩ := finish_header body hsome
  have hheader : (Header.ofLines (version :: totalBlocks :: Text.finish body)).result =
      .ok ⟨list.version, list.totalBlocks⟩ :=
    ofLines_of_trim (hversion'.trans hfirst) (htotal'.trans hsecond)
  have hcount : ∀ command, (list.setOf command).count < rangeLimit := by
    intro command
    cases command with
    | erase => exact heraseCount
    | new => exact hnewCount
  have hgives : ∀ command, Gives command (list.setOf command) (Text.finish body) := by
    intro command
    cases command with
    | erase => exact herase.finish
    | new => exact hnew.finish
  have hcommands : (Commands.ofLines (version :: totalBlocks :: Text.finish body)).result =
      .ok ⟨list.eraseSet, list.newSet⟩ := ofLines_of_gives hcount hgives
  simp only [ofText, htext, Text.lines_joinWith (List.cons_ne_nil _ _) hlines, hfinish,
    Logged.result_bind, hheader, hcommands, Except.bind, Logged.result_pure]

/-- A text with the two commands among other lines, one of them repeated with a
field that does not read. -/
theorem ofText_gives_mixed :
    ∃ list : TransferList, list.version.val = 1 ∧ list.totalBlocks.val = 8 ∧
      list.eraseSet.ranges = [⟨4, 6, by decide, by decide⟩] ∧
      list.newSet.ranges = [⟨0, 1, by decide, by decide⟩, ⟨2, 3, by decide, by decide⟩] ∧
      (ofText " 1\t\r\n8\nnews 2\n\tnew 4,0,1,2,3 x\r\nnew 3\nerase 2,4,6\n").result =
        .ok list := by
  have hversion : Text.Padded (Text.decimal 1) " 1\t\r".toList := Text.padded_trim _
  have htotal : Text.Padded (Text.decimal 8) "8".toList := Text.padded_trim _
  have hnew : Carries .new "4,0,1,2,3".toList "\tnew 4,0,1,2,3 x\r".toList :=
    ⟨" 4,0,1,2,3 x\r".toList, " x\r".toList, nextWord?_eq_word_iff.mp (by decide),
      (Text.nextWord?_eq_some_iff.mp (by decide)).2.2⟩
  have herase : Carries .erase "2,4,6".toList "erase 2,4,6".toList :=
    ⟨" 2,4,6".toList, [], nextWord?_eq_word_iff.mp (by decide),
      (Text.nextWord?_eq_some_iff.mp (by decide)).2.2⟩
  refine ⟨⟨⟨1, by decide⟩, ⟨8, by decide⟩, ⟨[⟨4, 6, by decide, by decide⟩]⟩,
    ⟨[⟨0, 1, by decide, by decide⟩, ⟨2, 3, by decide, by decide⟩]⟩⟩, rfl, rfl, rfl, rfl, ?_⟩
  refine ofText_gives (by decide : _ = Text.joinWith '\n' (" 1\t\r".toList :: "8".toList ::
      ["news 2".toList, "\tnew 4,0,1,2,3 x\r".toList, "new 3".toList, "erase 2,4,6".toList, []]))
    (by decide) hversion htotal ?_ ?_ (by decide) (by decide)
  · exact .later (by decide) (.later (by decide) (.later (by decide) (.found herase)))
  · exact .later (by decide) (.found hnew)

end BlockTransfer.TransferList
