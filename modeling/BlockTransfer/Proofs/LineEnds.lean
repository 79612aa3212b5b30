/-
BlockTransfer.Proofs.LineEnds — how its lines end does not change what a text
says.

Three places deal with the carriage return before a line feed: the lines of a
text drop one, the header trims its lines, and the words of a command line are
runs without blanks. What they have in common is that blanks at the end of a line
do not matter: two texts whose lines are the same up to such blanks read as the
same list, or fail in the same way (`ofText_congr`).

So a carriage return may be put before any of the line feeds
(`Text.withReturns`), also where there are some already, and a text may end with
a line feed or without one (`ofText_line_ends`).
-/
import BlockTransfer.Proofs.ListText

namespace BlockTransfer

namespace Text

/-! ## Blanks at the end of a line -/

theorem trimEnd_dropReturn (line : List Char) : trimEnd (dropReturn line) = trimEnd line := by
  have hreturn : ∀ c ∈ ['\r'], isBlank c := List.forall_mem_singleton.mpr (by decide)
  obtain hsame | hline := dropReturn_cases line
  · rw [hsame]
  · rw [← trimEnd_append hreturn, ← hline]

/-! ## Line ends -/

/-- A text with a carriage return put before each line feed that is chosen; the
choices are made in order, and none is made where they run out. -/
def withReturns : List Bool → List Char → List Char
  | _, [] => []
  | chosen, c :: cs =>
    if c = '\n' then
      if chosen.headD false then '\r' :: '\n' :: withReturns chosen.tail cs
      else '\n' :: withReturns chosen.tail cs
    else c :: withReturns chosen cs

/-- The pieces of two texts that may differ by a carriage return at the end of
any piece but the last. -/
inductive PiecesAlike : List (List Char) → List (List Char) → Prop
  | last (piece) : PiecesAlike [piece] [piece]
  | same (piece) {pieces others} (hrest : PiecesAlike pieces others) :
      PiecesAlike (piece :: pieces) (piece :: others)
  | returned (piece) {pieces others} (hrest : PiecesAlike pieces others) :
      PiecesAlike (piece :: pieces) ((piece ++ ['\r']) :: others)

theorem PiecesAlike.extendHead {pieces others : List (List Char)} (h : PiecesAlike pieces others)
    (c : Char) : PiecesAlike (extendHead c pieces) (extendHead c others) := by
  cases h with
  | last piece => exact .last (c :: piece)
  | same piece hrest => exact .same (c :: piece) hrest
  | returned piece hrest => exact .returned (c :: piece) hrest

theorem piecesAlike_withReturns (chosen : List Bool) (cs : List Char) :
    PiecesAlike (splitAt '\n' cs) (splitAt '\n' (withReturns chosen cs)) := by
  induction cs generalizing chosen with
  | nil => exact .last []
  | cons c cs ih =>
    unfold withReturns
    by_cases hfeed : c = '\n'
    · subst hfeed
      have hreturn : splitAt '\n' ('\r' :: '\n' :: withReturns chosen.tail cs) =
          ['\r'] :: splitAt '\n' (withReturns chosen.tail cs) := rfl
      rw [if_pos rfl, splitAt_cons, if_pos rfl]
      cases chosen.headD false with
      | false => exact .same [] (ih chosen.tail)
      | true =>
        rw [if_pos rfl, hreturn]
        exact .returned [] (ih chosen.tail)
    · rw [if_neg hfeed, splitAt_cons, if_neg hfeed, splitAt_cons, if_neg hfeed]
      exact (ih chosen).extendHead c

theorem PiecesAlike.ne_nil {pieces others : List (List Char)} (h : PiecesAlike pieces others) :
    pieces ≠ [] ∧ others ≠ [] := by
  cases h <;> simp

/-- Such pieces make lines that differ only in blanks at their ends. -/
theorem PiecesAlike.finish {pieces others : List (List Char)} (h : PiecesAlike pieces others) :
    (finish others).map trimEnd = (finish pieces).map trimEnd := by
  induction h with
  | last piece => rfl
  | same piece hrest ih =>
    rw [finish_cons piece hrest.ne_nil.1, finish_cons piece hrest.ne_nil.2, List.map_cons,
      List.map_cons, ih]
  | returned piece hrest ih =>
    have hreturn : ∀ c ∈ ['\r'], isBlank c := List.forall_mem_singleton.mpr (by decide)
    rw [finish_cons piece hrest.ne_nil.1, finish_cons _ hrest.ne_nil.2, List.map_cons,
      List.map_cons, ih, trimEnd_dropReturn, trimEnd_dropReturn, trimEnd_append hreturn]

/-- A last piece that holds something makes the same line with a line feed after
it, up to a carriage return. -/
theorem finish_concat {pieces : List (List Char)} (hne : pieces ≠ [])
    (hlast : pieces.getLast? ≠ some []) :
    (finish (pieces ++ [[]])).map trimEnd = (finish pieces).map trimEnd := by
  induction pieces with
  | nil => exact absurd rfl hne
  | cons piece pieces ih =>
    rw [List.cons_append, finish_cons piece (by simp)]
    cases pieces with
    | nil =>
      have hsome : piece.isEmpty = false := by simpa using hlast
      simp [finish, hsome, trimEnd_dropReturn]
    | cons more pieces =>
      rw [finish_cons piece (by simp), List.map_cons, List.map_cons,
        ih (by simp) (by simpa using hlast)]

end Text

namespace TransferList

/-! ## Reading lines up to blanks at their ends -/

section

variable {line written other tail : List Char} {number : Nat} {command : Command} {slots : Slots}

theorem ofLine?_append (htail : ∀ c ∈ tail, Text.isBlank c) :
    Command.ofLine? (line ++ tail) =
      (Command.ofLine? line).map fun found => (found.1, found.2 ++ tail) := by
  unfold Command.ofLine?
  rw [Text.nextWord?_append htail]
  cases Text.nextWord? line with
  | none => rfl
  | some found =>
    simp only [Option.map_some]
    split
    · rfl
    · split <;> rfl

theorem readField_append (htail : ∀ c ∈ tail, Text.isBlank c) :
    (readField command number (line ++ tail)).result = (readField command number line).result := by
  unfold readField
  rw [Text.nextWord?_append htail]
  cases Text.nextWord? line <;> rfl

theorem readLine_append (htail : ∀ c ∈ tail, Text.isBlank c) :
    (readLine slots number (written ++ tail)).result = (readLine slots number written).result := by
  unfold readLine
  rw [ofLine?_append htail]
  cases Command.ofLine? written with
  | none => rfl
  | some found =>
    obtain ⟨command, rest⟩ := found
    simp only [Option.map_some]
    cases slots.get? command with
    | some set => rfl
    | none => simp only [Logged.result_bind, readField_append htail]

theorem readLine_congr (h : Text.trimEnd written = Text.trimEnd other) :
    (readLine slots number written).result = (readLine slots number other).result := by
  obtain ⟨tail, hwritten, htail⟩ := Text.exists_trimEnd written
  obtain ⟨tail', hother, htail'⟩ := Text.exists_trimEnd other
  rw [hwritten, hother, readLine_append htail, readLine_append htail', h]

end

theorem readLines_congr {lines others : List (List Char)} {slots : Slots} {number : Nat}
    (h : lines.map Text.trimEnd = others.map Text.trimEnd) :
    (readLines slots number lines).result = (readLines slots number others).result := by
  induction lines generalizing others slots number with
  | nil =>
    obtain rfl : others = [] := List.map_eq_nil_iff.mp h.symm
    rfl
  | cons line lines ih =>
    obtain ⟨other, others, rfl, hline, hlines⟩ := List.map_eq_cons_iff.mp h.symm
    simp only [readLines, Logged.result_bind, readLine_congr hline.symm]
    exact congrArg _ (funext fun next => ih hlines.symm)

theorem readHeaderLine_congr {bound : Nat} {positive : 0 < bound} {lines others : List (List Char)}
    (line : Nat) (h : lines.map Text.trimEnd = others.map Text.trimEnd) :
    (readHeaderLine positive lines line).result = (readHeaderLine positive others line).result := by
  have hline : lines[line]?.map Text.trimEnd = others[line]?.map Text.trimEnd := by
    rw [← List.getElem?_map, h, List.getElem?_map]
  unfold readHeaderLine
  cases hwritten : lines[line]? with
  | none =>
    rw [hwritten] at hline
    rw [Option.map_eq_none_iff.mp hline.symm]
  | some written =>
    rw [hwritten] at hline
    obtain ⟨other, hother, htrim⟩ := Option.map_eq_some_iff.mp hline.symm
    have hsame : Text.trim written = Text.trim other := by
      rw [← Text.trim_trimEnd written, ← htrim, Text.trim_trimEnd]
    rw [hother]
    simp only [hsame]

/-- Texts whose lines are the same up to blanks at their ends read the same. -/
theorem ofText_congr {text other : String}
    (h : (Text.lines text.toList).map Text.trimEnd = (Text.lines other.toList).map Text.trimEnd) :
    (ofText text).result = (ofText other).result := by
  have hbody : ((Text.lines text.toList).drop 2).map Text.trimEnd =
      ((Text.lines other.toList).drop 2).map Text.trimEnd := by
    rw [List.map_drop, h, List.map_drop]
  have hcommands : (Commands.ofLines (Text.lines text.toList)).result =
      (Commands.ofLines (Text.lines other.toList)).result := by
    simp only [Commands.ofLines, Logged.result_bind, readLines_congr hbody]
  simp only [ofText, Header.ofLines, Logged.result_bind, readHeaderLine_congr _ h, hcommands]

/-- A text reads as the same list, or fails with the same error, whichever of its
line feeds have a carriage return before them, and with or without a line feed
after its last line. -/
theorem ofText_line_ends (text : String) :
    (∀ chosen : List Bool,
      (ofText (String.ofList (Text.withReturns chosen text.toList))).result =
        (ofText text).result) ∧
    (text ≠ "" → text.toList.getLast? ≠ some '\n' →
      (ofText (text ++ "\n")).result = (ofText text).result) := by
  refine ⟨fun chosen => ofText_congr ?_, fun hne hlast => ofText_congr ?_⟩
  · rw [String.toList_ofList, Text.lines_eq_finish, Text.lines_eq_finish]
    exact (Text.piecesAlike_withReturns chosen text.toList).finish
  · have hcs : text.toList ≠ [] := by simpa using hne
    have hfeed : (text ++ "\n").toList = text.toList ++ ['\n'] := String.toList_append
    rw [hfeed, Text.lines_eq_finish, Text.lines_eq_finish, Text.splitAt_concat]
    exact Text.finish_concat (Text.splitAt_ne_nil _ _)
      (mt (Text.getLast?_of_getLast?_splitAt hcs) hlast)

/-- Carriage returns come to stand before the first and the third line feed, after
one that is there already, and the same error is found on the last line. -/
theorem ofText_line_ends_inverted :
    ∃ text other, text = "7\n8\nnew 2,3,5 \r\nerase 2,9,1" ∧
      other = "7\r\n8\nnew 2,3,5 \r\r\nerase 2,9,1" ∧
      (ofText other).result = (ofText text).result ∧
      (ofText (text ++ "\n")).result = (ofText text).result ∧
      (ofText text).result = .error (.invertedRange 9 1) := by
  obtain ⟨hreturns, hfeed⟩ := ofText_line_ends "7\n8\nnew 2,3,5 \r\nerase 2,9,1"
  exact ⟨_, _, rfl, rfl, hreturns [true, false, true], hfeed (by decide) (by decide),
    by decide +kernel⟩

end TransferList

end BlockTransfer
