/-
BlockTransfer.Text.Split.Lemmas — splitting and joining undo each other.

Cutting a text at a separator is the library's `splitOn`, so the two laws about
it carry over: pieces that are joined and cut again are the same, if none of
them holds the separator, and every text is its pieces joined. The lines of a
text come from such pieces: each but the last without its carriage return, and
the last unless it is empty (`lines_joinWith`, `lines_eq_finish`).
-/
import BlockTransfer.Text.Split
import Mathlib.Algebra.Ring.Nat

namespace BlockTransfer.Text

/-! ## Pieces -/

theorem splitAt_eq_splitOn (separator : Char) (cs : List Char) :
    splitAt separator cs = cs.splitOn separator := by
  induction cs with
  | nil => rw [splitAt_nil, List.splitOn_nil]
  | cons c cs ih =>
    rw [splitAt_cons, List.splitOn_cons_eq_if_modifyHead, ih]
    have hne := List.splitOn_ne_nil separator cs
    by_cases hseparator : c = separator
    · simp [hseparator]
    · cases hpieces : cs.splitOn separator with
      | nil => exact absurd hpieces hne
      | cons piece pieces => simp [hseparator, extendHead]

/-- Pieces without the separator come back from the text that they make. -/
theorem splitAt_joinWith {separator : Char} {pieces : List (List Char)} (hne : pieces ≠ [])
    (hfree : ∀ piece ∈ pieces, separator ∉ piece) :
    splitAt separator (joinWith separator pieces) = pieces := by
  rw [splitAt_eq_splitOn]
  exact List.splitOn_intercalate separator hfree hne

/-- A text is its pieces with the separator between them. -/
theorem joinWith_splitAt (separator : Char) (cs : List Char) :
    joinWith separator (splitAt separator cs) = cs := by
  rw [splitAt_eq_splitOn]
  exact List.intercalate_splitOn separator

theorem not_mem_of_mem_splitAt {separator : Char} {cs piece : List Char}
    (h : piece ∈ splitAt separator cs) : separator ∉ piece := by
  induction cs generalizing piece with
  | nil => simp_all
  | cons c cs ih =>
    rw [splitAt_cons] at h
    by_cases hseparator : c = separator
    · rw [if_pos hseparator] at h
      rcases List.mem_cons.mp h with rfl | hmem
      · simp
      · exact ih hmem
    · rw [if_neg hseparator] at h
      cases hpieces : splitAt separator cs with
      | nil => exact absurd hpieces (splitAt_ne_nil separator cs)
      | cons first rest =>
        rw [hpieces, extendHead] at h
        rcases List.mem_cons.mp h with rfl | hmem
        · have hfirst : separator ∉ first := ih (by simp [hpieces])
          simp [hfirst, Ne.symm hseparator]
        · exact ih (by simp [hpieces, hmem])

/-- Every text has its pieces, at least one. -/
theorem exists_pieces (separator : Char) (cs : List Char) :
    ∃ piece pieces, splitAt separator cs = piece :: pieces ∧
      cs = joinWith separator (piece :: pieces) ∧
      ∀ other ∈ piece :: pieces, separator ∉ other := by
  cases hpieces : splitAt separator cs with
  | nil => exact absurd hpieces (splitAt_ne_nil separator cs)
  | cons piece pieces =>
    refine ⟨piece, pieces, rfl, ?_, fun other hmem => ?_⟩
    · rw [← hpieces, joinWith_splitAt]
    · rw [← hpieces] at hmem
      exact not_mem_of_mem_splitAt hmem

/-- What stands in joined pieces stands in one of them, or is the separator. -/
theorem mem_joinWith {separator c : Char} {pieces : List (List Char)}
    (h : c ∈ joinWith separator pieces) : c = separator ∨ ∃ piece ∈ pieces, c ∈ piece := by
  induction pieces with
  | nil => simp [joinWith] at h
  | cons piece pieces ih =>
    cases pieces with
    | nil => exact .inr ⟨piece, by simp, by simpa [joinWith] using h⟩
    | cons more pieces =>
      rw [joinWith, List.intercalate_cons_cons, List.append_assoc, List.mem_append,
        List.mem_append, List.mem_singleton] at h
      obtain h | h | h := h
      · exact .inr ⟨piece, by simp, h⟩
      · exact .inl h
      · obtain h | ⟨other, hmem, h⟩ := ih h
        · exact .inl h
        · exact .inr ⟨other, by simp [List.mem_cons.mp hmem], h⟩

/-! ## Pieces that end -/

/-- The pieces with a separator after each of them. -/
def ended (separator : Char) (pieces : List (List Char)) : List Char :=
  pieces.flatMap (· ++ [separator])

theorem ended_append (separator : Char) (pieces more : List (List Char)) :
    ended separator (pieces ++ more) = ended separator pieces ++ ended separator more :=
  List.flatMap_append

/-- What follows the last separator is a piece of its own, an empty one here. -/
theorem ended_eq_joinWith (separator : Char) (pieces : List (List Char)) :
    ended separator pieces = joinWith separator (pieces ++ [[]]) := by
  induction pieces with
  | nil => rfl
  | cons piece pieces ih =>
    have hne : pieces ++ [[]] ≠ [] := by simp
    obtain ⟨first, more, hpieces⟩ := List.exists_cons_of_ne_nil hne
    rw [hpieces] at ih
    rw [List.cons_append, hpieces, joinWith, List.intercalate_cons_cons, ← joinWith, ← ih, ended,
      List.flatMap_cons, ← ended]

theorem splitAt_ended {separator : Char} {pieces : List (List Char)}
    (hfree : ∀ piece ∈ pieces, separator ∉ piece) :
    splitAt separator (ended separator pieces) = pieces ++ [[]] := by
  rw [ended_eq_joinWith]
  refine splitAt_joinWith (by simp) fun piece hmem => ?_
  rcases List.mem_append.mp hmem with hmem | hmem
  · exact hfree piece hmem
  · simp [List.mem_singleton.mp hmem]

/-- After a line feed at the end of a text comes an empty piece. -/
theorem splitAt_concat (separator : Char) (cs : List Char) :
    splitAt separator (cs ++ [separator]) = splitAt separator cs ++ [[]] := by
  induction cs with
  | nil => simp [splitAt_cons]
  | cons c cs ih =>
    obtain ⟨piece, pieces, hsplit, _⟩ := exists_pieces separator cs
    rw [List.cons_append, splitAt_cons, splitAt_cons, ih, hsplit]
    split <;> rfl

/-- The last piece is empty when the text is, or ends in the separator. -/
theorem getLast?_of_getLast?_splitAt {separator : Char} {cs : List Char} (hne : cs ≠ [])
    (h : (splitAt separator cs).getLast? = some []) : cs.getLast? = some separator := by
  obtain ⟨pieces, hsplit⟩ := List.getLast?_eq_some_iff.mp h
  have hcs : ended separator pieces = cs := by
    rw [ended_eq_joinWith, ← hsplit, joinWith_splitAt]
  rcases List.eq_nil_or_concat pieces with rfl | ⟨start, piece, rfl⟩
  · exact absurd hcs.symm hne
  · rw [← hcs, ended, List.concat_eq_append, List.flatMap_append, List.flatMap_singleton,
      ← List.append_assoc, List.getLast?_concat]

theorem length_ended (separator : Char) (pieces : List (List Char)) :
    (ended separator pieces).length = (pieces.map (·.length + 1)).sum := by
  simp [ended, List.length_flatMap]

theorem mem_ended {separator c : Char} {pieces : List (List Char)}
    (h : c ∈ ended separator pieces) : c = separator ∨ ∃ piece ∈ pieces, c ∈ piece := by
  obtain ⟨piece, hmem, hc⟩ := List.mem_flatMap.mp h
  rcases List.mem_append.mp hc with hc | hc
  · exact .inr ⟨piece, hmem, hc⟩
  · exact .inl (List.mem_singleton.mp hc)

/-! ## Lines -/

/-- A line with its carriage return dropped is the line, or the line is that
and a carriage return. -/
theorem dropReturn_cases (line : List Char) :
    dropReturn line = line ∨ line = dropReturn line ++ ['\r'] := by
  unfold dropReturn
  split
  · next hlast =>
    obtain ⟨start, rfl⟩ := List.getLast?_eq_some_iff.mp hlast
    exact .inr (by rw [List.dropLast_concat])
  · exact .inl rfl

/-- The lines that the pieces between line feeds make. -/
def finish : List (List Char) → List (List Char)
  | [] => []
  | [last] => if last.isEmpty then [] else [last]
  | line :: more :: lines => dropReturn line :: finish (more :: lines)

theorem lines_joinWith {pieces : List (List Char)} (hne : pieces ≠ [])
    (hfree : ∀ piece ∈ pieces, '\n' ∉ piece) :
    lines (joinWith '\n' pieces) = finish pieces := by
  unfold lines
  rw [splitAt_joinWith hne hfree]
  clear hfree
  induction pieces with
  | nil => exact absurd rfl hne
  | cons line pieces ih =>
    cases pieces with
    | nil => rfl
    | cons more pieces =>
      have hrest := ih (by simp)
      simp only [finish, ← hrest, List.dropLast_cons_cons, List.map_cons, List.cons_append,
        List.getLastD_cons]

theorem lines_eq_finish (cs : List Char) : lines cs = finish (splitAt '\n' cs) := by
  obtain ⟨piece, pieces, hsplit, hcs, hfree⟩ := exists_pieces '\n' cs
  rw [hsplit, ← lines_joinWith (List.cons_ne_nil _ _) hfree, ← hcs]

/-- A piece that others follow ends its line. -/
theorem finish_cons (piece : List Char) {pieces : List (List Char)} (hne : pieces ≠ []) :
    finish (piece :: pieces) = dropReturn piece :: finish pieces := by
  cases pieces with
  | nil => exact absurd rfl hne
  | cons more pieces => rfl

end BlockTransfer.Text
