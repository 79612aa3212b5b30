/-
BlockTransfer.TransferList.Table.Lemmas — how a table is drawn, and what a
terminal shows of it.

`unstyled` takes out the two sequences that style a table, and `Shows styled
shown` is what it makes of a piece wherever the piece stands, so that a drawing
is read piece by piece (`Shows.append`, `Shows.join`).

A row can be drawn when it has seven texts in which nothing stands that is used
to draw it (`Drawable`). Its line is as long as the columns are wide
(`length_shownLine`), and the texts come back when the line is cut at the bars
and the blanks are trimmed away (`texts_shownLine`), wherever in its column a
text was placed. `IsGrid` says this of all the lines between rules.
-/
import BlockTransfer.Text.Blank.Lemmas
import BlockTransfer.Text.Split.Lemmas
import BlockTransfer.TransferList.Table
import Mathlib.Data.List.Forall2

namespace BlockTransfer.TransferList.Table

/-! ## What is shown of a styled text -/

/-- A text without the sequences for plain text and for bold. -/
def unstyled : List Char → List Char
  | '\x1b' :: '[' :: '0' :: 'm' :: cs => unstyled cs
  | '\x1b' :: '[' :: '1' :: 'm' :: cs => unstyled cs
  | c :: cs => c :: unstyled cs
  | [] => []

/-- What is shown of a text that stands before others. -/
def Shows (styled : String) (shown : List Char) : Prop :=
  ∀ rest, unstyled (styled.toList ++ rest) = shown ++ unstyled rest

theorem unstyled_cons {c : Char} (h : c ≠ '\x1b') (cs : List Char) :
    unstyled (c :: cs) = c :: unstyled cs := by
  rw [unstyled]
  · rintro cs rfl
    exact absurd rfl h
  · rintro cs rfl
    exact absurd rfl h

theorem shows_plain : Shows plain [] := fun rest => by
  have hsequence : plain.toList ++ rest = '\x1b' :: '[' :: '0' :: 'm' :: rest := rfl
  rw [hsequence, unstyled, List.nil_append]

theorem shows_bold : Shows bold [] := fun rest => by
  have hsequence : bold.toList ++ rest = '\x1b' :: '[' :: '1' :: 'm' :: rest := rfl
  rw [hsequence, unstyled, List.nil_append]

/-- A text without the escape character is shown as it is. -/
theorem shows_of_free {text : String} (hfree : '\x1b' ∉ text.toList) : Shows text text.toList := by
  intro rest
  generalize text.toList = cs at hfree ⊢
  induction cs with
  | nil => rfl
  | cons c cs ih =>
    have hne : c ≠ '\x1b' := fun heq => hfree (by simp [heq])
    have hrest : '\x1b' ∉ cs := fun hmem => hfree (List.mem_cons_of_mem c hmem)
    rw [List.cons_append, unstyled_cons hne, ih hrest, List.cons_append]

theorem Shows.append {first second : String} {shown more : List Char} (hfirst : Shows first shown)
    (hsecond : Shows second more) : Shows (first ++ second) (shown ++ more) := fun rest => by
  rw [String.toList_append, List.append_assoc, hfirst, hsecond, List.append_assoc]

theorem Shows.join {α : Type} {items : List α} {draw : α → String} {shown : α → List Char}
    (h : ∀ item ∈ items, Shows (draw item) (shown item)) :
    Shows (String.join (items.map draw)) (items.flatMap shown) := by
  induction items with
  | nil => exact fun rest => rfl
  | cons item items ih =>
    rw [List.map_cons, String.join_cons, List.flatMap_cons]
    exact (h item (by simp)).append (ih fun other hmem => h other (by simp [hmem]))

theorem shows_strong {text : String} (hfree : '\x1b' ∉ text.toList) :
    Shows (strong text) text.toList := by
  have hshown := ((shows_plain.append shows_bold).append (shows_of_free hfree)).append shows_plain
  rwa [List.nil_append, List.nil_append, List.append_nil] at hshown

/-! ## Texts that can be drawn -/

/-- A text of characters from a code point on to `z`. -/
def Within (least : Nat) (text : String) : Prop :=
  ∀ c ∈ text.toList, least ≤ c.toNat ∧ c.toNat ≤ 122

instance (least : Nat) (text : String) : Decidable (Within least text) :=
  List.decidableBAll (fun c : Char => least ≤ c.toNat ∧ c.toNat ≤ 122) text.toList

/-- A text without blanks, without control characters and without the bar. -/
def Inked (text : String) : Prop := Within 33 text

instance (text : String) : Decidable (Inked text) :=
  inferInstanceAs (Decidable (Within 33 text))

theorem Within.append {least : Nat} {first second : String} (hfirst : Within least first)
    (hsecond : Within least second) : Within least (first ++ second) := fun c hc => by
  rw [String.toList_append] at hc
  exact (List.mem_append.mp hc).elim (hfirst c) (hsecond c)

theorem Inked.isSolid {text : String} (h : Inked text) : Text.IsSolid text.toList := by
  intro c hc
  obtain ⟨hleast, hmost⟩ := h c hc
  simp only [Text.isBlank, Text.isListed, Text.blankIntervals, List.any_cons, List.any_nil,
    Bool.or_eq_false_iff, Bool.and_eq_false_iff, decide_eq_false_iff_not, Bool.or_false]
  omega

/-- A character that is not visible, or past `z`, does not stand in the texts. -/
theorem Inked.not_mem {text : String} (h : Inked text) {c : Char}
    (hc : c.toNat < 33 ∨ 122 < c.toNat) : c ∉ text.toList := fun hmem => by
  have hrange := h c hmem
  omega

/-- The rows that a grid is drawn of: seven texts each, and nothing in them that
is used to draw it. -/
structure Drawable (row : List String) : Prop where
  length : row.length = 7
  inked : ∀ text ∈ row, Inked text

/-! ## Columns -/

/-- The length of the widest of some texts. -/
def widest (texts : List String) : Nat :=
  (texts.map String.length).foldr max 0

/-- The length of the widest text of each of seven columns. -/
def columnWidths (rows : List (List String)) : List Nat :=
  (List.range 7).map fun column => widest (rows.map (·.getD column ""))

theorem length_le_widest {texts : List String} {text : String} (h : text ∈ texts) :
    text.length ≤ widest texts := by
  induction texts with
  | nil => cases h
  | cons first texts ih =>
    have hmax : widest (first :: texts) = max first.length (widest texts) := rfl
    rw [hmax]
    rcases List.mem_cons.mp h with rfl | h
    · exact Nat.le_max_left _ _
    · exact Nat.le_trans (ih h) (Nat.le_max_right _ _)

/-- The texts of a row are those of its seven columns. -/
theorem row_eq_map {row : List String} (h : row.length = 7) :
    row = (List.range 7).map fun column => row.getD column "" := by
  refine List.ext_getElem (by simp [h]) fun column hcolumn _ => ?_
  simp [List.getD_eq_getElem?_getD, List.getElem?_eq_getElem hcolumn]

/-- Every text of a row fits into its column. -/
def Fits (widths : List Nat) (row : List String) : Prop :=
  List.Forall₂ (fun width text => text.length ≤ width) widths row

theorem fits_columnWidths {rows : List (List String)} {row : List String} (hmem : row ∈ rows)
    (h : row.length = 7) : Fits (columnWidths rows) row := by
  rw [Fits, row_eq_map h, columnWidths, List.forall₂_map_left_iff, List.forall₂_map_right_iff,
    List.forall₂_same]
  exact fun column _ => length_le_widest (List.mem_map_of_mem hmem)

/-- Widening the columns row by row gives the widest text of each. -/
theorem foldl_widths {rows : List (List String)} (h : ∀ row ∈ rows, row.length = 7)
    (start : Nat → Nat) :
    rows.foldl (fun widths row => List.zipWith max widths (row.map String.length))
        ((List.range 7).map start) =
      (List.range 7).map fun column =>
        max (start column) (widest (rows.map (·.getD column ""))) := by
  induction rows generalizing start with
  | nil => simp [widest]
  | cons row rows ih =>
    have hrow : row.map String.length =
        (List.range 7).map fun column => (row.getD column "").length := by
      conv => lhs; rw [row_eq_map (h row (by simp))]
      rw [List.map_map]
      rfl
    rw [List.foldl_cons, hrow, List.zipWith_map, List.zipWith_self,
      ih fun other hmem => h other (by simp [hmem])]
    simp [widest, Nat.max_assoc]

/-! ## Lines -/

/-- A way to bring a text to the width of its column: with blanks around it. -/
def Places (place : Nat → String → String) : Prop :=
  ∀ width text, text.length ≤ width → ∃ left right, left + text.length + right = width ∧
    (place width text).toList = List.replicate left ' ' ++ text.toList ++ List.replicate right ' '

theorem places_centred : Places centred := fun width text hfits =>
  ⟨(width - text.length) / 2, width - text.length - (width - text.length) / 2, by omega,
    by simp [centred, repeated]⟩

theorem places_atRight : Places atRight := fun width text hfits =>
  ⟨width - text.length, 0, by omega, by simp [atRight, repeated]⟩

/-- What is shown of a line of texts. -/
def shownLine (texts : List String) : List Char :=
  Text.ended '|' ([] :: texts.map fun text => ' ' :: text.toList ++ [' '])

/-- What is shown of a rule. -/
def shownRule (widths : List Nat) : List Char :=
  Text.ended '+' ([] :: widths.map fun width => List.replicate (width + 2) '-')

theorem shows_newline : Shows "\n" ['\n'] := shows_of_free (by decide)

theorem shows_lineEnd : Shows lineEnd ['\n'] := shows_newline.append shows_plain

theorem shows_rule (widths : List Nat) : Shows (rule widths) (shownRule widths ++ ['\n']) := by
  have hcorner : Shows (strong "+") ['+'] := shows_strong (by decide)
  have hdashes (width : Nat) : Shows (strong (repeated '-' width)) (List.replicate width '-') := by
    have hfree : '\x1b' ∉ (repeated '-' width).toList := by simp [repeated]
    simpa [repeated] using shows_strong hfree
  have hcolumns : Shows (String.join (widths.map fun width =>
      strong (repeated '-' (width + 2)) ++ strong "+"))
      (widths.flatMap fun width => List.replicate (width + 2) '-' ++ ['+']) :=
    Shows.join fun width _ => (hdashes (width + 2)).append hcorner
  simpa [shownRule, Text.ended, List.flatMap_map, rule] using
    (hcorner.append hcolumns).append shows_lineEnd

theorem shows_line {α : Type} {items : List α} {draw place : α → String}
    (h : ∀ item ∈ items, Shows (draw item) (place item).toList) :
    Shows (line (items.map draw)) (shownLine (items.map place) ++ ['\n']) := by
  have hbar : Shows (strong "|") ['|'] := shows_strong (by decide)
  have hblank : Shows (strong " ") [' '] := shows_strong (by decide)
  have htexts := Shows.join fun item hmem =>
    (((hblank.append shows_plain).append (h item hmem)).append hblank).append hbar
  simpa [shownLine, Text.ended, List.flatMap_map, line, Function.comp_def] using
    (hbar.append htexts).append shows_lineEnd

/-- How long a line is that has columns of some widths, with a blank on both
sides of each and a bar after it. -/
def lineLength (widths : List Nat) : Nat :=
  (widths.map (· + 3)).sum + 1

/-- A line has that length when each of its pieces is two longer than a column
is wide. -/
theorem length_framed (separator : Char) {pieces : List (List Char)} {widths : List Nat}
    (h : pieces.map List.length = widths.map (· + 2)) :
    (Text.ended separator ([] :: pieces)).length = lineLength widths := by
  have hpieces : pieces.map (·.length + 1) = widths.map (· + 3) := by
    simpa [List.map_map, Function.comp_def] using congrArg (List.map (· + 1)) h
  rw [Text.length_ended, List.map_cons, List.sum_cons, hpieces, lineLength, List.length_nil,
    Nat.zero_add, Nat.add_comm]

theorem length_shownRule (widths : List Nat) : (shownRule widths).length = lineLength widths :=
  length_framed '+' (by simp [Function.comp_def])

/-- A rule is cut at its corners into dashes that reach past each column. -/
theorem splitAt_shownRule (widths : List Nat) :
    Text.splitAt '+' (shownRule widths) =
      [] :: widths.map (fun width => List.replicate (width + 2) '-') ++ [[]] := by
  refine Text.splitAt_ended fun piece hmem => ?_
  rcases List.mem_cons.mp hmem with rfl | hmem
  · simp
  · obtain ⟨width, _, rfl⟩ := List.mem_map.mp hmem
    simp

theorem mem_shownRule {widths : List Nat} {c : Char} (h : c ∈ shownRule widths) :
    c = '+' ∨ c = '-' := by
  obtain rfl | ⟨piece, hmem, hc⟩ := Text.mem_ended h
  · exact .inl rfl
  · rcases List.mem_cons.mp hmem with rfl | hmem
    · cases hc
    · obtain ⟨width, _, rfl⟩ := List.mem_map.mp hmem
      exact .inr (List.eq_of_mem_replicate hc)

section

variable {place : Nat → String → String} {widths : List Nat} {row : List String}

theorem Places.mem_or_blank (hplaces : Places place) {width : Nat} {text : String}
    (hfits : text.length ≤ width) {c : Char} (hc : c ∈ (place width text).toList) :
    c = ' ' ∨ c ∈ text.toList := by
  obtain ⟨left, right, _, hplaced⟩ := hplaces width text hfits
  rw [hplaced, List.mem_append, List.mem_append] at hc
  obtain (hc | hc) | hc := hc
  · exact .inl (List.eq_of_mem_replicate hc)
  · exact .inr hc
  · exact .inl (List.eq_of_mem_replicate hc)

theorem Places.length (hplaces : Places place) {width : Nat} {text : String}
    (hfits : text.length ≤ width) : (place width text).toList.length = width := by
  obtain ⟨left, right, hwidth, hplaced⟩ := hplaces width text hfits
  rw [hplaced, List.length_append, List.length_append,
    List.length_replicate, List.length_replicate, String.length_toList, hwidth]

/-- The text comes back when the blanks around it are trimmed away. -/
theorem Places.trim (hplaces : Places place) {width : Nat} {text : String}
    (hfits : text.length ≤ width) (hinked : Inked text) :
    Text.trim (' ' :: (place width text).toList ++ [' ']) = text.toList := by
  obtain ⟨left, right, _, hplaced⟩ := hplaces width text hfits
  have hblank (count : Nat) : ∀ c ∈ List.replicate count ' ', Text.isBlank c := fun c hc => by
    rw [List.eq_of_mem_replicate hc]
    decide
  refine Text.trim_of_padded ⟨List.replicate (left + 1) ' ', List.replicate (right + 1) ' ', ?_,
    hblank _, hblank _⟩ hinked.isSolid
  rw [hplaced, List.replicate_succ, List.replicate_succ']
  simp

theorem Fits.of_mem_zip (hfits : Fits widths row) {width : Nat} {text : String}
    (hmem : (width, text) ∈ widths.zip row) : text.length ≤ width ∧ text ∈ row :=
  ⟨(List.forall₂_iff_zip.mp hfits).2 hmem, (List.of_mem_zip hmem).2⟩

theorem shows_row (hplaces : Places place) (hfits : Fits widths row) (hrow : Drawable row)
    {style : String} (hstyle : Shows style []) :
    Shows (line (List.zipWith (fun width text => style ++ place width text) widths row))
      (shownLine (List.zipWith place widths row) ++ ['\n']) := by
  rw [← List.map_uncurry_zip_eq_zipWith, ← List.map_uncurry_zip_eq_zipWith]
  refine shows_line fun ⟨width, text⟩ hmem => ?_
  obtain ⟨hshort, htext⟩ := hfits.of_mem_zip hmem
  have hfree : '\x1b' ∉ (place width text).toList := fun hescape =>
    (hplaces.mem_or_blank hshort hescape).elim (by decide)
      ((hrow.inked text htext).not_mem (by decide))
  exact hstyle.append (shows_of_free hfree)

theorem length_shownLine (hplaces : Places place) (hfits : Fits widths row) :
    (shownLine (List.zipWith place widths row)).length = lineLength widths := by
  refine length_framed '|' ?_
  rw [List.map_map]
  induction hfits with
  | nil => rfl
  | cons hshort _ ih =>
    rw [List.zipWith_cons_cons, List.map_cons, List.map_cons, ih]
    simp [hplaces.length hshort]

/-- No bar and no line feed stands in a cell. -/
theorem not_mem_cell (hplaces : Places place) (hfits : Fits widths row) (hrow : Drawable row)
    {c : Char} (hblank : c ≠ ' ') (hc : c.toNat < 33 ∨ 122 < c.toNat) {cell : List Char}
    (hcell : cell ∈ (List.zipWith place widths row).map fun text => ' ' :: text.toList ++ [' ']) :
    c ∉ cell := by
  rw [← List.map_uncurry_zip_eq_zipWith, List.map_map] at hcell
  obtain ⟨⟨width, text⟩, hmem, rfl⟩ := List.mem_map.mp hcell
  obtain ⟨hshort, htext⟩ := hfits.of_mem_zip hmem
  intro hin
  simp only [Function.comp_apply, Function.uncurry_apply_pair, List.mem_append, List.mem_cons,
    List.not_mem_nil, or_false] at hin
  obtain (rfl | hin) | rfl := hin
  · exact hblank rfl
  · exact (hplaces.mem_or_blank hshort hin).elim hblank ((hrow.inked text htext).not_mem hc)
  · exact hblank rfl

/-- The texts of a row come back from its line. -/
theorem texts_shownLine (hplaces : Places place) (hfits : Fits widths row) (hrow : Drawable row) :
    (Text.splitAt '|' (shownLine (List.zipWith place widths row))).map Text.trim =
      [] :: row.map String.toList ++ [[]] := by
  have htrim : ((List.zipWith place widths row).map fun text =>
      Text.trim (' ' :: text.toList ++ [' '])) = row.map String.toList := by
    have hinked := hrow.inked
    clear hrow
    induction hfits with
    | nil => rfl
    | cons hshort _ ih =>
      obtain ⟨htext, hinked⟩ := List.forall_mem_cons.mp hinked
      rw [List.zipWith_cons_cons, List.map_cons, List.map_cons, ih hinked,
        hplaces.trim hshort htext]
  have hnil : Text.trim [] = [] := rfl
  rw [shownLine, Text.splitAt_ended, List.map_append, List.map_cons, List.map_map]
  · simpa [hnil] using htrim
  · intro cell hmem
    rcases List.mem_cons.mp hmem with rfl | hmem
    · simp
    · exact not_mem_cell hplaces hfits hrow (by decide) (by decide) hmem

theorem newline_not_mem_shownLine (hplaces : Places place) (hfits : Fits widths row)
    (hrow : Drawable row) : '\n' ∉ shownLine (List.zipWith place widths row) := by
  intro hmem
  obtain hbar | ⟨cell, hcell, hmem⟩ := Text.mem_ended hmem
  · cases hbar
  · rcases List.mem_cons.mp hcell with rfl | hcell
    · cases hmem
    · exact not_mem_cell hplaces hfits hrow (by decide) (by decide) hcell hmem

end

/-! ## The grid -/

/-- Lines that show rows of texts: a rule, and a line and a rule for each row.
The lines are as long as the widest text of every column needs. -/
structure IsGrid (rows : List (List String)) (grid : List (List Char)) : Prop where
  height : grid.length = 2 * rows.length + 1
  width : ∀ line ∈ grid, line.length = lineLength (columnWidths rows)
  rules : ∀ k ≤ rows.length, ∃ line, grid[2 * k]? = some line ∧
    (∀ c ∈ line, c = '+' ∨ c = '-') ∧ Text.splitAt '+' line =
      [] :: (columnWidths rows).map (fun width => List.replicate (width + 2) '-') ++ [[]]
  texts : ∀ k row, rows[k]? = some row → ∃ line, grid[2 * k + 1]? = some line ∧
    (Text.splitAt '|' line).map Text.trim = [] :: row.map String.toList ++ [[]]

section

variable {α : Type} {rule : α} {lines : List α}

/-- Lines with a rule above each of them, and one below. -/
def ruled (rule : α) (lines : List α) : List α :=
  rule :: lines.flatMap fun line => [line, rule]

theorem length_ruled (rule : α) (lines : List α) :
    (ruled rule lines).length = 2 * lines.length + 1 := by
  simp [ruled, List.length_flatMap, Nat.mul_comm]

theorem ruled_cons (line : α) : ruled rule (line :: lines) = rule :: line :: ruled rule lines := rfl

theorem mem_ruled {line : α} (h : line ∈ ruled rule lines) : line = rule ∨ line ∈ lines := by
  induction lines with
  | nil => exact .inl (List.mem_singleton.mp h)
  | cons first lines ih =>
    rw [ruled_cons, List.mem_cons, List.mem_cons] at h
    obtain h | rfl | h := h
    · exact .inl h
    · exact .inr (by simp)
    · exact (ih h).imp_right (List.mem_cons_of_mem first)

theorem getElem?_ruled_even {k : Nat} (hk : k ≤ lines.length) :
    (ruled rule lines)[2 * k]? = some rule := by
  induction lines generalizing k with
  | nil =>
    obtain rfl : k = 0 := Nat.le_zero.mp hk
    rfl
  | cons line lines ih =>
    cases k with
    | zero => rfl
    | succ k => exact ih (Nat.le_of_succ_le_succ hk)

theorem getElem?_ruled_odd (k : Nat) : (ruled rule lines)[2 * k + 1]? = lines[k]? := by
  induction lines generalizing k with
  | nil => rfl
  | cons line lines ih =>
    cases k with
    | zero => rfl
    | succ k => exact ih k

end

end BlockTransfer.TransferList.Table
