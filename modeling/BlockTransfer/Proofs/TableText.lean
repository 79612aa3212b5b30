/-
BlockTransfer.Proofs.TableText — what a terminal shows of the table of a list.

The rows of the table are the titles and a row for each range, the erase ranges
first. Digits, letters, a point and a dash are all that stands in them
(`inked_cells`), so that they can be drawn and no text is cut. What they say of
a range is where it is and how large, with a dash for what is not a word of
bytes (`Describes`); a range that has a place never shows one.

The grid shows these rows line by line (`Tabulates`). Above it stands a line that
sums the list up (`SumsUp`), and a terminal shows the whole text as this line and
the grid (`text_shows_ranges`).
-/
import BlockTransfer.Proofs.Obstacle
import BlockTransfer.Proofs.SizeText
import BlockTransfer.TransferList.Table.Lemmas

namespace BlockTransfer.TransferList.Table

/-! ## The texts of the table -/

theorem inked_of_isDigit {c : Char} (h : c.isDigit) : 33 ≤ c.toNat ∧ c.toNat ≤ 122 := by
  have hzero : '0'.toNat = 48 := rfl
  have hnine : '9'.toNat = 57 := rfl
  have hrange := Char.isDigit_iff_toNat.mp h
  omega

theorem inked_decimal (n : Nat) : Inked (toString n) := fun c hc => by
  have hchar : c ∈ Text.decimal n := by simpa [Text.decimal] using hc
  exact inked_of_isDigit ((Text.isPlain_decimal n).digits c hchar)

theorem inked_hexadecimal (n : Nat) : Inked (Text.hexadecimal n) := by
  have hdigit : ∀ digit < 16, 33 ≤ digit.digitChar.toNat ∧ digit.digitChar.toNat ≤ 122 := by decide
  intro c hc
  rw [Text.hexadecimal, String.toList_ofList] at hc
  induction n using Nat.strongRecOn with
  | ind n ih =>
    rw [Nat.toDigits_eq_if (by decide)] at hc
    split at hc
    · next hsmall => exact List.mem_singleton.mp hc ▸ hdigit n hsmall
    · rcases List.mem_append.mp hc with hc | hc
      · exact ih (n / 16) (by omega) hc
      · exact List.mem_singleton.mp hc ▸ hdigit (n % 16) (Nat.mod_lt n (by decide))

theorem inked_size (n : Nat) : Inked (ByteSize.text n) := by
  have hletters : ∀ c ∈ '.' :: ByteSize.suffixes, 33 ≤ c.toNat ∧ c.toNat ≤ 122 :=
    (by decide : Inked ".BKMGTPE")
  intro c hc
  rcases Nat.lt_or_ge n 1024 with hsmall | hlarge
  · rw [ByteSize.text_of_lt hsmall] at hc
    rcases List.mem_append.mp hc with hc | hc
    · exact inked_of_isDigit ((Text.isPlain_decimal n).digits c hc)
    · exact List.mem_singleton.mp hc ▸ hletters 'B' (by decide)
  · obtain ⟨whole, tens, units, suffix, htext, hwhole, htens, hunits, hsuffix, _⟩ :=
      ByteSize.says_text hlarge
    have hsuffix : suffix ∈ ByteSize.suffixes := List.mem_of_getElem? hsuffix
    rw [htext] at hc
    simp only [List.mem_append, List.mem_cons, List.not_mem_nil, or_false] at hc
    obtain hc | rfl | rfl | rfl | rfl := hc
    · exact inked_of_isDigit (hwhole.digits c hc)
    · exact hletters '.' (by decide)
    · exact inked_of_isDigit htens
    · exact inked_of_isDigit hunits
    · exact hletters c (List.mem_cons_of_mem '.' hsuffix)

/-- No size is written as a dash. -/
theorem size_ne_dash (n : Nat) : ByteSize.text n ≠ "-" := by
  intro hdash
  rcases Nat.lt_or_ge n 1024 with hsmall | hlarge
  · have hlast := congrArg List.getLast? (ByteSize.text_of_lt hsmall)
    simp [hdash] at hlast
  · obtain ⟨whole, tens, units, suffix, htext, _⟩ := ByteSize.says_text hlarge
    have hlength := congrArg List.length htext
    simp [hdash] at hlength

/-- What the texts of a line say about a range: its place and its size are there
unless they are not words, and they are for every range that has a place. -/
def Describes (command : String) (id : Nat) (range : BlockRange) (texts : List String) : Prop :=
  ∃ offset size,
    texts = [command, toString id, toString range.start, toString range.stop,
      toString (range.stop - range.start), offset, size] ∧
    (offset = "-" ↔ blockLimit ≤ range.start) ∧
    (range.start < blockLimit → offset = "0x" ++ Text.hexadecimal (blockSize * range.start)) ∧
    (size = "-" ↔ blockLimit ≤ range.stop - range.start) ∧
    (range.stop - range.start < blockLimit →
      size = ByteSize.text (blockSize * (range.stop - range.start))) ∧
    (range.span? ≠ none → offset ≠ "-" ∧ size ≠ "-")

/-- A number of blocks is a word of bytes below 2^52. -/
theorem mul_blockSize_lt_iff (blocks : Nat) :
    blockSize * blocks < wordLimit ↔ blocks < blockLimit := by
  rw [wordLimit_eq]
  exact Nat.mul_lt_mul_left (by decide)

theorem offset_ne_dash (n : Nat) : "0x" ++ Text.hexadecimal n ≠ "-" := fun hdash => by
  have hhead := congrArg (fun text => text.toList.head?) hdash
  simp at hhead

/-- A text that is not a dash is shown as one just where it gives way to it. -/
theorem ite_eq_dash_iff {text : String} {holds : Prop} [Decidable holds] (h : text ≠ "-") :
    (if holds then text else "-") = "-" ↔ ¬holds := by
  split
  · next hholds => simp [h, hholds]
  · next hfails => simp [hfails]

theorem describes_cells (command : Command) (id : Nat) (range : BlockRange) :
    Describes command.word id range (cells command id range) := by
  have hoffset : offsetText range = if range.start < blockLimit then
      "0x" ++ Text.hexadecimal (blockSize * range.start) else "-" :=
    if_congr (mul_blockSize_lt_iff _) rfl rfl
  have hsize : sizeText range = if range.stop - range.start < blockLimit then
      ByteSize.text (blockSize * (range.stop - range.start)) else "-" :=
    if_congr (mul_blockSize_lt_iff _) rfl rfl
  refine ⟨offsetText range, sizeText range, rfl, ?_, ?_, ?_, ?_, ?_⟩
  · rw [hoffset, ite_eq_dash_iff (offset_ne_dash _), Nat.not_lt]
  · exact fun hstart => hoffset.trans (if_pos hstart)
  · rw [hsize, ite_eq_dash_iff (size_ne_dash _), Nat.not_lt]
  · exact fun hlength => hsize.trans (if_pos hlength)
  · intro hplace
    have hstop := range.span?_ne_none_iff.mp hplace
    have hordered := range.ordered
    rw [hoffset, hsize, if_pos (by omega), if_pos (by omega)]
    exact ⟨offset_ne_dash _, size_ne_dash _⟩

theorem inked_offsetText (range : BlockRange) : Inked (offsetText range) := by
  unfold offsetText
  split
  · exact Within.append (by decide) (inked_hexadecimal _)
  · decide

theorem inked_sizeText (range : BlockRange) : Inked (sizeText range) := by
  unfold sizeText
  split
  · exact inked_size _
  · decide

theorem inked_cells (command : Command) (id : Nat) (range : BlockRange) :
    ∀ text ∈ cells command id range, Inked text := by
  have hword : Inked command.word := by cases command <;> decide
  simp only [cells, List.forall_mem_cons]
  exact ⟨hword, inked_decimal _, inked_decimal _, inked_decimal _, inked_decimal _,
    inked_offsetText range, inked_sizeText range, by simp⟩

theorem drawable_titles : Drawable titles := ⟨rfl, by decide⟩

theorem drawable_of_mem_setRows {command : Command} {set : RangeSet} {row : List String}
    (h : row ∈ setRows command set) : Drawable row := by
  obtain ⟨id, hid, rfl⟩ := List.mem_mapIdx.mp h
  exact ⟨rfl, inked_cells _ _ _⟩

theorem drawable_of_mem {list : TransferList} {row : List String}
    (h : row ∈ titles :: rows list) : Drawable row := by
  rcases List.mem_cons.mp h with rfl | h
  · exact drawable_titles
  · exact (List.mem_append.mp h).elim drawable_of_mem_setRows drawable_of_mem_setRows

theorem length_setRows (command : Command) (set : RangeSet) :
    (setRows command set).length = set.count :=
  List.length_mapIdx

theorem getElem?_setRows (command : Command) (set : RangeSet) (id : Nat) :
    (setRows command set)[id]? = (set.ranges[id]?).map (cells command id) :=
  List.getElem?_mapIdx

/-! ## The table -/

theorem widths_eq (list : TransferList) : widths list = columnWidths (titles :: rows list) := by
  have htitles : titles.map String.length =
      (List.range 7).map fun column => (titles.getD column "").length := by decide
  have hrows : ∀ row ∈ rows list, row.length = 7 :=
    fun row hmem => (drawable_of_mem (List.mem_cons_of_mem titles hmem)).length
  rw [widths, htitles, foldl_widths hrows]
  simp [columnWidths, widest]

/-- The lines of the table, without what styles them. -/
def shownGrid (list : TransferList) : List (List Char) :=
  ruled (shownRule (widths list)) (shownLine (List.zipWith centred (widths list) titles) ::
    (rows list).map fun row => shownLine (List.zipWith atRight (widths list) row))

theorem fits_widths {list : TransferList} {row : List String} (hmem : row ∈ titles :: rows list) :
    Fits (widths list) row := by
  rw [widths_eq]
  exact fits_columnWidths hmem (drawable_of_mem hmem).length

/-- What is said of the line of a row, whether it is the row of titles or not. -/
theorem exists_row_of_mem_lines {list : TransferList} {line : List Char}
    (h : line ∈ shownLine (List.zipWith centred (widths list) titles) ::
      (rows list).map fun row => shownLine (List.zipWith atRight (widths list) row)) :
    ∃ place row, Places place ∧ row ∈ titles :: rows list ∧
      line = shownLine (List.zipWith place (widths list) row) := by
  rcases List.mem_cons.mp h with rfl | h
  · exact ⟨centred, titles, places_centred, by simp, rfl⟩
  · obtain ⟨row, hmem, rfl⟩ := List.mem_map.mp h
    exact ⟨atRight, row, places_atRight, by simp [hmem], rfl⟩

theorem isGrid_shownGrid (list : TransferList) :
    IsGrid (titles :: rows list) (shownGrid list) where
  height := by
    rw [shownGrid, length_ruled]
    simp
  width := by
    intro line hmem
    rw [← widths_eq]
    rcases mem_ruled hmem with rfl | hmem
    · exact length_shownRule _
    · obtain ⟨place, row, hplaces, hrow, rfl⟩ := exists_row_of_mem_lines hmem
      exact length_shownLine hplaces (fits_widths hrow)
  rules := by
    intro k hk
    rw [← widths_eq]
    refine ⟨_, getElem?_ruled_even (by simpa using hk), fun c => mem_shownRule, ?_⟩
    exact splitAt_shownRule _
  texts := by
    intro k row hrow
    have hmem := List.mem_of_getElem? hrow
    rw [shownGrid, getElem?_ruled_odd]
    cases k with
    | zero =>
      obtain rfl : titles = row := Option.some.inj hrow
      exact ⟨_, rfl, texts_shownLine places_centred (fits_widths hmem) drawable_titles⟩
    | succ k =>
      have hline := congrArg (Option.map fun row =>
        shownLine (List.zipWith atRight (widths list) row)) hrow
      rw [List.getElem?_cons_succ, ← List.getElem?_map] at hline
      exact ⟨_, hline, texts_shownLine places_atRight (fits_widths hmem) (drawable_of_mem hmem)⟩

/-! ## The summary -/

/-- The words of the line above the table. -/
def summaryWords (list : TransferList) : List String :=
  ["Transfer", "list", "v" ++ toString list.version.val ++ ",", toString list.totalBlocks.val,
    "blocks", "total,", "erase", toString list.eraseSet.count, "ranges",
    "(" ++ toString list.eraseSet.blockCount, "blocks),", "new", toString list.newSet.count,
    "ranges", "(" ++ toString list.newSet.blockCount, "blocks)"]

/-- A line that sums a list up: its words give the version and the total, and
how many ranges and blocks there are in each set. -/
def SumsUp (list : TransferList) (line : String) : Prop :=
  Text.splitAt ' ' line.toList = (summaryWords list).map String.toList

theorem inked_summaryWords (list : TransferList) : ∀ word ∈ summaryWords list, Inked word := by
  have hversion : Inked ("v" ++ toString list.version.val ++ ",") :=
    Within.append (Within.append (by decide) (inked_decimal _)) (by decide)
  have hopened (n : Nat) : Inked ("(" ++ toString n) := Within.append (by decide) (inked_decimal n)
  simp only [summaryWords, List.forall_mem_cons]
  exact ⟨by decide, by decide, hversion, inked_decimal _, by decide, by decide, by decide,
    inked_decimal _, by decide, hopened _, by decide, by decide, inked_decimal _, by decide,
    hopened _, by decide, by simp⟩

theorem toList_summary (list : TransferList) :
    list.summary.toList = Text.joinWith ' ' ((summaryWords list).map String.toList) := by
  unfold TransferList.summary summaryWords
  simp only [Text.joinWith, List.map_cons, List.map_nil, List.intercalate_cons_cons,
    List.intercalate_singleton, String.toList_append, List.append_assoc]
  rfl

theorem sumsUp_summary (list : TransferList) : SumsUp list list.summary := by
  rw [SumsUp, toList_summary, Text.splitAt_joinWith (by simp [summaryWords])]
  intro word hmem
  obtain ⟨text, htext, rfl⟩ := List.mem_map.mp hmem
  exact (inked_summaryWords list text htext).not_mem (by decide)

theorem control_not_mem_summary (list : TransferList) {c : Char} (h : c.toNat < 32) :
    c ∉ list.summary.toList := by
  rw [toList_summary]
  intro hmem
  obtain rfl | ⟨word, hword, hc⟩ := Text.mem_joinWith hmem
  · exact absurd h (by decide)
  · obtain ⟨text, htext, rfl⟩ := List.mem_map.mp hword
    exact (inked_summaryWords list text htext).not_mem (by omega) hc

/-! ## Line by line -/

/-- The grid is shown line by line. -/
theorem shows_grid (list : TransferList) :
    Shows (grid list) (Text.ended '\n' (shownGrid list)) := by
  have hrule := shows_rule (widths list)
  have htitles : Shows (titleLine (widths list))
      (shownLine (List.zipWith centred (widths list) titles) ++ ['\n']) :=
    shows_row places_centred (fits_widths (by simp)) drawable_titles
      (shows_plain.append shows_bold)
  have hrows : Shows
      (String.join ((rows list).map fun row => rangeLine (widths list) row ++ rule (widths list)))
      ((rows list).flatMap fun row =>
        shownLine (List.zipWith atRight (widths list) row) ++ ['\n'] ++
          (shownRule (widths list) ++ ['\n'])) :=
    Shows.join fun row hmem =>
      have hrow := List.mem_cons_of_mem titles hmem
      (shows_row places_atRight (fits_widths hrow) (drawable_of_mem hrow) shows_plain).append hrule
  have hgrid := ((hrule.append htitles).append hrule).append hrows
  simpa [grid, shownGrid, ruled, Text.ended, List.flatMap_assoc, List.flatMap_map] using hgrid

/-- The whole text is shown as the summary and the grid. -/
theorem shows_text (list : TransferList) :
    Shows (text list) (Text.ended '\n' (list.summary.toList :: shownGrid list)) := by
  have hsummary : Shows (list.summary ++ "\n") (list.summary.toList ++ ['\n']) :=
    (shows_of_free (control_not_mem_summary list (by decide))).append shows_newline
  exact hsummary.append (shows_grid list)

/-- A text of which lines are shown is cut into these lines. -/
theorem splitAt_unstyled {styled : String} {lines : List (List Char)}
    (h : Shows styled (Text.ended '\n' lines)) (hfree : ∀ line ∈ lines, '\n' ∉ line) :
    Text.splitAt '\n' (unstyled styled.toList) = lines ++ [[]] := by
  have hshown := h []
  rw [List.append_nil, unstyled, List.append_nil] at hshown
  rw [hshown, Text.splitAt_ended hfree]

theorem newline_not_mem_shownGrid {list : TransferList} {line : List Char}
    (h : line ∈ shownGrid list) : '\n' ∉ line := by
  rcases mem_ruled h with rfl | h
  · exact fun hmem => (mem_shownRule hmem).elim (by decide) (by decide)
  · obtain ⟨place, row, hplaces, hrow, rfl⟩ := exists_row_of_mem_lines h
    exact newline_not_mem_shownLine hplaces (fits_widths hrow) (drawable_of_mem hrow)

/-! ## The lines of the ranges -/

theorem length_rows (list : TransferList) :
    (rows list).length = list.eraseSet.count + list.newSet.count := by
  rw [rows, List.length_append, length_setRows, length_setRows]

section

variable {list : TransferList} {id : Nat} {range : BlockRange}

theorem exists_row_of_erase (h : list.eraseSet.ranges[id]? = some range) :
    ∃ texts, (rows list)[id]? = some texts ∧ Describes "erase" id range texts := by
  have hless : id < (setRows .erase list.eraseSet).length := by
    rw [length_setRows]
    exact (List.getElem?_eq_some_iff.mp h).1
  refine ⟨cells .erase id range, ?_, describes_cells .erase id range⟩
  rw [rows, List.getElem?_append_left hless, getElem?_setRows, h, Option.map_some]

theorem exists_row_of_new (h : list.newSet.ranges[id]? = some range) :
    ∃ texts, (rows list)[list.eraseSet.count + id]? = some texts ∧
      Describes "new" id range texts := by
  have hlength := length_setRows .erase list.eraseSet
  refine ⟨cells .new id range, ?_, describes_cells .new id range⟩
  rw [rows, List.getElem?_append_right (by omega), hlength, Nat.add_sub_cancel_left,
    getElem?_setRows, h, Option.map_some]

end

/-- A drawing of which a terminal shows a grid with the titles and a line for
each range of a list, the erase ranges first. The line of a range describes it,
and numbers it within its set. -/
def Tabulates (list : TransferList) (drawn : String) : Prop :=
  ∃ described lines,
    Text.splitAt '\n' (unstyled drawn.toList) = lines ++ [[]] ∧
    IsGrid (titles :: described) lines ∧
    described.length = list.eraseSet.count + list.newSet.count ∧
    (∀ id range, list.eraseSet.ranges[id]? = some range →
      ∃ texts, described[id]? = some texts ∧ Describes "erase" id range texts) ∧
    ∀ id range, list.newSet.ranges[id]? = some range →
      ∃ texts, described[list.eraseSet.count + id]? = some texts ∧ Describes "new" id range texts

theorem tabulates_grid (list : TransferList) : Tabulates list (grid list) :=
  ⟨rows list, shownGrid list,
    splitAt_unstyled (shows_grid list) fun _ hmem => newline_not_mem_shownGrid hmem,
    isGrid_shownGrid list, length_rows list, fun _ _ => exists_row_of_erase,
    fun _ _ => exists_row_of_new⟩

/-- What a terminal shows of the table of a list: the summary, and below it a
grid with the titles and a line for each range, the erase ranges first. The line
of a range describes it, and numbers it within its set. -/
theorem text_shows_ranges (list : TransferList) :
    ∃ described grid,
      Text.splitAt '\n' (unstyled (text list).toList) = list.summary.toList :: grid ++ [[]] ∧
      IsGrid (titles :: described) grid ∧
      described.length = list.eraseSet.count + list.newSet.count ∧
      grid.length = 3 + 2 * (list.eraseSet.count + list.newSet.count) ∧
      (∀ id range, list.eraseSet.ranges[id]? = some range →
        ∃ texts, described[id]? = some texts ∧ Describes "erase" id range texts) ∧
      ∀ id range, list.newSet.ranges[id]? = some range →
        ∃ texts, described[list.eraseSet.count + id]? = some texts ∧
          Describes "new" id range texts := by
  have hgrid := isGrid_shownGrid list
  have hheight := hgrid.height
  rw [List.length_cons, length_rows] at hheight
  refine ⟨rows list, shownGrid list, splitAt_unstyled (shows_text list) ?_, hgrid, length_rows list,
    by omega, fun _ _ => exists_row_of_erase, fun _ _ => exists_row_of_new⟩
  intro line hmem
  rcases List.mem_cons.mp hmem with rfl | hmem
  · exact control_not_mem_summary list (by decide)
  · exact newline_not_mem_shownGrid hmem

end BlockTransfer.TransferList.Table
