/-
BlockTransfer.TransferList.Table — the ranges of a transfer list as a table
for a terminal.

The table has a line for each range, the erase ranges first and each set
numbered from 0. A column is as wide as its widest text, title included; titles
are centred, with the odd blank on the right, and the other texts stand at the
right. Rules separate all lines. The terminal is told to reset and to embolden
around every piece (`plain`, `strong`), which adds nothing to what is seen.
-/
import BlockTransfer.ByteSize
import BlockTransfer.TransferList.Parser

namespace BlockTransfer.TransferList.Table

/-! ## What the table says -/

/-- The titles of the columns. -/
def titles : List String :=
  ["command", "ID", "start", "end", "blocks", "offset", "size"]

/-- The offset of a range in bytes, or a dash when it is not a word. -/
def offsetText (range : BlockRange) : String :=
  if range.offset < wordLimit then "0x" ++ Text.hexadecimal range.offset else "-"

/-- The size of a range, or a dash when its count of bytes is not a word. -/
def sizeText (range : BlockRange) : String :=
  if range.byteLength < wordLimit then ByteSize.text range.byteLength else "-"

/-- The texts of the line for one range. -/
def cells (command : Command) (id : Nat) (range : BlockRange) : List String :=
  [command.word, s!"{id}", s!"{range.start}", s!"{range.stop}", s!"{range.length}",
    offsetText range, sizeText range]

/-- The texts of the lines for one set. -/
def setRows (command : Command) (set : RangeSet) : List (List String) :=
  set.ranges.mapIdx fun id range => cells command id range

/-- The texts of all lines. -/
def rows (list : TransferList) : List (List String) :=
  setRows .erase list.eraseSet ++ setRows .new list.newSet

/-- The widths of the columns. -/
def widths (list : TransferList) : List Nat :=
  (rows list).foldl (fun widths row => List.zipWith max widths (row.map String.length))
    (titles.map String.length)

/-! ## How it is drawn -/

/-- Tells the terminal to go back to plain text. -/
def plain : String := "\x1b[0m"

/-- Tells the terminal to write in bold. -/
def bold : String := "\x1b[1m"

/-- A piece of the frame. -/
def strong (text : String) : String :=
  plain ++ bold ++ text ++ plain

/-- So many copies of a character. -/
def repeated (c : Char) (count : Nat) : String :=
  String.ofList (List.replicate count c)

/-- A text in the middle of a column. -/
def centred (width : Nat) (text : String) : String :=
  let room := width - text.length
  repeated ' ' (room / 2) ++ text ++ repeated ' ' (room - room / 2)

/-- A text at the right of a column. -/
def atRight (width : Nat) (text : String) : String :=
  repeated ' ' (width - text.length) ++ text

/-- The end of a line of the table. -/
def lineEnd : String := "\n" ++ plain

/-- A rule across the table. -/
def rule (widths : List Nat) : String :=
  strong "+" ++
    String.join (widths.map fun width => strong (repeated '-' (width + 2)) ++ strong "+") ++ lineEnd

/-- A line of texts that are as wide as their columns. -/
def line (texts : List String) : String :=
  strong "|" ++
    String.join (texts.map fun text => strong " " ++ plain ++ text ++ strong " " ++ strong "|") ++
    lineEnd

/-- The line of titles. -/
def titleLine (widths : List Nat) : String :=
  line (List.zipWith (fun width text => plain ++ bold ++ centred width text) widths titles)

/-- The line for one range. -/
def rangeLine (widths : List Nat) (row : List String) : String :=
  line (List.zipWith (fun width text => plain ++ atRight width text) widths row)

/-- The table, with a rule above and below each of its lines. -/
def grid (list : TransferList) : String :=
  let widths := widths list
  rule widths ++ titleLine widths ++ rule widths ++
    String.join ((rows list).map fun row => rangeLine widths row ++ rule widths)

/-- The table, below the summary of the list. -/
def text (list : TransferList) : String :=
  list.summary ++ "\n" ++ grid list

end BlockTransfer.TransferList.Table
