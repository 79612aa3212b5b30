/-
BlockTransfer.Text.Blank — blank characters, trimming, and the words of a line.

Blank means the property `White_Space` of the character database, which has
twenty-five code points: more than the ASCII blanks, fewer than everything
that prints as nothing. Text is scanned as a list of characters, so that what
is dropped and what is kept are ordinary facts about `dropWhile` and
`takeWhile`.
-/
import BlockTransfer.Text.Intervals

namespace BlockTransfer.Text

/-- The blank code points. -/
def blankIntervals : Intervals :=
  [(0x09, 0x0d), (0x20, 0x20), (0x85, 0x85), (0xa0, 0xa0), (0x1680, 0x1680),
    (0x2000, 0x200a), (0x2028, 0x2029), (0x202f, 0x202f), (0x205f, 0x205f),
    (0x3000, 0x3000)]

/-- A character is blank when its code point lies in one of the intervals. -/
def isBlank (c : Char) : Bool :=
  isListed blankIntervals c

/-- Drops the blanks that a text starts with. -/
def trimStart (cs : List Char) : List Char :=
  cs.dropWhile isBlank

/-- Drops the blanks that a text ends with. -/
def trimEnd (cs : List Char) : List Char :=
  (cs.reverse.dropWhile isBlank).reverse

/-- Drops the blanks on both sides of a text. -/
def trim (cs : List Char) : List Char :=
  trimEnd (trimStart cs)

/-- The first word of a line and what follows it: a word is a longest run of
characters that are not blank. A line of blanks alone has none. -/
def nextWord? (cs : List Char) : Option (List Char × List Char) :=
  match trimStart cs with
  | [] => none
  | c :: rest =>
    some ((c :: rest).takeWhile (!isBlank ·), (c :: rest).dropWhile (!isBlank ·))

end BlockTransfer.Text
