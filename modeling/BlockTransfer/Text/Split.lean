/-
BlockTransfer.Text.Split — cutting a text at a separator, joining pieces, and
the lines of a text.

`splitAt` always yields at least one piece and keeps empty ones, so that
joining the pieces with the separator gives the text back. A line ends at a
line feed; one carriage return just before that line feed belongs to the line
end, and a text that ends in a line feed has no empty line after it.
-/

namespace BlockTransfer.Text

/-- Puts a character in front of the first piece. -/
def extendHead (c : Char) : List (List Char) → List (List Char)
  | [] => [[c]]
  | piece :: pieces => (c :: piece) :: pieces

/-- The pieces between the separators of a text, in order, empty ones included. -/
def splitAt (separator : Char) (cs : List Char) : List (List Char) :=
  cs.foldr (fun c pieces => if c = separator then [] :: pieces else extendHead c pieces) [[]]

/-- The pieces with a separator between each two of them. -/
def joinWith (separator : Char) (pieces : List (List Char)) : List Char :=
  [separator].intercalate pieces

/-- Drops one carriage return from the end of a line. -/
def dropReturn (line : List Char) : List Char :=
  if line.getLast? = some '\r' then line.dropLast else line

/-- The lines of a text, without their line ends. -/
def lines (cs : List Char) : List (List Char) :=
  let pieces := splitAt '\n' cs
  let rest := pieces.getLastD []
  pieces.dropLast.map dropReturn ++ if rest.isEmpty then [] else [rest]

@[simp] theorem splitAt_nil (separator : Char) : splitAt separator [] = [[]] := rfl

/-- The equation by which a text is cut, one character at a time. -/
theorem splitAt_cons (separator c : Char) (cs : List Char) :
    splitAt separator (c :: cs) =
      if c = separator then [] :: splitAt separator cs
      else extendHead c (splitAt separator cs) := rfl

theorem extendHead_ne_nil (c : Char) (pieces : List (List Char)) : extendHead c pieces ≠ [] := by
  cases pieces <;> simp [extendHead]

theorem splitAt_ne_nil (separator : Char) (cs : List Char) : splitAt separator cs ≠ [] := by
  cases cs with
  | nil => simp
  | cons c cs =>
    rw [splitAt_cons]
    split
    · simp
    · exact extendHead_ne_nil c _

end BlockTransfer.Text
