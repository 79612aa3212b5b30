/-
BlockTransfer.TransferList.Header — the first two lines of a transfer list.

Line 0 is the format version, an integer below 2 ^ 32; line 1 is the total
count of blocks, an integer below 2 ^ 64. Blanks around them do no harm. Line 0
is judged, missing or invalid, before line 1 is looked at.
-/
import BlockTransfer.BlockRange
import BlockTransfer.Logged
import BlockTransfer.Text.Blank
import BlockTransfer.Text.Numeral
import BlockTransfer.TransferList.Error

namespace BlockTransfer.TransferList

/-- Versions are below this bound. -/
def versionLimit : Nat := UInt32.size

theorem versionLimit_pos : 0 < versionLimit := by decide

/-- What the header says. -/
structure Header where
  version : Fin versionLimit
  totalBlocks : Fin wordLimit
deriving DecidableEq, Repr

/-- Reads the integer on one line of the header. -/
def readHeaderLine {bound : Nat} (positive : 0 < bound) (lines : List (List Char)) (line : Nat) :
    Logged Error (Fin bound) :=
  match lines[line]? with
  | none =>
    .fail (.missingHeader line) .transferList s!"Transfer list ends before header line {line + 1}"
  | some written =>
    match Text.readNumeral positive (Text.trim written) with
    | .ok value => pure value
    | .error _ =>
      let value := String.ofList (Text.trim written)
      .fail (.invalidHeader line value) .transferList
        s!"Header line {line + 1} of transfer list is not an integer: '{value}'"

/-- Reads the header. -/
def Header.ofLines (lines : List (List Char)) : Logged Error Header := do
  let version ← readHeaderLine versionLimit_pos lines 0
  let totalBlocks ← readHeaderLine wordLimit_pos lines 1
  pure ⟨version, totalBlocks⟩

end BlockTransfer.TransferList
