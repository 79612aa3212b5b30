/-
BlockTransfer.RangeSet.Field — reading a range field.

A field is a list of integers with commas between them. The first announces
how many of the others count; they are taken in pairs, the start and the end
of a range, and whatever follows them is not looked at. Blanks around an
integer do no harm.

The checks come in this order: the announced count is an integer, it is even,
there are that many tokens; then, pair by pair, the start is an integer, the
end is one, and the range does not end before it starts. The first check that
fails is the error, and the one event that is reported.
-/
import BlockTransfer.Logged
import BlockTransfer.RangeSet
import BlockTransfer.Text.Blank
import BlockTransfer.TransferList.Error

namespace BlockTransfer.RangeSet

/-- Reads one integer of a range field. -/
def readInteger (token : List Char) : Logged TransferList.Error (Fin wordLimit) :=
  match Text.readNumeral wordLimit_pos (Text.trim token) with
  | .ok value => pure value
  | .error why =>
    let written := String.ofList token
    .fail (.invalidInteger written) .transferList
      s!"Range value '{written}' is not a non-negative integer: {why.reason}"

/-- Reads the two ends of a range. -/
def readRange (field : String) (first second : List Char) :
    Logged TransferList.Error BlockRange := do
  let start ← readInteger first
  let stop ← readInteger second
  if ordered : start.val ≤ stop.val then
    pure ⟨start, stop, ordered, stop.isLt⟩
  else
    .fail (.invertedRange start stop) .transferList
      s!"Range [{start.val}, {stop.val}) in '{field}' ends before it starts"

/-- Reads ranges from tokens taken two by two. -/
def readRanges (field : String) : List (List Char) → Logged TransferList.Error (List BlockRange)
  | first :: second :: tokens => do
    let range ← readRange field first second
    let ranges ← readRanges field tokens
    pure (range :: ranges)
  | _ => pure []

/-- Reads a range field. -/
def ofField (field : String) : Logged TransferList.Error RangeSet := do
  let tokens := Text.splitAt ',' field.toList
  let count ← readInteger (tokens.headD [])
  let values := tokens.tail
  if count.val % 2 ≠ 0 then
    .fail (.oddCount count) .transferList
      s!"Range field '{field}' announces an odd value count {count.val}"
  else if values.length < count.val then
    .fail (.tooFewValues count values.length) .transferList
      s!"Range field '{field}' announces {count.val} values but only has {values.length}"
  else
    let ranges ← readRanges field (values.take count.val)
    pure ⟨ranges⟩

end BlockTransfer.RangeSet
