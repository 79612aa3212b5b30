/-
BlockTransfer.BlockRange — half-open ranges of blocks.

Block numbers are 64-bit words and a range never ends before it starts: both
are fields of the type, so that lengths can be taken by plain subtraction. A
range may be empty. Its place in bytes is only defined when the offset, the
length and the end of it are 64-bit words too (`span?`).
-/

namespace BlockTransfer

/-- The numbers of a transfer list are below this bound. -/
def wordLimit : Nat := UInt64.size

theorem wordLimit_pos : 0 < wordLimit := by decide

/-- The largest word stands for every number past it. -/
def saturate (n : Nat) : Nat :=
  min n (wordLimit - 1)

/-- Bytes in a block. -/
def blockSize : Nat := 4096

/-- The blocks from `start` up to but not including `stop`. -/
structure BlockRange where
  start : Nat
  stop : Nat
  ordered : start ≤ stop
  stop_lt : stop < wordLimit
deriving DecidableEq, Repr

/-- A place in an image, in bytes. -/
structure Span where
  offset : Nat
  length : Nat
deriving DecidableEq, Repr

namespace BlockRange

/-- How many blocks the range holds. -/
def length (range : BlockRange) : Nat :=
  range.stop - range.start

/-- The offset of the first byte of the range. -/
def offset (range : BlockRange) : Nat :=
  blockSize * range.start

/-- How many bytes the range holds. -/
def byteLength (range : BlockRange) : Nat :=
  blockSize * range.length

/-- The place of the range in bytes, if its offset, its length and its end are
all words. -/
def span? (range : BlockRange) : Option Span :=
  if range.offset < wordLimit ∧ range.byteLength < wordLimit ∧
      range.offset + range.byteLength < wordLimit then
    some ⟨range.offset, range.byteLength⟩
  else none

/-- The range as it is written in a message. -/
def text (range : BlockRange) : String :=
  s!"[{range.start}, {range.stop})"

end BlockRange

end BlockTransfer
