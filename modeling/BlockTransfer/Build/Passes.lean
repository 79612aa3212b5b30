/-
BlockTransfer.Build.Passes — the two passes over the ranges of an image.

The ERASE pass fills each range with zeros: it moves to the range, even to an
empty one, and writes. The COPY pass fills each range with the next bytes of
the data: it reads before it moves, and an empty range touches nothing. Both
take ranges in the order of the list, move at most a chunk of 256 blocks at a
time, and refuse a range that has no place in bytes before they do anything
about it.
-/
import BlockTransfer.Build.Session
import BlockTransfer.RangeSet

namespace BlockTransfer.Build

variable {σ τ : Type}

/-- Bytes moved at a time. -/
def chunkSize : Nat := 256 * blockSize

theorem chunkSize_pos : 0 < chunkSize := by decide

/-- How many bytes are moved at once when so many of a length are done. -/
def chunkAt (length done : Nat) : Nat :=
  min (length - done) chunkSize

theorem chunkAt_pos {length done : Nat} (h : done < length) : 0 < chunkAt length done := by
  have hchunk := chunkSize_pos
  unfold chunkAt
  omega

theorem add_chunkAt_le {length done : Nat} (h : done < length) :
    done + chunkAt length done ≤ length := by
  unfold chunkAt
  omega

/-- A chunk with bytes after it is a whole one. -/
theorem chunkAt_eq {length done : Nat} (h : done + chunkAt length done < length) :
    chunkAt length done = chunkSize := by
  unfold chunkAt at h ⊢
  omega

/-- The place of a range in bytes. -/
def place (range : BlockRange) : Step σ τ Span :=
  match range.span? with
  | some span => pure span
  | none => do
    report .error s!"Block range {range.text} does not fit in a 64-bit byte offset"
    throw (.build (.rangeOverflow range))

/-! ## The erase pass -/

/-- Writes so many zero bytes. -/
def eraseBytes (conduct : Conduct σ τ) (remaining : Nat) : Step σ τ Unit :=
  if remaining = 0 then pure ()
  else do
    let size := min remaining chunkSize
    write conduct (Image.zeros size)
    advance (size / blockSize)
    eraseBytes conduct (remaining - size)
termination_by remaining
decreasing_by
  have := chunkSize_pos
  omega

/-- Fills a range with zeros. -/
def eraseRange (conduct : Conduct σ τ) (range : BlockRange) : Step σ τ Unit := do
  let span ← place range
  report .debug s!"Erasing blocks {range.text} at 0x{Text.hexadecimal span.offset}"
  seek conduct span.offset
  eraseBytes conduct span.length

/-- Fills ranges with zeros and counts their blocks. -/
def eraseRanges (conduct : Conduct σ τ) (blocks : Nat) : List BlockRange → Step σ τ Nat
  | [] => pure blocks
  | range :: ranges => do
    eraseRange conduct range
    eraseRanges conduct (blocks + range.length) ranges

/-! ## The copy pass -/

/-- Fills the next chunk of a range, so many bytes, when it has so many already.
The target moves to the range once the first chunk is there. -/
def copyChunk (conduct : Conduct σ τ) (range : BlockRange) (span : Span) (done size : Nat) :
    Step σ τ Unit := do
  let chunk ← gather conduct size
  if chunk.size < size then
    let available := done + chunk.size
    report .error
      (s!"Data ran out while reading blocks {range.text}: " ++
        s!"needed {span.length} bytes, only {available} left")
    throw (.build (.shortRead range span.length available))
  else
    if done = 0 then
      seek conduct span.offset
    write conduct chunk
    advance (size / blockSize)

/-- Fills a range with data, of which it has so many bytes already. -/
def copyBytes (conduct : Conduct σ τ) (range : BlockRange) (span : Span) (done : Nat) :
    Step σ τ Unit :=
  if span.length ≤ done then pure ()
  else do
    copyChunk conduct range span done (chunkAt span.length done)
    copyBytes conduct range span (done + chunkAt span.length done)
termination_by span.length - done
decreasing_by
  have hless : done < span.length := by omega
  have hpos := chunkAt_pos hless
  omega

/-- Fills a range with data. -/
def copyRange (conduct : Conduct σ τ) (range : BlockRange) : Step σ τ Unit := do
  let span ← place range
  report .debug s!"Writing blocks {range.text} to 0x{Text.hexadecimal span.offset}"
  copyBytes conduct range span 0

/-- Fills ranges with data and counts their blocks. -/
def copyRanges (conduct : Conduct σ τ) (blocks : Nat) : List BlockRange → Step σ τ Nat
  | [] => pure blocks
  | range :: ranges => do
    copyRange conduct range
    copyRanges conduct (blocks + range.length) ranges

end BlockTransfer.Build
