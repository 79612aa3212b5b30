/-
BlockTransfer.Source — reading from a sequence of bytes.

A reader is a position in the bytes and the state of the source's conduct. One
read moves the position by the bytes it delivers: never more than was asked
for, nor than are left. A read that delivers none means the end. `gather` reads
until it has as many bytes as it was asked for, or the end comes.
-/
import BlockTransfer.Conduct

namespace BlockTransfer

/-- How far a source has been read. -/
structure Reader (σ : Type) where
  position : Nat
  state : σ

namespace SourceConduct

variable {σ : Type}

/-- How many bytes a read delivers that may move a number of them. -/
def delivered (data : ByteArray) (position size atMost : Nat) : Nat :=
  min atMost (min size (data.size - position))

/-- Reads on until there are as many bytes as asked for, or no more come. -/
def gather (conduct : SourceConduct σ) (data : ByteArray) (size : Nat) (got : ByteArray)
    (reader : Reader σ) : Except Fault ByteArray × Reader σ :=
  if size ≤ got.size then (.ok got, reader)
  else
    match h : conduct.onRead reader.state reader.position (size - got.size) with
    | (.refused fault, state) => (.error fault, ⟨reader.position, state⟩)
    | (.interrupted, state) =>
      have := conduct.patient h
      conduct.gather data size got ⟨reader.position, state⟩
    | (.proceed atMost, state) =>
      let moved := delivered data reader.position (size - got.size) atMost
      if moved = 0 then (.ok got, ⟨reader.position, state⟩)
      else
        conduct.gather data size
          (got ++ data.extract reader.position (reader.position + moved))
          ⟨reader.position + moved, state⟩
termination_by (size - got.size, conduct.patience reader.state)
decreasing_by
  · exact Prod.Lex.right _ this
  · apply Prod.Lex.left
    have bound : reader.position + moved ≤ data.size := by
      simp only [moved, delivered] at *
      omega
    simp only [ByteArray.size_append, ByteArray.size_extract]
    omega

end SourceConduct

end BlockTransfer
