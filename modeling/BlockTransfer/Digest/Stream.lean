/-
BlockTransfer.Digest.Stream — the digest of what a source delivers.

The source is read to its end, in reads of at most a mebibyte. Interrupted
reads are made again, and any other failure ends the work. A progress bar is
advanced by the bytes of each read; it is finished only when the digest is.
-/
import BlockTransfer.Digest.Sha1
import BlockTransfer.Progress
import BlockTransfer.Source

namespace BlockTransfer.Digest

variable {σ : Type}

/-- The most bytes that are asked for at once. -/
def readSize : Nat := 0x100000

/-- How the digest of a source came out, and the bar that went with it. -/
structure Hashing where
  result : Except Fault Digest
  bar : ProgressBar

/-- Takes the rest of a source into a message of which some is known. -/
def hashRest (conduct : SourceConduct σ) (data : ByteArray) (hasher : Hasher) (bar : ProgressBar)
    (reader : Reader σ) : Hashing :=
  match h : conduct.onRead reader.state reader.position readSize with
  | (.refused fault, _) => ⟨.error fault, bar⟩
  | (.interrupted, state) =>
    have := conduct.patient h
    hashRest conduct data hasher bar ⟨reader.position, state⟩
  | (.proceed atMost, state) =>
    let moved := SourceConduct.delivered data reader.position readSize atMost
    if moved = 0 then ⟨.ok hasher.finish, bar.finish⟩
    else
      hashRest conduct data
        (hasher.update (data.extract reader.position (reader.position + moved)))
        (bar.advance moved) ⟨reader.position + moved, state⟩
termination_by (data.size - reader.position, conduct.patience reader.state)
decreasing_by
  · exact Prod.Lex.right _ this
  · apply Prod.Lex.left
    simp only [moved, SourceConduct.delivered] at *
    omega

/-- The digest of a source from its start. -/
def ofSource (conduct : SourceConduct σ) (state : σ) (data : ByteArray) (bar : ProgressBar) :
    Hashing :=
  hashRest conduct data .initial bar ⟨0, state⟩

end BlockTransfer.Digest
