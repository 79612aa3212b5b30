/-
BlockTransfer.Target — writing into an image.

A target is an image, a position in it, the trace of the operations it has
seen and the state of its conduct. A write puts as much of a piece into the
image as the conduct lets it, and moves the position past it; the trace keeps
the bytes that were accepted. `writeAll` writes on until the whole piece is in:
an interrupted write is made again, and a write that accepts nothing is a
failure, for the next one would accept nothing either.
-/
import BlockTransfer.Conduct
import BlockTransfer.Image

namespace BlockTransfer

/-- What became of a write. -/
inductive WriteOutcome where
  | accepted (bytes : ByteArray)
  | interrupted
  | refused (fault : Fault)

/-- An operation on a target, with what became of it. -/
inductive Operation where
  | seek (offset : Nat) (fault? : Option Fault)
  | write (requested : Nat) (outcome : WriteOutcome)
  | flush (fault? : Option Fault)

/-- An image that is being written. -/
structure Target (τ : Type) where
  image : ByteArray
  position : Nat
  trace : Array Operation
  state : τ

namespace TargetConduct

variable {τ : Type}

/-- What remains of a call that may have failed. -/
def outcome : Option Fault → Except Fault Unit
  | none => .ok ()
  | some fault => .error fault

/-- Moves to an offset, unless that fails. -/
def seek (conduct : TargetConduct τ) (offset : Nat) :
    Target τ → Except Fault Unit × Target τ
  | ⟨image, position, trace, state⟩ =>
    match conduct.onSeek state offset with
    | (none, state) => (.ok (), ⟨image, offset, trace.push (.seek offset none), state⟩)
    | (some fault, state) =>
      (.error fault, ⟨image, position, trace.push (.seek offset (some fault)), state⟩)

/-- Asks the target to finish what it has begun. -/
def flush (conduct : TargetConduct τ) : Target τ → Except Fault Unit × Target τ
  | ⟨image, position, trace, state⟩ =>
    match conduct.onFlush state with
    | (fault?, state) => (outcome fault?, ⟨image, position, trace.push (.flush fault?), state⟩)

/-- Writes what follows the part of a piece that is done. -/
def writeFrom (conduct : TargetConduct τ) (piece : ByteArray) (done : Nat) :
    Target τ → Except Fault Unit × Target τ
  | ⟨image, position, trace, state⟩ =>
    if piece.size ≤ done then (.ok (), ⟨image, position, trace, state⟩)
    else
      let requested := piece.size - done
      match h : conduct.onWrite state position requested with
      | (.refused fault, state) =>
        (.error fault, ⟨image, position, trace.push (.write requested (.refused fault)), state⟩)
      | (.interrupted, state) =>
        have := conduct.patient h
        conduct.writeFrom piece done
          ⟨image, position, trace.push (.write requested .interrupted), state⟩
      | (.proceed atMost, state) =>
        let accepted := min atMost requested
        let bytes := piece.extract done (done + accepted)
        let seen := trace.push (.write requested (.accepted bytes))
        if accepted = 0 then (.error .wroteNothing, ⟨image, position, seen, state⟩)
        else
          conduct.writeFrom piece (done + accepted)
            ⟨Image.splice image bytes position, position + accepted, seen, state⟩
termination_by target => (piece.size - done, conduct.patience target.state)
decreasing_by
  · exact Prod.Lex.right _ this
  · exact Prod.Lex.left _ _ (by omega)

/-- Writes a whole piece. -/
def writeAll (conduct : TargetConduct τ) (piece : ByteArray) (target : Target τ) :
    Except Fault Unit × Target τ :=
  conduct.writeFrom piece 0 target

end TargetConduct

end BlockTransfer
