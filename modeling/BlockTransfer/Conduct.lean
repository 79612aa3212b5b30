/-
BlockTransfer.Conduct — how sources and targets behave.

What a source holds and what a target has been given is kept elsewhere and is
always honest. A CONDUCT decides the rest: for each call, from a state of its
own, it says whether the call moves bytes and at most how many, is interrupted
and has to be made again, or fails. Every way in which reads and writes can be
cut short, interrupted and refused is some conduct.

A caller repeats an interrupted call, so a conduct must not interrupt for ever:
`patience` is a number that goes down with each interruption.
-/
import BlockTransfer.Fault

namespace BlockTransfer

/-- What becomes of one call to read or to write. -/
inductive Verdict where
  | proceed (atMost : Nat)
  | interrupted
  | refused (fault : Fault)
deriving DecidableEq, Repr

/-- How a source answers calls to read, each at a position and for a count of
bytes. -/
structure SourceConduct (σ : Type) where
  onRead : σ → (position size : Nat) → Verdict × σ
  patience : σ → Nat
  patient : ∀ {state next : σ} {position size : Nat},
    onRead state position size = (.interrupted, next) → patience next < patience state

/-- How a target answers calls to write, each at a position and for a count of
bytes, and calls to move to an offset and to flush. -/
structure TargetConduct (τ : Type) where
  onWrite : τ → (position size : Nat) → Verdict × τ
  onSeek : τ → (offset : Nat) → Option Fault × τ
  onFlush : τ → Option Fault × τ
  patience : τ → Nat
  patient : ∀ {state next : τ} {position size : Nat},
    onWrite state position size = (.interrupted, next) → patience next < patience state

/-- How the two sides of a build behave. -/
structure Conduct (σ τ : Type) where
  source : SourceConduct σ
  target : TargetConduct τ

/-- A source that gives all it is asked for. -/
def SourceConduct.willing : SourceConduct Unit where
  onRead _ _ size := (.proceed size, ())
  patience _ := 0
  patient h := by cases h

/-- A source that cannot be read. -/
def SourceConduct.refusing (fault : Fault) : SourceConduct Unit where
  onRead _ _ _ := (.refused fault, ())
  patience _ := 0
  patient h := by cases h

/-- A target that takes all it is given and moves to every offset below a
bound. -/
def TargetConduct.willing (offsetLimit : Nat) : TargetConduct Unit where
  onWrite _ _ size := (.proceed size, ())
  onSeek _ offset := (if offset < offsetLimit then none else some .invalidOffset, ())
  onFlush _ := (none, ())
  patience _ := 0
  patient h := by cases h

end BlockTransfer
