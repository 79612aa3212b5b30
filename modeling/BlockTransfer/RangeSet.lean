/-
BlockTransfer.RangeSet — block ranges in the order in which they were written.

The order matters and ranges may overlap: a set is a list. Its block count
counts every range in full, overlaps repeatedly, and stops at the largest word.
`toField` is the canonical encoding: the count of the numbers that follow, then
the two ends of each range, with commas between them.
-/
import BlockTransfer.BlockRange
import BlockTransfer.Text.Numeral
import BlockTransfer.Text.Split

namespace BlockTransfer

/-- Block ranges, in order. -/
structure RangeSet where
  ranges : List BlockRange
deriving DecidableEq, Repr

namespace RangeSet

/-- No ranges at all. -/
def empty : RangeSet := ⟨[]⟩

/-- How many ranges there are. -/
def count (set : RangeSet) : Nat :=
  set.ranges.length

/-- How many blocks the ranges hold, each range counted in full. -/
def blockCount (set : RangeSet) : Nat :=
  set.ranges.foldl (fun sum range => saturate (sum + range.length)) 0

/-- The start and the end of each range, in order. -/
def pairs (set : RangeSet) : List (Nat × Nat) :=
  set.ranges.map fun range => (range.start, range.stop)

/-- A set is known when the ends of its ranges are. -/
theorem pairs_inj {set other : RangeSet} : set.pairs = other.pairs ↔ set = other := by
  refine ⟨fun h => ?_, congrArg pairs⟩
  have hends : ∀ range other : BlockRange,
      (range.start, range.stop) = (other.start, other.stop) → range = other := by
    rintro ⟨start, stop, _, _⟩ ⟨_, _, _, _⟩ hsame
    obtain ⟨rfl, rfl⟩ := Prod.mk.inj hsame
    rfl
  have hranges : set.ranges = other.ranges := (List.map_inj_right hends).mp h
  cases set
  exact congrArg RangeSet.mk hranges

/-- The numbers of the canonical encoding. -/
def numbers (set : RangeSet) : List Nat :=
  2 * set.count :: set.ranges.flatMap fun range => [range.start, range.stop]

/-- The canonical encoding. -/
def toField (set : RangeSet) : String :=
  String.ofList (Text.joinWith ',' (set.numbers.map Text.decimal))

end RangeSet

end BlockTransfer
