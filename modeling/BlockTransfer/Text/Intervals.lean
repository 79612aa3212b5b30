/-
BlockTransfer.Text.Intervals — classes of characters, listed as intervals of
code points.

A class that the character database defines is a table of closed intervals in
increasing order. A character belongs to it when its code point lies in one of
them.
-/

namespace BlockTransfer.Text

/-- Closed intervals of code points. -/
abbrev Intervals := List (Nat × Nat)

/-- Whether the code point of a character lies in one of the intervals. -/
def isListed (intervals : Intervals) (c : Char) : Bool :=
  intervals.any fun interval => interval.1 ≤ c.toNat && c.toNat ≤ interval.2

end BlockTransfer.Text
