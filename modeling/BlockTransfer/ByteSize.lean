/-
BlockTransfer.ByteSize — a count of bytes for people to read.

Below 1024 a count is written in full, with a `B`. From there on it is written
with two decimals and the suffix of the largest power of 1024 below it, `K` to
`E`. Two roundings happen on the way, both to the nearest value and to the even
neighbour of a tie: the count keeps 53 significant bits, and the quotient two
decimals. Division by a power of 1024 is exact in between, so both are stated
on whole numbers.
-/

namespace BlockTransfer.ByteSize

/-- The whole number nearest to a quotient; a tie goes to the even neighbour. -/
def roundQuotient (numerator denominator : Nat) : Nat :=
  let quotient := numerator / denominator
  let twice := 2 * (numerator % denominator)
  if denominator < twice ∨ (twice = denominator ∧ quotient % 2 = 1) then quotient + 1
  else quotient

/-- The number of 53 significant bits nearest to a count. -/
def significand (n : Nat) : Nat :=
  if n < Nat.pow 2 53 then n
  else
    let unit := Nat.pow 2 (n.log2 - 52)
    roundQuotient n unit * unit

/-- The suffixes, one for each power of 1024. -/
def suffixes : List Char := ['B', 'K', 'M', 'G', 'T', 'P', 'E']

/-- The power of 1024 that a value is measured by: the largest one not above it
that has a suffix. -/
def exponent (value : Nat) : Nat :=
  min (value.log2 / 10) (suffixes.length - 1)

/-- A count in hundredths of its power of 1024. -/
def hundredths (n : Nat) : Nat :=
  roundQuotient (100 * significand n) (Nat.pow 1024 (exponent (significand n)))

/-- A number of hundredths with a decimal point and two decimals. -/
def fixedPoint (hundredths : Nat) : String :=
  let cents := hundredths % 100
  s!"{hundredths / 100}.{cents / 10}{cents % 10}"

/-- The text of a count of bytes. -/
def text (n : Nat) : String :=
  match exponent (significand n) with
  | 0 => s!"{n}B"
  | power => fixedPoint (hundredths n) ++ (suffixes.getD power 'B').toString

end BlockTransfer.ByteSize
