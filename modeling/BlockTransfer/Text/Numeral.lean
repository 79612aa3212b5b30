/-
BlockTransfer.Text.Numeral — numerals: how a number is written in decimal and
in hexadecimal, and how a decimal numeral below a bound is read.

A numeral is an optional plus sign and one or more ASCII digits, leading zeros
included. It is read from the left, and the first thing wrong with it decides
what is said about it: a character that is no digit, or a digit that takes the
value to the bound or past it.
-/

namespace BlockTransfer.Text

/-- Why a text is not read as a number. -/
inductive Misread where
  | empty
  | badDigit
  | tooLarge
deriving DecidableEq, Repr

/-- What a misread is called in a message. -/
def Misread.reason : Misread → String
  | .empty => "cannot parse integer from empty string"
  | .badDigit => "invalid digit found in string"
  | .tooLarge => "number too large to fit in target type"

/-- The value of an ASCII digit. -/
def digit? (c : Char) : Option Nat :=
  if '0' ≤ c ∧ c ≤ '9' then some (c.toNat - '0'.toNat) else none

/-- The value of a hexadecimal digit. -/
def hexDigit? (c : Char) : Option Nat :=
  if 'a' ≤ c ∧ c ≤ 'f' then some (c.toNat - 'a'.toNat + 10)
  else if 'A' ≤ c ∧ c ≤ 'F' then some (c.toNat - 'A'.toNat + 10)
  else digit? c

/-- Reads digits after those whose value is given. -/
def readDigits {bound : Nat} (value : Fin bound) : List Char → Except Misread (Fin bound)
  | [] => .ok value
  | c :: cs =>
    match digit? c with
    | none => .error .badDigit
    | some digit =>
      if h : 10 * value.val + digit < bound then readDigits ⟨10 * value.val + digit, h⟩ cs
      else .error .tooLarge

/-- Reads a numeral whose value has to lie below the bound. -/
def readNumeral {bound : Nat} (positive : 0 < bound) : List Char → Except Misread (Fin bound)
  | [] => .error .empty
  | ['+'] => .error .badDigit
  | '+' :: digits => readDigits ⟨0, positive⟩ digits
  | digits => readDigits ⟨0, positive⟩ digits

/-- A number in decimal: no sign, no leading zero. -/
def decimal (n : Nat) : List Char :=
  Nat.toDigits 10 n

/-- A number in lower-case hexadecimal, without leading zeros. -/
def hexadecimal (n : Nat) : String :=
  String.ofList (Nat.toDigits 16 n)

/-- A byte as two lower-case hexadecimal digits. -/
def hexByte (byte : UInt8) : List Char :=
  [Nat.digitChar (byte.toNat / 16), Nat.digitChar (byte.toNat % 16)]

end BlockTransfer.Text
