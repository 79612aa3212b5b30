/-
BlockTransfer.Error — why the program fails.

Each error is a cause with the values that belong to it; `dump` writes it out
with all of them, in the form in which a failed run ends.
-/
import BlockTransfer.BlockRange
import BlockTransfer.Fault
import BlockTransfer.Text.Quoted
import BlockTransfer.TransferList.Error

namespace BlockTransfer

/-- Why a build fails for reasons of its own. -/
inductive BuildError where
  /-- The data ended before the range was full: how much it needs, and how much
  was there for it. -/
  | shortRead (range : BlockRange) (expected available : Nat)
  /-- The range has no place in bytes. -/
  | rangeOverflow (range : BlockRange)
deriving DecidableEq, Repr

/-- Why a run fails. -/
inductive Error where
  | io (fault : Fault)
  | missingInput (path : String)
  | transferList (error : TransferList.Error)
  | build (error : BuildError)
deriving DecidableEq, Repr

/-! ## Writing errors out -/

/-- A name and the named values after it. -/
def dumpFields (name : String) (fields : List (String × String)) : String :=
  let written := fields.map fun (key, value) => s!"{key}: {value}"
  name ++ " \x7b " ++ ", ".intercalate written ++ " \x7d"

/-- A name and a value in brackets. -/
def dumpWrapped (name value : String) : String :=
  s!"{name}({value})"

/-- A fault with its kind and message, and its number if it has one. -/
def Fault.dump (fault : Fault) : String :=
  match fault.code? with
  | some code =>
    dumpFields "Os"
      [("code", s!"{code}"), ("kind", fault.kind.name), ("message", Text.quoted fault.message)]
  | none =>
    dumpFields "Error" [("kind", fault.kind.name), ("message", Text.quoted fault.message)]

/-- What is wrong with a transfer list, with the values at fault. -/
def TransferList.Error.dump : TransferList.Error → String
  | .missingHeader line => dumpFields "MissingHeader" [("line", s!"{line}")]
  | .invalidHeader line value =>
    dumpFields "InvalidHeader" [("line", s!"{line}"), ("value", Text.quoted value)]
  | .invalidInteger token => dumpFields "InvalidInteger" [("token", Text.quoted token)]
  | .oddCount count => dumpFields "OddCount" [("count", s!"{count}")]
  | .tooFewValues count available =>
    dumpFields "TooFewValues" [("count", s!"{count}"), ("available", s!"{available}")]
  | .invertedRange start stop =>
    dumpFields "InvertedRange" [("start", s!"{start}"), ("end", s!"{stop}")]
  | .missingRangeField command line =>
    dumpFields "MissingRangeField" [("command", Text.quoted command.word), ("line", s!"{line}")]

/-- Why a build failed, with the numbers of the range. -/
def BuildError.dump : BuildError → String
  | .shortRead range expected available =>
    dumpFields "ShortRead"
      [("start", s!"{range.start}"), ("end", s!"{range.stop}"),
        ("expected", s!"{expected}"), ("available", s!"{available}")]
  | .rangeOverflow range =>
    dumpFields "RangeOverflow" [("start", s!"{range.start}"), ("end", s!"{range.stop}")]

/-- Why a run failed, in full. -/
def Error.dump : Error → String
  | .io fault => dumpWrapped "IOError" fault.dump
  | .missingInput path => dumpFields "MissingInput" [("path", Text.quoted path)]
  | .transferList error => dumpWrapped "TransferListError" error.dump
  | .build error => dumpWrapped "BuildError" error.dump

end BlockTransfer
