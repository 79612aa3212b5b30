/-
BlockTransfer.TransferList.Error — what can be wrong with a transfer list.

Lines are counted from zero. Tokens and header values are kept as they were
found, so that a message can show them.
-/

namespace BlockTransfer

/-- The commands of a transfer list that are interpreted. -/
inductive Command where
  | erase
  | new
deriving DecidableEq, Repr

/-- The word that a command line starts with. -/
def Command.word : Command → String
  | .erase => "erase"
  | .new => "new"

namespace TransferList

/-- Why a text is not a transfer list, or a field not a range set. -/
inductive Error where
  | missingHeader (line : Nat)
  | invalidHeader (line : Nat) (value : String)
  | invalidInteger (token : String)
  | oddCount (count : Nat)
  | tooFewValues (count available : Nat)
  | invertedRange (start stop : Nat)
  | missingRangeField (command : Command) (line : Nat)
deriving DecidableEq, Repr

end TransferList

end BlockTransfer
