/-
BlockTransfer.Options — what a run is asked to do.

Three paths say where the transfer list, the data and the image are; four flags
say what else is wanted.
-/

namespace BlockTransfer

/-- The flags of the command line. -/
inductive Flag where
  | table
  | yaml
  | sha1sum
  | noProgress
deriving DecidableEq, Repr

namespace Flag

/-- All flags, in the order in which they are explained. -/
def all : List Flag := [.table, .yaml, .sha1sum, .noProgress]

/-- The letter of a flag. -/
def letter : Flag → Char
  | .table => 't'
  | .yaml => 'y'
  | .sha1sum => 's'
  | .noProgress => 'q'

/-- The word of a flag. -/
def word : Flag → String
  | .table => "table"
  | .yaml => "yaml"
  | .sha1sum => "sha1sum"
  | .noProgress => "no-progress"

end Flag

/-- What a run is asked to do. -/
structure Options where
  transferList : String
  data : String
  image : String
  table : Bool
  yaml : Bool
  sha1sum : Bool
  noProgress : Bool
deriving DecidableEq, Repr

end BlockTransfer
