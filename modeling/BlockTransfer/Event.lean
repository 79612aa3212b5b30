/-
BlockTransfer.Event — the events that the program reports while it works.

An event has a LEVEL (how grave it is), a TOPIC (which part of the program it
comes from) and a message. Whether an event is shown is decided elsewhere; what
happened is a value, and a log is a list of such values in order.
-/

namespace BlockTransfer

/-- How grave an event is, gravest first. -/
inductive Level where
  | error
  | warn
  | info
  | debug
deriving DecidableEq, Repr

/-- The name of a level in a log. -/
def Level.name : Level → String
  | .error => "ERROR"
  | .warn => "WARN"
  | .info => "INFO"
  | .debug => "DEBUG"

/-- The place of a level among the verbosities: a filter of verbosity `n` shows
the levels up to `n`. -/
def Level.rank : Level → Nat
  | .error => 1
  | .warn => 2
  | .info => 3
  | .debug => 4

/-- The part of the program that an event comes from. -/
inductive Topic where
  | program
  | transferList
  | image
  | progress
deriving DecidableEq, Repr

/-- The name of a topic in a log; a filter selects events by the start of it. -/
def Topic.name : Topic → String
  | .program => "sdatimg"
  | .transferList => "sdatimg::transfer"
  | .image => "sdatimg::image"
  | .progress => "sdatimg::progress"

/-- Something that happened. -/
structure Event where
  level : Level
  topic : Topic
  message : String
deriving DecidableEq, Repr

/-- The names of the fields that every event has. -/
def Event.fieldNames : List String := ["message"]

end BlockTransfer
