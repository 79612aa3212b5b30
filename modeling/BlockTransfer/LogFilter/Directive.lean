/-
BlockTransfer.LogFilter.Directive — the directives of a log filter.

A directive is a verbosity for everything, or a topic, or a topic with a
verbosity after an equals sign. Behind the topic, or in place of it, brackets
may ask for a span that the event lies in, and braces in them for a field that
it has, perhaps with a value: `topic[span{field=value}]=level`.

A verbosity is the name of a level in any case, or its number, from `off`, which
is 0, to `trace`, which is 5; one that is left out is `trace`.

Blanks around a directive are passed over when its signs are looked for, but
not when its texts are cut out: these are counted from the start, blanks
included, so that a directive behind a blank is cut in the wrong places. The
count is in bytes. A cut inside of a character cannot be made at all.
-/
import BlockTransfer.Event
import BlockTransfer.LogFilter.ValuePattern
import BlockTransfer.Text.Numeral
import BlockTransfer.Text.Split

namespace BlockTransfer

/-- What is wrong with a directive. -/
inductive DirectiveError where
  | malformed
  | unknownVerbosity
  | badPattern (error : ValuePattern.PatternError)
  /-- A cut falls inside of a character. -/
  | brokenCut
deriving DecidableEq, Repr

/-- What is said about a directive that is left out. -/
def DirectiveError.text : DirectiveError → String
  | .malformed | .brokenCut => "invalid filter directive"
  | .unknownVerbosity =>
    "error parsing level filter: expected one of \"off\", \"error\", \"warn\", \"info\", " ++
      "\"debug\", \"trace\", or a number 0-5"
  | .badPattern error => s!"invalid field filter: {error.text}"

/-- A field that a directive asks for. -/
structure FieldDemand where
  name : String
  /-- Whether the field has to have a certain value. -/
  withValue : Bool
deriving DecidableEq, Repr

/-- Shows events up to a verbosity: those of a topic, if there is one, in a
span, if there is one, that have the fields. -/
structure Directive where
  topic? : Option String
  span? : Option String
  fields : List FieldDemand
  verbosity : Nat
deriving DecidableEq, Repr

/-! ## Verbosities -/

/-- The verbosity that shows everything. -/
def fullVerbosity : Nat := 5

/-- The names of the verbosities, from 0 on. -/
def verbosityNames : List String := ["off", "error", "warn", "info", "debug", "trace"]

theorem verbosityNames_length_pos : 0 < verbosityNames.length := by decide

/-- The verbosity that a text names. -/
def verbosity? (text : String) : Option Nat :=
  match Text.readNumeral verbosityNames_length_pos text.toList with
  | .ok verbosity => some verbosity.val
  | .error _ => verbosityNames.findIdx? (· = text.toLower)

/-! ## Cutting texts out -/

/-- What follows so many bytes of a text. -/
def dropBytes : Nat → List Char → Option (List Char)
  | 0, cs => some cs
  | _ + 1, [] => none
  | count + 1, c :: cs =>
    if c.utf8Size ≤ count + 1 then dropBytes (count + 1 - c.utf8Size) cs else none
termination_by _ cs => cs.length

/-- So many bytes of a text. -/
def takeBytes : Nat → List Char → Option (List Char)
  | 0, _ => some []
  | _ + 1, [] => none
  | count + 1, c :: cs =>
    if c.utf8Size ≤ count + 1 then
      (takeBytes (count + 1 - c.utf8Size) cs).map (c :: ·)
    else none
termination_by _ cs => cs.length

/-- The bytes that characters take. -/
def byteCount (cs : List Char) : Nat :=
  (String.ofList cs).utf8ByteSize

namespace Directive

/-- A cut that cannot be made is an error. -/
def cut (piece? : Option (List Char)) : Except DirectiveError String :=
  match piece? with
  | none => .error .brokenCut
  | some piece => .ok (String.ofList piece)

/-- The text between two counts of bytes. -/
def between (written : List Char) (start stop : Nat) : Except DirectiveError String :=
  cut ((dropBytes start written).bind (takeBytes (stop - start)))

/-- The verbosity that is written from a count of bytes on. -/
def verbosityFrom (written : List Char) (start : Nat) : Except DirectiveError Nat := do
  let text ← cut (dropBytes start written)
  if text = "" then .ok fullVerbosity
  else
    match verbosity? text with
    | none => .error .unknownVerbosity
    | some verbosity => .ok verbosity

/-! ## Reading -/

/-- Whether a directive can begin with a character, brackets aside. -/
def startsTopic (c : Char) : Bool :=
  ['-', ':', '_'].contains c || Text.isAlphanumeric c

/-- Reads what a directive asks of a field. What follows a second equals sign is
not looked at. -/
def readField (text : String) : Except DirectiveError FieldDemand :=
  match Text.splitAt '=' text.toList with
  | name :: value :: _ =>
    match ValuePattern.check (String.ofList value) with
    | .ok () => .ok ⟨String.ofList name, true⟩
    | .error error => .error (.badPattern error)
  | _ => .ok ⟨text, false⟩

/-- Reads on behind the brackets, so many bytes into the text. -/
def finish (written : List Char) (directive : Directive) (here : Nat) :
    List Char → Except DirectiveError Directive
  | [] => .ok directive
  | c :: _ =>
    if c = '=' then do
      let verbosity ← verbosityFrom written (here + 1)
      .ok { directive with verbosity }
    else .error .malformed

/-- Reads on behind the opening brace. -/
def readFields (written : List Char) (directive : Directive) (here : Nat) (rest : List Char) :
    Except DirectiveError Directive :=
  let stop := here + byteCount (rest.takeWhile (· ≠ '\x7d'))
  match rest.dropWhile (· ≠ '\x7d') with
  | [] => .error .malformed
  | _ :: rest => do
    let text ← between written here stop
    if text = "" then .error .malformed
    else
      let field ← readField text
      match rest with
      | ']' :: rest => finish written { directive with fields := [field] } (stop + 2) rest
      | _ => .error .malformed

/-- Reads on behind the opening bracket. -/
def readSpan (written : List Char) (topic? : Option String) (here : Nat) (rest : List Char) :
    Except DirectiveError Directive :=
  let ends := fun c : Char => c = ']' || c = '\x7b'
  let stop := here + byteCount (rest.takeWhile (!ends ·))
  match rest.dropWhile (!ends ·) with
  | [] => .error .malformed
  | c :: rest => do
    let span ← between written here stop
    if c = ']' then finish written ⟨topic?, some span, [], fullVerbosity⟩ (stop + 1) rest
    else
      let span? := if span = "" then none else some span
      readFields written ⟨topic?, span?, [], fullVerbosity⟩ (stop + 1) rest

/-- A directive of one word, which is a verbosity or else a topic. -/
def ofWord (text : String) : Directive :=
  match verbosity? text with
  | some verbosity => ⟨none, none, [], verbosity⟩
  | none => ⟨some text, none, [], fullVerbosity⟩

/-- Reads a directive. -/
def ofText (text : String) : Except DirectiveError Directive :=
  let written := text.toList
  let ends := fun c : Char => c = '=' || c = '['
  match Text.trim written with
  | [] => .error .malformed
  | '[' :: rest => readSpan written none 1 rest
  | c :: cs =>
    if startsTopic c then
      let stop := byteCount ((c :: cs).takeWhile (!ends ·))
      match (c :: cs).dropWhile (!ends ·) with
      | [] => .ok (ofWord text)
      | sign :: rest => do
        let topic ← between written 0 stop
        if sign = '[' then readSpan written (some topic) (stop + 1) rest
        else
          let verbosity ← verbosityFrom written (stop + 1)
          .ok ⟨some topic, none, [], verbosity⟩
    else .error .malformed

/-! ## What a directive decides -/

/-- Whether a directive can be decided by an event alone: it asks for no span
and for no value. -/
def isPlain (directive : Directive) : Bool :=
  directive.span?.isNone && directive.fields.all fun field => !field.withValue

/-- How much a directive asks for: first the length of the topic, if there is
one, then the count of fields. -/
def specificity (directive : Directive) : Nat × Nat :=
  (match directive.topic? with
    | none => 0
    | some topic => topic.utf8ByteSize + 1,
    directive.fields.length)

/-- Whether a directive asks for no more than another one. -/
def isNoMoreSpecific (directive other : Directive) : Bool :=
  let (topic, fields) := directive.specificity
  let (otherTopic, otherFields) := other.specificity
  topic < otherTopic || (topic = otherTopic && fields ≤ otherFields)

/-- Whether an event is of the topic of a directive and has its fields. -/
def isAbout (directive : Directive) (event : Event) : Bool :=
  let ofTopic :=
    match directive.topic? with
    | none => true
    | some topic => topic.toList.isPrefixOf event.topic.name.toList
  ofTopic && directive.fields.all fun field => Event.fieldNames.contains field.name

end Directive

end BlockTransfer
