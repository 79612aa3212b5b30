/-
BlockTransfer.Progress.Template — the templates that progress bars are drawn
from.

A template is literal text with placeholders in braces. A placeholder is a key,
and after a colon an alignment, a width, a mark for truncation and one or two
styles, each of which may be missing. A brace is written twice to stand for
itself, and a blank where a key should be turns the placeholder into literal
text. `checkTemplate` walks over a text one character at a time and tells the
first character that does not fit; a text that ends early fits. A `Template`
carries the proof that its text fits, so that drawing from one cannot fail.
-/
import BlockTransfer.Logged
import BlockTransfer.Text.Quoted

namespace BlockTransfer.Progress

/-- Where in a template a character stands. A width carries its value. -/
inductive TemplateState where
  | literal
  | maybeOpen
  | doubleClose
  | key
  | align
  | width (value : Nat)
  | firstStyle
  | altStyle
deriving DecidableEq, Repr

/-- The name of a state in a message. -/
def TemplateState.name : TemplateState → String
  | .literal => "Literal"
  | .maybeOpen => "MaybeOpen"
  | .doubleClose => "DoubleClose"
  | .key => "Key"
  | .align => "Align"
  | .width _ => "Width"
  | .firstStyle => "FirstStyle"
  | .altStyle => "AltStyle"

/-- Why a text is no template. -/
inductive TemplateError where
  | unexpected (c : Char) (state : TemplateState)
  | widthTooLarge (value : Nat)
deriving DecidableEq, Repr

/-- A character between single quotes. -/
def quotedCharacter (c : Char) : String :=
  match c with
  | '"' => "'\"'"
  | '\'' => "'\\''"
  | c => "'" ++ Text.quotedChar c ++ "'"

/-- The error in words. -/
def TemplateError.message : TemplateError → String
  | .unexpected c state =>
    s!"TemplateError: unexpected character {quotedCharacter c} in state {state.name}"
  | .widthTooLarge value => s!"TemplateError: width {value} is too large"

/-- The blanks that turn a placeholder into literal text. -/
def endsKey (c : Char) : Bool :=
  c = ' ' || c = '\t' || c = '\n' || c = '\x0c' || c = '\r'

/-- The widest that a placeholder can be. -/
def widthLimit : Nat := 65535

/-- Leaves a width. -/
def TemplateState.leaveWidth (value : Nat) (state : TemplateState) :
    Except TemplateError TemplateState :=
  if value ≤ widthLimit then .ok state else .error (.widthTooLarge value)

/-- The state after one more character. -/
def TemplateState.step (state : TemplateState) (c : Char) : Except TemplateError TemplateState :=
  match state with
  | .literal =>
    if c = '\x7b' then .ok .maybeOpen
    else if c = '\x7d' then .ok .doubleClose
    else .ok .literal
  | .doubleClose => if c = '\x7d' then .ok .literal else .error (.unexpected c .doubleClose)
  | .maybeOpen =>
    if c = '\x7b' || endsKey c then .ok .literal
    else if c = '\x7d' || c = ':' then .error (.unexpected c .maybeOpen)
    else .ok .key
  | .key =>
    if endsKey c || c = '\x7d' then .ok .literal
    else if c = ':' then .ok .align
    else .ok .key
  | .align =>
    if c = '<' || c = '^' || c = '>' || c = '!' then .ok (.width 0)
    else if c = '.' then .ok .firstStyle
    else if c = '\x7d' then .ok .literal
    else match Text.digit? c with
      | some digit => .ok (.width digit)
      | none => .error (.unexpected c .align)
  | .width value =>
    if c = '!' then .ok (.width value)
    else if c = '.' then TemplateState.leaveWidth value .firstStyle
    else if c = '\x7d' then TemplateState.leaveWidth value .literal
    else match Text.digit? c with
      | some digit => .ok (.width (10 * value + digit))
      | none => .error (.unexpected c (.width value))
  | .firstStyle =>
    if c = '/' then .ok .altStyle
    else if c = '\x7d' then .ok .literal
    else .ok .firstStyle
  | .altStyle => if c = '\x7d' then .ok .literal else .ok .altStyle

/-- The state after the rest of a template. -/
def TemplateState.walk (state : TemplateState) : List Char → Except TemplateError TemplateState
  | [] => .ok state
  | c :: cs =>
    match state.step c with
    | .error error => .error error
    | .ok next => next.walk cs

/-- Whether a text is a template, and if not, why. -/
def checkTemplate (template : String) : Except TemplateError Unit :=
  match TemplateState.literal.walk template.toList with
  | .error error => .error error
  | .ok _ => .ok ()

/-- A text that is a template. -/
structure Template where
  text : String
  fits : checkTemplate text = .ok ()
deriving Repr

namespace Template

/-- Takes a text as a template, if it is one. -/
def ofText (text : String) : Logged TemplateError Template :=
  match fits : checkTemplate text with
  | .ok () => pure ⟨text, fits⟩
  | .error error =>
    .fail error .progress
      s!"Failed to create progress bar style from template '{text}': {error.message}"

/-- The template of bars that count blocks. -/
def blocks : Template where
  text :=
    "\x7bprefix\x7d => [\x7belapsed_precise\x7d] \x7bbar:40.cyan/blue\x7d \x7bpos:>9\x7d" ++
      "/\x7blen:9\x7d blocks \x7bmsg\x7d"
  fits := rfl

/-- The template of bars that count bytes. -/
def bytes : Template where
  text :=
    "\x7bprefix\x7d => [\x7belapsed_precise\x7d] \x7bbar:40.cyan/blue\x7d \x7bbytes:>10\x7d" ++
      "/\x7btotal_bytes:10\x7d"
  fits := rfl

end Template

end BlockTransfer.Progress
