/-
BlockTransfer.LogFilter.ValuePattern — which texts are patterns that a field's
value can be compared with.

A directive may ask for the value of a field. What it asks for is a truth
value, a number, or a REGULAR EXPRESSION, which has to be well formed: groups
and classes are closed, a repetition follows something that can be repeated, an
escape means something, nothing is nested too deeply. No tables of letter case
or of character properties are at hand, so an expression that needs one is
refused as well, and so is one that could match bytes that are not text.

The reader goes over the expression from left to right and keeps, for every
open group, how deep its parts are nested. It needs no more than that: no value
is ever compared, for the events of this program have no fields but their
message.
-/
import BlockTransfer.Text.Alphanumeric
import BlockTransfer.Text.Blank
import BlockTransfer.Text.Numeral

namespace BlockTransfer.ValuePattern

/-- Why a text is not a pattern. -/
inductive PatternError where
  | malformed
  /-- The ends of words are asked for, in the words of every script. -/
  | wordBoundary
deriving DecidableEq, Repr

/-- What is said about a text that is not a pattern. -/
def PatternError.text : PatternError → String
  | .malformed => "error building NFA"
  | .wordBoundary =>
    "unsupported regex feature for DFAs: cannot build DFAs for regexes with Unicode word " ++
      "boundaries; switch to ASCII word boundaries, or heuristically enable Unicode word " ++
      "boundaries or use a different regex engine"

/-! ## Modes -/

/-- What the flags of an expression have set for what follows. -/
structure Modes where
  /-- Characters are matched, not bytes. -/
  unicode : Bool
  ignoresCase : Bool
  /-- Blanks and comments may stand between the parts. -/
  spaced : Bool
deriving DecidableEq, Repr

/-- The modes that an expression begins with. -/
def Modes.initial : Modes := ⟨true, false, false⟩

/-- Drops blanks, and comments from a hash to the end of the line. -/
def dropSpace (inComment : Bool) : List Char → List Char
  | [] => []
  | c :: cs =>
    if inComment then dropSpace (c ≠ '\n') cs
    else if Text.isBlank c then dropSpace false cs
    else if c = '#' then dropSpace true cs
    else c :: cs

/-- Drops what may stand between the parts of an expression. -/
def Modes.skip (modes : Modes) (cs : List Char) : List Char :=
  if modes.spaced then dropSpace false cs else cs

/-- The next character behind blanks, for telling what a hyphen means. A comment
is not passed over: only its hash is. -/
def peekBehindSpace (inComment : Bool) : List Char → Option Char
  | [] => none
  | c :: cs =>
    if Text.isBlank c then peekBehindSpace inComment cs
    else if c = '#' ∧ !inComment then peekBehindSpace true cs
    else some c

/-- The next character, for telling what a hyphen means. -/
def Modes.peek (modes : Modes) (cs : List Char) : Option Char :=
  if modes.spaced then peekBehindSpace false cs else cs.head?

/-! ## Single characters -/

/-- What one character or one escape stands for. -/
inductive Atom where
  /-- The character of a code point, which may be written as a byte. -/
  | literal (code : Nat) (asByte : Bool)
  /-- The digits, the blanks or the characters of words, or all but these. -/
  | shorthand (negated : Bool)
  /-- A property of the character database. -/
  | property
  | anchor
  | wordBoundary
deriving DecidableEq, Repr

/-- Whether an atom can be matched in the modes. -/
def Atom.isAllowed (modes : Modes) : Atom → Bool
  | .literal code asByte => if modes.unicode then !modes.ignoresCase else !(asByte && 0x7f < code)
  | .shorthand negated => !modes.unicode && !negated
  | .property => false
  | .anchor | .wordBoundary => true

/-- Reads so many hexadecimal digits after those whose value is given. -/
def readHex (modes : Modes) (value : Nat) : Nat → List Char → Option (Nat × List Char)
  | 0, cs => some (value, cs)
  | count + 1, cs =>
    match modes.skip cs with
    | [] => none
    | c :: cs => do
      let digit ← Text.hexDigit? c
      readHex modes (16 * value + digit) count cs

/-- Reads the code point of an escape with so many hexadecimal digits. -/
def readCode (modes : Modes) (digits : Nat) (cs : List Char) : Option (Atom × List Char) := do
  let (code, cs) ← readHex modes 0 digits cs
  if code.isValidChar then some (.literal code (digits = 2), cs) else none

/-- Characters that mean themselves only behind a backslash. -/
def metaChars : List Char :=
  ['\\', '.', '+', '*', '?', '(', ')', '|', '[', ']', '\x7b', '\x7d', '^', '$', '#', '&', '-', '~']

/-- Whether a backslash before a character leaves it as it is: all of ASCII but
digits, letters and the signs kept for the ends of words. -/
def isEscapable (c : Char) : Bool :=
  metaChars.contains c || (c.toNat < 0x80 && !c.isAlphanum && c ≠ '<' && c ≠ '>')

/-- The code points of the escapes for control characters. -/
def controlEscapes : List (Char × Nat) :=
  [('a', 0x07), ('f', 0x0c), ('t', 0x09), ('n', 0x0a), ('r', 0x0d), ('v', 0x0b)]

/-- Reads what follows a backslash. -/
def readEscape (modes : Modes) : List Char → Option (Atom × List Char)
  | [] => none
  | c :: cs =>
    if c = 'x' then readCode modes 2 cs
    else if c = 'u' then readCode modes 4 cs
    else if c = 'U' then readCode modes 8 cs
    else if c ∈ ['p', 'P'] then some (.property, cs)
    else if c ∈ ['d', 's', 'w'] then some (.shorthand false, cs)
    else if c ∈ ['D', 'S', 'W'] then some (.shorthand true, cs)
    else if isEscapable c then some (.literal c.toNat false, cs)
    else if c ∈ ['A', 'z'] then some (.anchor, cs)
    else if c ∈ ['b', 'B', '<', '>'] then some (.wordBoundary, cs)
    else
      match controlEscapes.lookup c with
      | none => none
      | some code => some (.literal code false, cs)

/-! ## Nesting -/

/-- How deep the parts of a whole are nested: one part alone is the whole. -/
def depthOfAll : List Nat → Nat
  | [] => 0
  | [depth] => depth
  | depths => 1 + depths.foldl max 0

/-- The deepest nesting that is accepted. -/
def maxDepth : Nat := 250

/-! ## Classes -/

/-- The names of the classes of ASCII characters. -/
def asciiClasses : List String :=
  ["alnum", "alpha", "ascii", "blank", "cntrl", "digit", "graph", "lower", "print", "punct",
    "space", "upper", "word", "xdigit"]

/-- Reads a named class behind its bracket: whether it is negated, and what
follows it. -/
def readNamedClass? (cs : List Char) : Option (Bool × List Char) :=
  match cs with
  | ':' :: rest =>
    let negated := rest.head? = some '^'
    let rest := if negated then rest.tail else rest
    let name := rest.takeWhile (· ≠ ':')
    match rest.dropWhile (· ≠ ':') with
    | ':' :: ']' :: rest =>
      if String.ofList name ∈ asciiClasses then some (negated, rest) else none
    | _ => none
  | _ => none

/-- An open class: the depths of the members so far, last one first, and of
what stands before the last operator. -/
structure OpenClass where
  members : List Nat
  before? : Option Nat
deriving DecidableEq, Repr

namespace OpenClass

/-- Adds a member. -/
def push (level : OpenClass) (depth : Nat) : OpenClass :=
  { level with members := depth :: level.members }

/-- The depth of the class so far. -/
def depth (level : OpenClass) : Nat :=
  match level.before? with
  | none => depthOfAll level.members
  | some before => 1 + max before (depthOfAll level.members)

/-- Goes on behind an operator. -/
def operate (level : OpenClass) : OpenClass :=
  ⟨[], some level.depth⟩

end OpenClass

/-- Whether characters can be listed in a class. Without tables of letter case,
a class that ignores case can list none. -/
def Modes.listsChars (modes : Modes) : Bool :=
  !(modes.unicode && modes.ignoresCase)

/-- Drops hyphens at the start of a class, and counts them. -/
def leadingHyphens (modes : Modes) : Nat → List Char → Nat × List Char
  | 0, cs => (0, cs)
  | fuel + 1, cs =>
    match modes.skip cs with
    | '-' :: cs =>
      let (count, rest) := leadingHyphens modes fuel cs
      (count + 1, rest)
    | cs => (0, cs)

/-- Reads the start of a class behind its bracket: a caret, hyphens that stand
for themselves, a closing bracket that does. -/
def openClass (modes : Modes) (cs : List Char) : Option (OpenClass × List Char) :=
  let cs := modes.skip cs
  let negated := cs.head? = some '^'
  let (hyphens, cs) := leadingHyphens modes cs.length (if negated then cs.tail else cs)
  if negated && !modes.unicode then none
  else
    match hyphens, cs with
    | 0, ']' :: cs => if modes.listsChars then some (⟨[0], none⟩, cs) else none
    | 0, cs => some (⟨[], none⟩, cs)
    | hyphens, cs =>
      if modes.listsChars then some (⟨List.replicate hyphens 0, none⟩, cs) else none

/-- Reads one member of a class, which is not the end of a range. -/
def readMember (modes : Modes) : List Char → Option (Atom × List Char)
  | [] => none
  | '\\' :: cs => readEscape modes cs
  | c :: cs => some (.literal c.toNat false, cs)

/-- Whether an atom can be a member of a class in the modes. -/
def Atom.isMember (modes : Modes) : Atom → Bool
  | .literal code _ => modes.listsChars && (modes.unicode || code ≤ 0x7f)
  | .anchor | .wordBoundary => false
  | atom => atom.isAllowed modes

/-- Reads a member of a class or a range of them, and gives what follows. -/
def readMembers (modes : Modes) (cs : List Char) : Option (List Char) := do
  let (first, cs) ← readMember modes cs
  if !first.isMember modes then none
  else
    match modes.skip cs with
    | [] => none
    | '-' :: cs =>
      if modes.peek cs ∈ [some ']', some '-'] then some ('-' :: cs)
      else do
        let (last, cs) ← readMember modes (modes.skip cs)
        match first, last with
        | .literal low _, .literal high _ =>
          if low ≤ high ∧ last.isMember modes then some cs else none
        | _, _ => none
    | cs => some cs

/-- Reads on in a class, up to the end of the outermost one: its depth, and
what follows it. The fuel is spent on characters. -/
def readClass (modes : Modes) (level : OpenClass) (outer : List OpenClass) :
    Nat → List Char → Option (Nat × List Char)
  | 0, _ => none
  | fuel + 1, cs =>
    match modes.skip cs with
    | [] => none
    | '[' :: cs =>
      match readNamedClass? cs with
      | some (negated, cs) =>
        if (!negated || modes.unicode) && modes.listsChars then
          readClass modes (level.push 0) outer fuel cs
        else none
      | none => do
        let (inner, cs) ← openClass modes cs
        readClass modes inner (level :: outer) fuel cs
    | ']' :: cs =>
      match outer with
      | [] => some (1 + level.depth, cs)
      | next :: outer => readClass modes (next.push (1 + level.depth)) outer fuel cs
    | '&' :: '&' :: cs | '-' :: '-' :: cs | '~' :: '~' :: cs =>
      readClass modes level.operate outer fuel cs
    | cs => do
      let cs ← readMembers modes cs
      readClass modes (level.push 0) outer fuel cs

/-! ## Groups -/

/-- A part of an expression: how deep it is, and whether it can be repeated. -/
structure Part where
  depth : Nat
  repeatable : Bool
deriving DecidableEq, Repr

/-- An open group: the modes in it, the parts since the last bar, last one
first, and the depths of the branches before it. -/
structure Group where
  modes : Modes
  parts : List Part
  branches : List Nat
deriving DecidableEq, Repr

namespace Group

/-- A group with nothing in it. -/
def start (modes : Modes) : Group := ⟨modes, [], []⟩

/-- Adds a part. -/
def push (group : Group) (part : Part) : Group :=
  { group with parts := part :: group.parts }

/-- The depth of the branch that is being read. -/
def branch (group : Group) : Nat :=
  depthOfAll (group.parts.map Part.depth)

/-- Goes on behind a bar. -/
def split (group : Group) : Group :=
  { group with parts := [], branches := group.branch :: group.branches }

/-- The depth of what stands in the group. -/
def depth (group : Group) : Nat :=
  depthOfAll (group.branch :: group.branches)

/-- Repeats the last part. -/
def repeatLast? (group : Group) : Option Group :=
  match group.parts with
  | ⟨depth, true⟩ :: parts => some { group with parts := ⟨1 + depth, true⟩ :: parts }
  | _ => none

end Group

/-- The letters of flags. -/
def flagLetters : List Char := ['i', 'm', 's', 'U', 'u', 'R', 'x']

/-- Reads flags after those that are given, up to a colon or a closing bracket:
the flags, that sign and what follows it. No sign stands twice, and a minus is
not the last one. -/
def readFlags (given : List Char) : List Char → Option (List Char × Char × List Char)
  | [] => none
  | c :: cs =>
    if c = ':' ∨ c = ')' then
      if given.getLast? = some '-' then none else some (given, c, cs)
    else if c ∈ given then none
    else if c = '-' ∨ c ∈ flagLetters then readFlags (given ++ [c]) cs
    else none

/-- A mode after flags: set, cleared behind a minus, or as it was. -/
def setMode (flags : List Char) (flag : Char) (before : Bool) : Bool :=
  if flag ∈ flags then flag ∈ flags.takeWhile (· ≠ '-') else before

/-- The modes after flags. -/
def Modes.set (modes : Modes) (flags : List Char) : Modes :=
  ⟨setMode flags 'u' modes.unicode, setMode flags 'i' modes.ignoresCase,
    setMode flags 'x' modes.spaced⟩

/-- Whether a text can be the name of a group. -/
def isGroupName : List Char → Bool
  | [] => false
  | c :: cs =>
    (c = '_' || Text.isAlphabetic c) &&
      cs.all fun c => ['_', '.', '[', ']'].contains c || Text.isAlphanumeric c

/-! ## The whole expression -/

/-- How far an expression has been read: the group that is open, those around
it, the names of groups, and whether the ends of words are asked for. -/
structure Reading where
  group : Group
  outer : List Group
  names : List (List Char)
  findsWords : Bool
deriving DecidableEq, Repr

namespace Reading

/-- Nothing has been read. -/
def start : Reading := ⟨.start .initial, [], [], false⟩

/-- Adds a part to the open group. -/
def push (reading : Reading) (depth : Nat) (repeatable : Bool) : Reading :=
  { reading with group := reading.group.push ⟨depth, repeatable⟩ }

/-- Opens a group. -/
def enter (reading : Reading) (modes : Modes) : Reading :=
  { reading with group := .start modes, outer := reading.group :: reading.outer }

/-- Closes a group. -/
def leave? (reading : Reading) : Option Reading :=
  match reading.outer with
  | [] => none
  | group :: outer =>
    some { reading with group := group.push ⟨1 + reading.group.depth, true⟩, outer }

/-- Adds an atom, if it can be matched. -/
def atom? (reading : Reading) (atom : Atom) : Option Reading :=
  if atom.isAllowed reading.group.modes then
    let finds := atom = .wordBoundary && reading.group.modes.unicode
    some { reading.push 0 true with findsWords := reading.findsWords || finds }
  else none

/-- Opens a group with a name, which ends at a closing angle. -/
def enterNamed? (reading : Reading) (cs : List Char) : Option (Reading × List Char) :=
  let name := cs.takeWhile (· ≠ '>')
  match cs.dropWhile (· ≠ '>') with
  | [] => none
  | _ :: cs =>
    if isGroupName name ∧ name ∉ reading.names then
      some ({ reading.enter reading.group.modes with names := name :: reading.names }, cs)
    else none

/-- Reads what follows an opening bracket and its question mark: flags for the
rest of the group, or for a group of their own. -/
def flags? (reading : Reading) (cs : List Char) : Option (Reading × List Char) := do
  let (flags, sign, cs) ← readFlags [] cs
  let modes := reading.group.modes.set flags
  if sign = ':' then some (reading.enter modes, cs)
  else if flags = [] then none
  else
    let reading := reading.push 0 false
    some ({ reading with group := { reading.group with modes } }, cs)

/-- Reads what follows an opening bracket. Looking around is not known. -/
def open? (reading : Reading) (cs : List Char) : Option (Reading × List Char) :=
  match reading.group.modes.skip cs with
  | '?' :: 'P' :: '<' :: cs => reading.enterNamed? cs
  | '?' :: '<' :: '!' :: _ => none
  | '?' :: '<' :: '=' :: _ => none
  | '?' :: '<' :: cs => reading.enterNamed? cs
  | '?' :: cs => reading.flags? cs
  | cs => some (reading.enter reading.group.modes, cs)

/-- Reads an expression. The fuel is spent on characters. -/
def read? (reading : Reading) : Nat → List Char → Option Reading
  | 0, _ => none
  | fuel + 1, cs =>
    let modes := reading.group.modes
    match modes.skip cs with
    | [] => some reading
    | '(' :: cs => do
      let (reading, cs) ← reading.open? cs
      reading.read? fuel cs
    | ')' :: cs => do
      let reading ← reading.leave?
      reading.read? fuel cs
    | '|' :: cs => { reading with group := reading.group.split }.read? fuel cs
    | '[' :: cs => do
      let (level, cs) ← openClass modes cs
      let (depth, cs) ← readClass modes level [] (cs.length + 1) cs
      (reading.push depth true).read? fuel cs
    | '\\' :: cs => do
      let (atom, cs) ← readEscape modes cs
      let reading ← reading.atom? atom
      reading.read? fuel cs
    | '.' :: cs => if modes.unicode then (reading.push 0 true).read? fuel cs else none
    | '\x7b' :: _ => none
    | c :: cs =>
      if c ∈ ['?', '*', '+'] then do
        let group ← reading.group.repeatLast?
        let rest := if cs.head? = some '?' then cs.tail else cs
        { reading with group }.read? fuel rest
      else do
        let atom := if c ∈ ['^', '$'] then .anchor else .literal c.toNat false
        let reading ← reading.atom? atom
        reading.read? fuel cs

end Reading

/-- Checks a regular expression. A brace never closes in one: it ends the field
that the expression stands in. -/
def checkExpression (cs : List Char) : Except PatternError Unit :=
  match Reading.start.read? (cs.length + 1) cs with
  | none => .error .malformed
  | some reading =>
    if reading.outer ≠ [] ∨ maxDepth < reading.group.depth then .error .malformed
    else if reading.findsWords then .error .wordBoundary
    else .ok ()

/-! ## Numbers -/

/-- What follows the sign of a number. -/
def dropSign : List Char → List Char
  | '+' :: cs | '-' :: cs => cs
  | cs => cs

/-- Whether a text is one or more digits. -/
def isDigits (cs : List Char) : Bool :=
  !cs.isEmpty && cs.all Char.isDigit

/-- Whether a text is digits, which may have a point before, between or after
them, and an exponent. -/
def isDecimal (cs : List Char) : Bool :=
  let isMark := fun c : Char => c = 'e' || c = 'E'
  let mantissa := cs.takeWhile (!isMark ·)
  let exponent := cs.dropWhile (!isMark ·)
  isDigits (mantissa.erase '.') && (exponent.isEmpty || isDigits (dropSign exponent.tail))

/-- Whether a text is a number, in decimal or one of those that no decimal
writes. -/
def isNumber (cs : List Char) : Bool :=
  let cs := dropSign cs
  isDecimal cs || ["inf", "infinity", "nan"].contains (String.ofList cs).toLower

/-! ## Patterns -/

/-- Checks what a directive asks of a field's value. The truth values are
expressions as well. -/
def check (text : String) : Except PatternError Unit :=
  if isNumber text.toList then .ok () else checkExpression text.toList

end BlockTransfer.ValuePattern
