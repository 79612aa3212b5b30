/-
BlockTransfer.Options.Parser — reading a command line.

Arguments are taken from left to right. A flag is given by its word after two
dashes or by its letter after one; letters may stand together after one dash.
Everything else is a path, also a lone dash, and so is every argument after a
lone pair of dashes. Flags may stand before, between and after the paths.

The first thing wrong ends the reading: an unknown flag or a fourth path, a
flag given twice, a flag with a value. An empty path is refused too, but only
when the next path or a known flag is met, or the end; at the end too few paths
are an error. Asking for help or for the version ends the reading as well.
-/
import BlockTransfer.Options
import BlockTransfer.Text.Split
import BlockTransfer.Text.Terminal

namespace BlockTransfer

/-- What is wrong with a command line. -/
inductive UsageError where
  | unknownArgument
  | argumentConflict
  | tooManyValues
  | invalidValue
  | missingRequiredArgument
deriving DecidableEq, Repr

/-- Why a command line does not lead to a run. -/
inductive Stop where
  | help
  | version
  | usage (error : UsageError)
deriving DecidableEq, Repr

/-- The code that the program exits with instead of a run. -/
def Stop.exitCode : Stop → Nat
  | .help => 0
  | .version => 0
  | .usage _ => 2

namespace Options

/-- What a letter or a word can ask for. -/
inductive Request where
  | flag (flag : Flag)
  | help
  | version
deriving DecidableEq, Repr

/-- What a letter asks for. -/
def requestOfLetter? (c : Char) : Option Request :=
  if c = 'h' then some .help
  else if c = 'V' then some .version
  else (Flag.all.find? (·.letter = c)).map .flag

/-- What a word asks for. -/
def requestOfWord? (word : List Char) : Option Request :=
  if word = "help".toList then some .help
  else if word = "version".toList then some .version
  else (Flag.all.find? (·.word.toList = word)).map .flag

/-- What has been read of a command line: the flags, and the paths in order. -/
structure Reading where
  flags : List Flag
  paths : List String
deriving DecidableEq, Repr

namespace Reading

/-- Nothing read yet. -/
def empty : Reading := ⟨[], []⟩

/-- The most paths that there can be. -/
def pathLimit : Nat := 3

/-- Refuses an empty path that was read last. -/
def settle (reading : Reading) : Except Stop Reading :=
  if reading.paths.getLast? = some "" then .error (.usage .invalidValue) else .ok reading

/-- Takes a request. -/
def request (reading : Reading) (request : Request) : Except Stop Reading := do
  let reading ← reading.settle
  match request with
  | .help => .error .help
  | .version => .error .version
  | .flag flag =>
    if flag ∈ reading.flags then .error (.usage .argumentConflict)
    else .ok { reading with flags := reading.flags ++ [flag] }

/-- Takes a path. -/
def path (reading : Reading) (path : String) : Except Stop Reading := do
  if pathLimit ≤ reading.paths.length then .error (.usage .unknownArgument)
  else
    let reading ← reading.settle
    .ok { reading with paths := reading.paths ++ [path] }

/-- Takes the letters after a dash. -/
def letters (reading : Reading) : List Char → Except Stop Reading
  | [] => .ok reading
  | c :: cs =>
    match requestOfLetter? c with
    | none => .error (.usage .unknownArgument)
    | some request => do
      let reading ← reading.request request
      reading.letters cs

/-- Takes what follows two dashes. -/
def word (reading : Reading) (written : List Char) : Except Stop Reading :=
  match requestOfWord? (written.takeWhile (· ≠ '=')) with
  | none => .error (.usage .unknownArgument)
  | some request =>
    if '=' ∈ written then .error (.usage .tooManyValues) else reading.request request

/-- Takes arguments that can only be paths. -/
def pathsOnly (reading : Reading) : List String → Except Stop Reading
  | [] => .ok reading
  | argument :: arguments => do
    let reading ← reading.path argument
    reading.pathsOnly arguments

/-- Takes arguments. -/
def arguments (reading : Reading) : List String → Except Stop Reading
  | [] => .ok reading
  | argument :: rest =>
    match argument.toList with
    | ['-', '-'] => reading.pathsOnly rest
    | '-' :: '-' :: written => do
      let reading ← reading.word written
      reading.arguments rest
    | '-' :: c :: cs => do
      let reading ← reading.letters (c :: cs)
      reading.arguments rest
    | _ => do
      let reading ← reading.path argument
      reading.arguments rest

/-- What the whole command line asks for. -/
def options (reading : Reading) : Except Stop Options := do
  let reading ← reading.settle
  match reading.paths with
  | [transferList, data, image] =>
    let given := fun flag => decide (flag ∈ reading.flags)
    .ok ⟨transferList, data, image, given .table, given .yaml, given .sha1sum, given .noProgress⟩
  | _ => .error (.usage .missingRequiredArgument)

end Reading

/-- Reads the arguments after the name of the program. -/
def ofArguments (arguments : List String) : Except Stop Options := do
  let reading ← Reading.empty.arguments arguments
  reading.options

end Options

/-! ## What is shown instead of a run -/

/-- The name of the program. -/
def programName : String := "sdatimg"

/-- The name and version of the program. -/
def versionText : String := programName ++ " 0.1.0\n"

/-- The names that a path has, without those that stay where they are. -/
def realNames (path : String) : List (List Char) :=
  (Text.splitAt '/' path.toList).filter fun name => name ≠ [] ∧ name ≠ ['.']

/-- The name under which the program was called: the last name of the path to
it, or else the program's own. -/
def calledName (path : String) : String :=
  match (realNames path).getLast? with
  | none => programName
  | some name => if name = ['.', '.'] then programName else String.ofList name

/-- How the program is called. A name that would not just print is shown as far
as it would. -/
def usageText (path : String) : String :=
  s!"Usage: {Text.plain (calledName path)} [OPTIONS] <TRANSFER_LIST> <DATA> <IMAGE>\n"

/-- The explanation of the command line. -/
def helpText (path : String) : String :=
  "Build a raw image from an Android transfer list and its new data\n\n" ++ usageText path ++
    "\nArguments:\n" ++
    "  <TRANSFER_LIST>  Path of the transfer list, e.g. system.transfer.list\n" ++
    "  <DATA>           Path of the new data, e.g. system.new.dat\n" ++
    "  <IMAGE>          Path of the image to write, created if missing, never truncated\n" ++
    "\nOptions:\n" ++
    "  -t, --table        Print erase and new ranges as a table before building\n" ++
    "  -y, --yaml         Print the parsed transfer list as YAML and exit without building\n" ++
    "  -s, --sha1sum      Print SHA-1 of the image after building\n" ++
    "  -q, --no-progress  Do not draw progress bars\n" ++
    "  -h, --help         Print help\n" ++
    "  -V, --version      Print version\n"

/-- What is printed when the command line does not lead to a run. -/
def Stop.text (path : String) : Stop → String
  | .help => helpText path
  | .version => versionText
  | .usage _ => usageText path

end BlockTransfer
