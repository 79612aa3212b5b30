/-
BlockTransfer.Program.Invocation — one call of the program, from its arguments
to its exit code.

Help, the version and usage errors come before anything else. A run writes its
events, as far as the log filter shows them, and the error it fails with to the
error output, and exits with 1 when it fails.
-/
import BlockTransfer.LogFilter
import BlockTransfer.Options.Parser
import BlockTransfer.Program

namespace BlockTransfer.Program

/-- What a call leaves behind. -/
structure Outcome where
  exitCode : Nat
  stdout : String
  stderr : String
  tree : FileTree

/-- Lines of a text, each with its end. -/
def unlines (lines : List String) : String :=
  String.join (lines.map (· ++ "\n"))

/-- The last line of a failed run. -/
def failureLines : Except Error Unit → List String
  | .ok () => []
  | .error error => ["Error: " ++ error.dump]

/-- The exit code of a call with a log filter that cannot be cut. -/
def brokenFilterCode : Nat := 101

/-- Runs with options, and with a log filter if one is given. -/
def invokeWith (options : Options) (filter? : Option String) (tree : FileTree) : Outcome :=
  let text := filter?.getD LogFilter.standard
  let complaints := LogFilter.complaints text
  if LogFilter.breaks text then ⟨brokenFilterCode, "", unlines complaints, tree⟩
  else
    let filter := LogFilter.ofText text
    let (result, scene) := (run options).run (Scene.start tree)
    let shown := (scene.log.filter filter.shows).map LogFilter.line
    { exitCode := if failureLines result = [] then 0 else 1
      stdout := scene.stdout
      stderr := unlines (complaints ++ shown ++ failureLines result)
      tree := scene.tree }

/-- Calls the program: the name it is called by, its arguments, the log filter
if one is given, and the files. -/
def invoke (name : String) (arguments : List String) (filter? : Option String)
    (tree : FileTree) : Outcome :=
  match Options.ofArguments arguments with
  | .ok options => invokeWith options filter? tree
  | .error stop =>
    match stop with
    | .usage _ => ⟨stop.exitCode, "", stop.text name, tree⟩
    | _ => ⟨stop.exitCode, stop.text name, "", tree⟩

end BlockTransfer.Program
