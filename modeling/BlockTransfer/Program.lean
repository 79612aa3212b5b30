/-
BlockTransfer.Program — a run of the program over files.

A run checks that both input files are there, reads the transfer list, and
either prints it as YAML and stops, or builds the image: it prints the table of
ranges if asked to, builds into the image file, which is created if it is
missing and never cut short, and prints the digest of the image if asked to.

Nothing is written, and nothing printed, before the transfer list is known to
be good. When the data file is the image file, the build reads what it has
written. A `Task` works on the files and on what has been reported and printed;
a failed task leaves them as they were when it failed.
-/
import BlockTransfer.Build.Plan
import BlockTransfer.Digest.Stream
import BlockTransfer.FileTree
import BlockTransfer.Options
import BlockTransfer.TransferList.Table
import BlockTransfer.TransferList.Yaml

namespace BlockTransfer.Program

/-- The files, and what has been reported and printed. -/
structure Scene where
  tree : FileTree
  log : List Event
  stdout : String

/-- A scene in which nothing has happened yet. -/
def Scene.start (tree : FileTree) : Scene := ⟨tree, [], ""⟩

/-- Work on a scene that may fail. -/
abbrev Task := ExceptT Error (StateM Scene)

/-! ## Small tasks -/

/-- Reports an event. -/
def report (level : Level) (topic : Topic) (message : String) : Task Unit :=
  modify fun scene => { scene with log := scene.log ++ [⟨level, topic, message⟩] }

/-- Prints a text. -/
def print (text : String) : Task Unit :=
  modify fun scene => { scene with stdout := scene.stdout ++ text }

/-- Puts a file into the tree. -/
def save (location : Location) (content : ByteArray) : Task Unit :=
  modify fun scene => { scene with tree := scene.tree.put location (.file content) }

/-- Asks the tree for something. -/
def consult {α : Type} (question : FileTree → Except Fault α) : Task α := do
  match question (← get).tree with
  | .ok value => pure value
  | .error fault => throw (.io fault)

/-- Takes over the log and the result of reading a transfer list. -/
def adopt {α : Type} (reading : Logged TransferList.Error α) : Task α := do
  modify fun scene => { scene with log := scene.log ++ reading.log }
  match reading.result with
  | .ok value => pure value
  | .error error => throw (.transferList error)

/-! ## Building into files -/

/-- Files have no offsets from here on. -/
def fileOffsetLimit : Nat := Nat.pow 2 63

/-- The length that a directory is given. -/
def directoryLength : Nat := 4096

/-- How reading from a file or a directory goes. -/
def entryConduct : Entry → SourceConduct Unit
  | .file _ => .willing
  | .directory => .refusing .isADirectory

/-- Where the data of a build come from: from the image, if they are in the
same place. -/
def dataSource (data : Location × Entry) (image : Location) : Build.DataSource :=
  match data.2 with
  | .directory => .apart ByteArray.empty
  | .file content => if data.1 = image then .image else .apart content

/-- A build that has read and written nothing. -/
def freshSession (data : Build.DataSource) (image : ByteArray) : Build.Session Unit Unit :=
  ⟨data, ⟨0, ()⟩, ⟨image, 0, #[], ()⟩, #[], 0⟩

/-- The length of the data after a build. -/
def dataLength (data : Entry) (session : Build.Session Unit Unit) : Nat :=
  match data with
  | .directory => directoryLength
  | .file _ => session.dataBytes.size

/-- Builds the image file from the data file. -/
def buildFiles (plan : Build.Plan) (dataPath imagePath : String) : Task Build.Report := do
  let data ← consult (·.open? dataPath)
  let (location, content) ← consult (·.openOrCreate imagePath)
  save location content
  report .info .image s!"Building image '{imagePath}' from '{dataPath}'"
  let conduct := ⟨entryConduct data.2, .willing fileOffsetLimit⟩
  let (result, session) :=
    (plan.build conduct).run (freshSession (dataSource data location) content)
  save location session.target.image
  modify fun scene => { scene with log := scene.log ++ session.log.toList }
  match result with
  | .error error => throw error
  | .ok made =>
    let length := dataLength data.2 session
    if made.bytesRead < length then
      report .warn .image
        (s!"{length - made.bytesRead} bytes at the end of '{dataPath}' " ++
          "were not used by any new range")
    pure made

/-! ## The whole run -/

/-- Fails unless there is something at a path. -/
def checkInput (path : String) : Task Unit := do
  if (← get).tree.contains path then pure ()
  else
    report .error .program s!"Input file '{path}' does not exist"
    throw (.missingInput path)

/-- Prints the digest of a file and its size. -/
def printDigest (path : String) (progress : Bool) : Task Unit := do
  let content ← consult (·.read path)
  let bar := ProgressBar.bytes progress content.size "Hashing"
  let digest ← consult fun _ => (Digest.ofSource .willing () content bar).result
  print s!"{digest.text}  {path} ({ByteSize.text content.size})\n"

/-- Builds the image that a transfer list describes. -/
def buildImage (options : Options) (list : TransferList) : Task Unit := do
  report .info .program list.summary
  if options.table then
    print (TransferList.Table.text list)
  let plan := ⟨list.eraseSet, list.newSet, !options.noProgress⟩
  let made ← buildFiles plan options.data options.image
  report .info .program s!"Built '{options.image}': {made.text}"
  if options.sha1sum then
    printDigest options.image !options.noProgress

/-- Does what the options ask for. -/
def run (options : Options) : Task Unit := do
  checkInput options.transferList
  checkInput options.data
  let text ← consult (·.readText options.transferList)
  let list ← adopt (TransferList.ofText text)
  if options.yaml then
    print list.toYaml
  else
    buildImage options list

end BlockTransfer.Program
