/-
BlockTransfer.FileTree — files and directories, and the paths that lead to
them.

A tree is a list of locations with what is there. A LOCATION is a list of
names: the way down from the working directory, which may first go up some
steps, or the way down from the root, which is then its first name. The working
directory, those above it and the root are always there.

A PATH is a text that is walked name by name between its slashes: a dot and an
empty name stay where they are, two dots go up, and every name but the last has
to lead to a directory. So two different paths may lead to one location, and a
path may lead to a location where nothing is yet. A name of more than 255 bytes
leads nowhere, a path of more than 4095 bytes is not walked at all, and no path
holds a null character.
-/
import BlockTransfer.Fault
import BlockTransfer.Text.Split

namespace BlockTransfer

/-- The names on the way to a place. -/
abbrev Location := List String

/-- What can be at a location. -/
inductive Entry where
  | file (content : ByteArray)
  | directory

/-- Files and directories. -/
structure FileTree where
  entries : List (Location × Entry)

namespace FileTree

/-- A tree with nothing in it. -/
def empty : FileTree := ⟨[]⟩

/-- The name of the root. -/
def rootName : String := "/"

/-- The location of the root. -/
def root : Location := [rootName]

/-- The name of going up. -/
def upName : String := ".."

/-- The directories that are always there: the root, the working directory, and
those above it. -/
def isGiven (location : Location) : Bool :=
  location = root || location.all (· = upName)

/-- What is at a location. -/
def at? (tree : FileTree) (location : Location) : Option Entry :=
  if isGiven location then some .directory
  else (tree.entries.find? (·.1 = location)).map (·.2)

/-- Puts something at a location, in place of what was there. -/
def put (tree : FileTree) (location : Location) (entry : Entry) : FileTree :=
  ⟨(location, entry) :: tree.entries.filter (·.1 ≠ location)⟩

/-- Takes away what is at a location and below it. -/
def remove (tree : FileTree) (location : Location) : FileTree :=
  ⟨tree.entries.filter fun entry => !location.isPrefixOf entry.1⟩

/-- The location that a name leads to. -/
def descend (here : Location) (name : String) : Location :=
  if name = "" ∨ name = "." then here
  else if name = upName then
    if here = root then root
    else if isGiven here then here ++ [upName]
    else here.dropLast
  else here ++ [name]

/-- The most bytes that a name can have. -/
def maxNameSize : Nat := 255

/-- The most bytes that a path can have. -/
def maxPathSize : Nat := 4095

/-- Walks on from a location, which has to be a directory if there is any way
to go. -/
def walk (tree : FileTree) (here : Location) : List String → Except Fault Location
  | [] => .ok here
  | name :: names =>
    match tree.at? here with
    | none => .error .notFound
    | some (.file _) => .error .notADirectory
    | some .directory =>
      if maxNameSize < name.utf8ByteSize then .error .nameTooLong
      else tree.walk (descend here name) names

/-- The names of a path. -/
def names (path : String) : List String :=
  (Text.splitAt '/' path.toList).map String.ofList

/-- The location that a path starts from. -/
def origin (path : String) : Location :=
  if path.toList.head? = some '/' then root else []

/-- What is wrong with a path before it is walked: it holds a null character, or
it is too long or empty. -/
def refusal? (path : String) : Option Fault :=
  if '\x00' ∈ path.toList then some .nulInPath
  else if maxPathSize < path.utf8ByteSize then some .nameTooLong
  else if path = "" then some .notFound
  else none

/-- The location that a path leads to. -/
def locate (tree : FileTree) (path : String) : Except Fault Location :=
  match refusal? path with
  | some fault => .error fault
  | none => tree.walk (origin path) (names path)

/-- The location that a path would lead to if all on the way to it were
directories. -/
def destination (path : String) : Location :=
  (names path).foldl descend (origin path)

/-- What a path leads to. -/
def open? (tree : FileTree) (path : String) : Except Fault (Location × Entry) :=
  match tree.locate path with
  | .error fault => .error fault
  | .ok location =>
    match tree.at? location with
    | none => .error .notFound
    | some entry => .ok (location, entry)

/-- Whether a path leads to anything. -/
def contains (tree : FileTree) (path : String) : Bool :=
  match tree.open? path with
  | .ok _ => true
  | .error _ => false

/-- The content of the file that a path leads to. -/
def read (tree : FileTree) (path : String) : Except Fault ByteArray :=
  match tree.open? path with
  | .error fault => .error fault
  | .ok (_, .directory) => .error .isADirectory
  | .ok (_, .file content) => .ok content

/-- The text of the file that a path leads to. -/
def readText (tree : FileTree) (path : String) : Except Fault String :=
  match tree.read path with
  | .error fault => .error fault
  | .ok content =>
    match String.fromUTF8? content with
    | none => .error .notText
    | some text => .ok text

/-- The names of a path before its last one, slashes at its end aside. -/
def leading (path : String) : List String :=
  ((names path).reverse.dropWhile (· = "")).tail.reverse

/-- The location that a path leads to when a file is to be there. A path with a
slash at its end asks for a directory, if all before its last name is there. -/
def locateFile (tree : FileTree) (path : String) : Except Fault Location :=
  match refusal? path with
  | some fault => .error fault
  | none =>
    if path.toList.getLast? = some '/' then
      match tree.walk (origin path) (leading path ++ ["."]) with
      | .error fault => .error fault
      | .ok _ => .error .isADirectory
    else tree.walk (origin path) (names path)

/-- The location and the content of the file that a path leads to, or of an
empty file where nothing is yet. -/
def openOrCreate (tree : FileTree) (path : String) : Except Fault (Location × ByteArray) :=
  match tree.locateFile path with
  | .error fault => .error fault
  | .ok location =>
    match tree.at? location with
    | some .directory => .error .isADirectory
    | some (.file content) => .ok (location, content)
    | none => .ok (location, ByteArray.empty)

end FileTree

end BlockTransfer
