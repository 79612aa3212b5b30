/-
BlockTransfer.Fault — failures of reading, writing and positioning.

A fault has a kind, a message and, when the system reported it, the number that
the system gives it. Those that the library itself produces are named here.
-/

namespace BlockTransfer

/-- The kinds of faults. -/
inductive FaultKind where
  | notFound
  | notADirectory
  | isADirectory
  | invalidFilename
  | invalidInput
  | invalidData
  | writeZero
  | brokenPipe
  | storageFull
deriving DecidableEq, Repr

/-- The name of a kind of fault. -/
def FaultKind.name : FaultKind → String
  | .notFound => "NotFound"
  | .notADirectory => "NotADirectory"
  | .isADirectory => "IsADirectory"
  | .invalidFilename => "InvalidFilename"
  | .invalidInput => "InvalidInput"
  | .invalidData => "InvalidData"
  | .writeZero => "WriteZero"
  | .brokenPipe => "BrokenPipe"
  | .storageFull => "StorageFull"

/-- Why a call on a file or device failed. -/
structure Fault where
  kind : FaultKind
  message : String
  code? : Option Nat
deriving DecidableEq, Repr

namespace Fault

/-- The fault in words, with its number if it has one. -/
def text (fault : Fault) : String :=
  match fault.code? with
  | none => fault.message
  | some code => s!"{fault.message} (os error {code})"

/-- Nothing is at the path. -/
def notFound : Fault := ⟨.notFound, "No such file or directory", some 2⟩

/-- A path leads through something that is no directory. -/
def notADirectory : Fault := ⟨.notADirectory, "Not a directory", some 20⟩

/-- A directory cannot be read or written as a file. -/
def isADirectory : Fault := ⟨.isADirectory, "Is a directory", some 21⟩

/-- A name, or a whole path, has more bytes than file systems take. -/
def nameTooLong : Fault := ⟨.invalidFilename, "File name too long", some 36⟩

/-- A path holds the character that ends a path for the system. -/
def nulInPath : Fault := ⟨.invalidInput, "file name contained an unexpected NUL byte", none⟩

/-- An offset that no file can have. -/
def invalidOffset : Fault := ⟨.invalidInput, "Invalid argument", some 22⟩

/-- A text file holds bytes that are not UTF-8. -/
def notText : Fault := ⟨.invalidData, "stream did not contain valid UTF-8", none⟩

/-- A write accepted nothing of what was left. -/
def wroteNothing : Fault := ⟨.writeZero, "failed to write whole buffer", none⟩

end Fault

end BlockTransfer
