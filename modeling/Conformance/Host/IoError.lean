/-!
# Failures of the host

Why a file could not be opened, listed, run or written, and how that is told.
-/

namespace Conformance

/-- The failures that the operating system names. -/
inductive Errno where
  | noEntry
  | argumentsTooLong
  | execFormat
  | permissionDenied
  | exists
  | notDirectory
  | isDirectory
  | invalidArgument
  | noSpace
  | nameTooLong
  | linkLoop
  deriving DecidableEq, Repr

namespace Errno

/-- The number of a failure. -/
def number : Errno → Nat
  | .noEntry => 2
  | .argumentsTooLong => 7
  | .execFormat => 8
  | .permissionDenied => 13
  | .exists => 17
  | .notDirectory => 20
  | .isDirectory => 21
  | .invalidArgument => 22
  | .noSpace => 28
  | .nameTooLong => 36
  | .linkLoop => 40

/-- The text of a failure. -/
def text : Errno → String
  | .noEntry => "No such file or directory"
  | .argumentsTooLong => "Argument list too long"
  | .execFormat => "Exec format error"
  | .permissionDenied => "Permission denied"
  | .exists => "File exists"
  | .notDirectory => "Not a directory"
  | .isDirectory => "Is a directory"
  | .invalidArgument => "Invalid argument"
  | .noSpace => "No space left on device"
  | .nameTooLong => "File name too long"
  | .linkLoop => "Too many levels of symbolic links"

end Errno

/-- A failure of the host. -/
inductive IoError where
  | system (e : Errno)
  /-- A path holds the octet that ends paths. -/
  | nulInPath
  /-- An argument of a program holds that octet. -/
  | nulInArgument
  /-- Nobody reads what is written. -/
  | brokenPipe
  /-- Any other failure, by how it is told. -/
  | other (text : String)
  deriving DecidableEq, Repr

/-- How a failure is told. -/
def IoError.message : IoError → String
  | .system e => e.text ++ " (os error " ++ toString e.number ++ ")"
  | .nulInPath => "file name contained an unexpected NUL byte"
  | .nulInArgument => "nul byte found in provided data"
  | .brokenPipe => "broken pipe"
  | .other text => text

end Conformance
