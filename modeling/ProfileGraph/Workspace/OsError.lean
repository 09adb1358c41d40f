/-! The reasons for which the operating system refuses an operation on files or
programs, with the wording under which they are reported. -/
namespace ProfileGraph

/-- Why an operation on files or programs fails. -/
inductive OsError where
  | notPermitted
  | noEntry
  | noProcess
  | argumentsTooLong
  | execFormat
  | badDescriptor
  /-- No further process can be started. -/
  | noResources
  | permissionDenied
  | busy
  | exists
  | crossDevice
  | notDirectory
  | isDirectory
  | invalid
  | tooManyOpen
  | textBusy
  | noSpace
  | illegalSeek
  | tooManyHardLinks
  | brokenPipe
  | nameTooLong
  | notEmpty
  | linkLoop
  /-- A path holds a character that no path can hold. -/
  | unexpectedNul
  /-- The name or an argument of a program holds such a character. -/
  | nulInArgument
  /-- A file read as text is not UTF-8. -/
  | notText
deriving DecidableEq, Repr

namespace OsError

/-- The number of an error, if the operating system has one for it. -/
def number? : OsError → Option Nat
  | .notPermitted => some 1
  | .noEntry => some 2
  | .noProcess => some 3
  | .argumentsTooLong => some 7
  | .execFormat => some 8
  | .badDescriptor => some 9
  | .noResources => some 11
  | .permissionDenied => some 13
  | .busy => some 16
  | .exists => some 17
  | .crossDevice => some 18
  | .notDirectory => some 20
  | .isDirectory => some 21
  | .invalid => some 22
  | .tooManyOpen => some 24
  | .textBusy => some 26
  | .noSpace => some 28
  | .illegalSeek => some 29
  | .tooManyHardLinks => some 31
  | .brokenPipe => some 32
  | .nameTooLong => some 36
  | .notEmpty => some 39
  | .linkLoop => some 40
  | .unexpectedNul | .nulInArgument | .notText => none

/-- The text for an error without its number. -/
def description : OsError → String
  | .notPermitted => "Operation not permitted"
  | .noEntry => "No such file or directory"
  | .noProcess => "No such process"
  | .argumentsTooLong => "Argument list too long"
  | .execFormat => "Exec format error"
  | .badDescriptor => "Bad file descriptor"
  | .noResources => "Resource temporarily unavailable"
  | .permissionDenied => "Permission denied"
  | .busy => "Device or resource busy"
  | .exists => "File exists"
  | .crossDevice => "Invalid cross-device link"
  | .notDirectory => "Not a directory"
  | .isDirectory => "Is a directory"
  | .invalid => "Invalid argument"
  | .tooManyOpen => "Too many open files"
  | .textBusy => "Text file busy"
  | .noSpace => "No space left on device"
  | .illegalSeek => "Illegal seek"
  | .tooManyHardLinks => "Too many links"
  | .brokenPipe => "Broken pipe"
  | .nameTooLong => "File name too long"
  | .notEmpty => "Directory not empty"
  | .linkLoop => "Too many levels of symbolic links"
  | .unexpectedNul => "file name contained an unexpected NUL byte"
  | .nulInArgument => "nul byte found in provided data"
  | .notText => "stream did not contain valid UTF-8"

/-- The description with the number behind it. -/
def message (error : OsError) : String :=
  error.description ++ match error.number? with
    | some n => " (os error " ++ toString n ++ ")"
    | none => ""

end OsError
end ProfileGraph
