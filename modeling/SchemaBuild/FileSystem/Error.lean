/-!
# Errors of the file system
-/

namespace SchemaBuild

inductive FileError where
  | notPermitted
  | notFound
  | noDevice
  | tooManyArguments
  | notExecutable
  | badChannel
  | permission
  | busy
  | exists
  | notDirectory
  | isDirectory
  | invalid
  | noSpace
  | notSeekable
  | brokenPipe
  | nameTooLong
  | notEmpty
  | linkLoop
  /-- The bytes of a file are not text. -/
  | notText
  /-- A path holds a zero byte. -/
  | zeroInPath
  /-- A command holds a zero byte. -/
  | zeroInCommand
  deriving DecidableEq, Repr

namespace FileError

/-- The number and the words by which the system names an error. What never gets to the system has
no number. -/
def describe : FileError → Option Nat × String
  | .notPermitted => (some 1, "Operation not permitted")
  | .notFound => (some 2, "No such file or directory")
  | .noDevice => (some 6, "No such device or address")
  | .tooManyArguments => (some 7, "Argument list too long")
  | .notExecutable => (some 8, "Exec format error")
  | .badChannel => (some 9, "Bad file descriptor")
  | .permission => (some 13, "Permission denied")
  | .busy => (some 16, "Device or resource busy")
  | .exists => (some 17, "File exists")
  | .notDirectory => (some 20, "Not a directory")
  | .isDirectory => (some 21, "Is a directory")
  | .invalid => (some 22, "Invalid argument")
  | .noSpace => (some 28, "No space left on device")
  | .notSeekable => (some 29, "Illegal seek")
  | .brokenPipe => (some 32, "Broken pipe")
  | .nameTooLong => (some 36, "File name too long")
  | .notEmpty => (some 39, "Directory not empty")
  | .linkLoop => (some 40, "Too many levels of symbolic links")
  | .notText => (none, "stream did not contain valid UTF-8")
  | .zeroInPath => (none, "file name contained an unexpected NUL byte")
  | .zeroInCommand => (none, "nul byte found in provided data")

def words (error : FileError) : String :=
  error.describe.2

def message (error : FileError) : String :=
  match error.describe with
  | (some number, words) => words ++ " (os error " ++ toString number ++ ")"
  | (none, words) => words

end FileError

end SchemaBuild
