/-!
# File errors

Why an operation on a file tree fails, with the wording and the number that the operating system
gives to each cause. Those without a number arise without the operating system, but for the last one,
which stands for whatever else it may report.
-/

namespace DefFragments

inductive FileError
  | notFound
  | permissionDenied
  | busy
  | alreadyExists
  | notDirectory
  | isDirectory
  /-- A new name with a NUL character, which no file name can hold. -/
  | invalidArgument
  | nameTooLong
  /-- A path with a NUL character, which no file name can hold. -/
  | nulInName
  /-- An argument of a program with a NUL character, which no argument can hold. -/
  | nulInArgument
  /-- A file read as text that is not UTF-8. -/
  | invalidText
  | other (report : String)
  deriving DecidableEq

def FileError.message : FileError → String
  | .notFound => "No such file or directory (os error 2)"
  | .permissionDenied => "Permission denied (os error 13)"
  | .busy => "Device or resource busy (os error 16)"
  | .alreadyExists => "File exists (os error 17)"
  | .notDirectory => "Not a directory (os error 20)"
  | .isDirectory => "Is a directory (os error 21)"
  | .invalidArgument => "Invalid argument (os error 22)"
  | .nameTooLong => "File name too long (os error 36)"
  | .nulInName => "file name contained an unexpected NUL byte"
  | .nulInArgument => "nul byte found in provided data"
  | .invalidText => "stream did not contain valid UTF-8"
  | .other report => report

end DefFragments
