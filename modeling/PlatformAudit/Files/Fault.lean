/-!
# Faults of files

The ways in which opening, reading or writing a file goes wrong.
-/

namespace PlatformAudit

/-- Why a file operation failed. -/
inductive Fault where
  | notFound
  | notADirectory
  | isDirectory
  | noSpace
  /-- A stream has no place to go to. -/
  | noSeeking
  | nameTooLong
  | nullInPath
  | other (description : String)
deriving DecidableEq, Repr

/-- The text of a fault, with the number that the operating system gives it.  A path with a null
character does not come that far. -/
def Fault.message : Fault → String
  | .notFound => "No such file or directory (os error 2)"
  | .notADirectory => "Not a directory (os error 20)"
  | .isDirectory => "Is a directory (os error 21)"
  | .noSpace => "No space left on device (os error 28)"
  | .noSeeking => "Illegal seek (os error 29)"
  | .nameTooLong => "File name too long (os error 36)"
  | .nullInPath => "file name contained an unexpected NUL byte"
  | .other description => description

end PlatformAudit
