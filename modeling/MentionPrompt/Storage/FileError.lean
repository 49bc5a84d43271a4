/-!
Why a file operation fails, in the words of the system.
-/

namespace MentionPrompt

/-- Why a file operation fails. -/
inductive FileError where
  | noSuchFile
  | busy
  | notDirectory
  | isDirectory
  | invalidArgument
  | noSpace
  | nameTooLong
  | notText
  | nulInName
  | other (words : String)
  deriving DecidableEq, Repr

/-- The words for the error. -/
def FileError.message : FileError → String
  | .noSuchFile => "No such file or directory (os error 2)"
  | .busy => "Device or resource busy (os error 16)"
  | .notDirectory => "Not a directory (os error 20)"
  | .isDirectory => "Is a directory (os error 21)"
  | .invalidArgument => "Invalid argument (os error 22)"
  | .noSpace => "No space left on device (os error 28)"
  | .nameTooLong => "File name too long (os error 36)"
  | .notText => "stream did not contain valid UTF-8"
  | .nulInName => "file name contained an unexpected NUL byte"
  | .other words => words

end MentionPrompt
