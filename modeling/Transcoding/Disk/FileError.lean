/-!
# Failures of file operations

Why an operation on a disk fails, and how that is said.
-/

namespace Transcoding

/-- Why an operation on files fails. -/
inductive FileError where
  | notFound
  | alreadyExists
  | notADirectory
  | isADirectory
  | nameTooLong
  /-- A path holds the character U+0000, which no name can hold. -/
  | zeroInName
  /-- The content is not UTF-8. -/
  | notText
  /-- Any other reason, in words. A volume never gives one. -/
  | other (reason : String)
  deriving DecidableEq

/-- What went wrong, in words. -/
def FileError.message : FileError → String
  | notFound => "No such file or directory (os error 2)"
  | alreadyExists => "File exists (os error 17)"
  | notADirectory => "Not a directory (os error 20)"
  | isADirectory => "Is a directory (os error 21)"
  | nameTooLong => "File name too long (os error 36)"
  | zeroInName => "file name contained an unexpected NUL byte"
  | notText => "stream did not contain valid UTF-8"
  | other reason => reason

end Transcoding
