/-!
# Failures of file operations

Why the operating system refuses to read or write a file, each with the text that it reports.
-/

namespace StructMatch

/-- Why an operation on a file failed. -/
inductive FileError where
  | notFound
  | busy
  | alreadyExists
  | notADirectory
  | isADirectory
  | invalidText
  /-- A failure of the device or of its permissions, with the text for it. -/
  | device (text : String)
deriving DecidableEq

/-- The text that the operating system reports. -/
def FileError.message : FileError → String
  | notFound => "No such file or directory (os error 2)"
  | busy => "Device or resource busy (os error 16)"
  | alreadyExists => "File exists (os error 17)"
  | notADirectory => "Not a directory (os error 20)"
  | isADirectory => "Is a directory (os error 21)"
  | invalidText => "stream did not contain valid UTF-8"
  | device text => text

end StructMatch
