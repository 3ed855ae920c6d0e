/-!
# Failures of the file system

What can go wrong when a file is looked up or read.
-/

namespace Classpath

/-- Why a file could not be used. -/
inductive FileError where
  | notFound
  | notDirectory
  | isDirectory
  /-- Links lead to links too often. -/
  | tooManyLinks
  | nameTooLong
  /-- A path contains a NUL. -/
  | nulInPath
  /-- The content of an archive entry is not what its checksum says. -/
  | badChecksum
  /-- The content of an archive entry cannot be unpacked. -/
  | corruptStream
  /-- A file that should hold text holds none. -/
  | notText
  deriving DecidableEq, Repr

/-- A failure that the system counts under a number. -/
def systemMessage (text : String) (code : Nat) : String :=
  text ++ " (os error " ++ toString code ++ ")"

/-- The wording of a failure. -/
def FileError.message : FileError → String
  | notFound => systemMessage "No such file or directory" 2
  | notDirectory => systemMessage "Not a directory" 20
  | isDirectory => systemMessage "Is a directory" 21
  | nameTooLong => systemMessage "File name too long" 36
  | tooManyLinks => systemMessage "Too many levels of symbolic links" 40
  | nulInPath => "file name contained an unexpected NUL byte"
  | badChecksum => "Invalid checksum"
  | corruptStream => "corrupt deflate stream"
  | notText => "stream did not contain valid UTF-8"

end Classpath
