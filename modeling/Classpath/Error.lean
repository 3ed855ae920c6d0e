import Classpath.FileError

/-!
# Failures of a scan

Everything that can stop a scan or a query, by its cause.

## Main definitions

* `WalkError`, `ArchiveError`: failures below a directory and inside an archive.
* `ScanError`, `ScanError.message`.
-/

namespace Classpath

/-- Why a directory tree could not be walked to its end. -/
inductive WalkError where
  /-- An entry could not be looked up. -/
  | entry (path : String) (cause : FileError)
  /-- A link leads back to a directory that is still open. -/
  | loop (path ancestor : String)
  deriving DecidableEq, Repr

/-- The wording of a failure. -/
def WalkError.message : WalkError → String
  | entry path cause => "IO error for operation on " ++ path ++ ": " ++ cause.message
  | loop path ancestor =>
    "File system loop found: " ++ path ++ " points to an ancestor " ++ ancestor

/-- Why an archive, or an entry of it, could not be opened. -/
inductive ArchiveError where
  /-- The file is no archive. -/
  | invalid
  /-- The archive is one of several parts. -/
  | severalParts
  /-- The header in front of the entry is none. -/
  | badHeader
  /-- The entry is encrypted. -/
  | passwordRequired
  | entryNotFound
  /-- The entry is packed by a method that is not known. -/
  | unknownMethod (number : Nat)
  deriving DecidableEq, Repr

/-- The wording of a failure. -/
def ArchiveError.message : ArchiveError → String
  | invalid => "invalid Zip archive"
  | severalParts =>
    "unsupported Zip archive: Support for multi-disk files is not implemented"
  | badHeader => "invalid Zip archive: Invalid local file header"
  | passwordRequired => "unsupported Zip archive: Password required to decrypt file"
  | entryNotFound => "specified file not found in archive"
  | unknownMethod number => "compression method not supported: " ++ toString number

/-- Why a scan or a query failed. -/
inductive ScanError where
  | file (path : String) (cause : FileError)
  | walk (cause : WalkError)
  | archive (path : String) (cause : ArchiveError)
  /-- The source of a pattern is no regular expression. -/
  | pattern (source : String)
  /-- An entry of the class path does not exist. -/
  | missingRoot (path : String)
  | unknownResource (name : String)
  /-- A resource holds no class. -/
  | parse (resource message : String)
  /-- A class that matched could not be resolved. -/
  | resolution (name message : String)
  /-- A failure of the running classes, or of a caller's own code. -/
  | running (message : String)
  /-- A prefix of the configuration leads out of the roots. -/
  | climbing (raw : String)
  /-- A configuration file is not what it should be. -/
  | json
  deriving DecidableEq, Repr

/-- The wording of a failure. How an archive is malformed is not told. -/
def ScanError.message : ScanError → String
  | file path cause => "I/O error on " ++ path ++ ": " ++ cause.message
  | walk cause => "Directory walk error: " ++ cause.message
  | archive path .invalid => "Archive error on " ++ path
  | archive path .badHeader => "Archive error on " ++ path
  | archive path cause => "Archive error on " ++ path ++ ": " ++ cause.message
  | pattern source => "Invalid pattern `" ++ source ++ "`"
  | missingRoot path => "Classpath root does not exist: " ++ path
  | unknownResource name => "Resource is not part of this root: " ++ name
  | parse resource message => "Failed to parse " ++ resource ++ ": " ++ message
  | resolution name message => "Failed to resolve type " ++ name ++ ": " ++ message
  | running message => "Runtime error: " ++ message
  | climbing raw => "Configuration error: prefix `" ++ raw ++ "` contains a `..` segment"
  | json => "JSON serialization/deserialization error"

end Classpath
