import Classpath.CommandLine.Run

/-!
# The program

Takes down the part of the disk that a command can ask about, and writes what comes out of
the call.

Only class files and the entries of the class path themselves are read; of all other files
the names are enough. Links are taken down with where they really lead.
-/

namespace Classpath.Survey

/-- What was taken down so far: the disk, and the directories whose content is in it. -/
structure Notes where
  disk : Disk
  listed : List Location := []

/-- A computation that takes down parts of the disk. -/
abbrev Taking := StateT Notes IO

/-- A name that no file has. -/
def nowhere : String := "\x00"

/-- Take down an entry. -/
def put (here : Location) (entry : Entry) : Taking Unit :=
  modify fun notes => { notes with disk := notes.disk.put here entry }

/-- Whether a file was taken down already. -/
def isNoted (here : Location) : Taking Bool := do
  match (← get).disk.entry? here with
  | some (.file _) => return true
  | _ => return false

/-- Take down a file with its content. -/
def putFile (here : Location) (content : Bytes) : Taking Unit :=
  modify fun notes =>
    let disk := notes.disk.put here (.file notes.disk.contents.length)
    { notes with disk := { disk with contents := disk.contents ++ [content] } }

mutual

/-- Take down what is at a location, and return where it leads. -/
partial def note (isRead : Bool) (here : Location) : Taking Location := do
  let path := (← IO.currentDir) / Path.ofNames here
  match ← (path.symlinkMetadata.toBaseIO : BaseIO _) with
  | .error _ => return here
  | .ok metadata =>
    match metadata.type with
    | .dir =>
      put here .directory
      return here
    | .symlink =>
      if ← path.pathExists then
        let target := (← IO.FS.realPath path).toString
        put here (.link target)
        trace isRead [] (Path.names target)
      else
        put here (.link nowhere)
        return here
    | _ =>
      if isRead then
        let content ← try IO.FS.readBinFile path catch _ => pure .empty
        putFile here content.toList
      else unless ← isNoted here do putFile here []
      return here

/-- Take down what some names lead through, and return where they lead. -/
partial def trace (isRead : Bool) (at_ : Location) : List String → Taking Location
  | [] => return at_
  | ".." :: names => trace isRead at_.dropLast names
  | name :: names => do trace isRead (← note (isRead && names.isEmpty) (at_ ++ [name])) names

end

/-- Take down what is in a directory, and in the directories below it. -/
partial def list (here : Location) : Taking Unit := do
  unless (← get).listed.contains here do
    modify fun notes => { notes with listed := here :: notes.listed }
    let path := (← IO.currentDir) / Path.ofNames here
    if ← path.isDir then
      for child in ← path.readDir do
        let isClass := Text.endsWith child.fileName ".class"
        list (← note isClass (here ++ [child.fileName]))

/-- Take down what a command can ask about. -/
def ofCommand (command : CommandLine.Command) : Taking Unit := do
  let current := (← get).disk.currentPath
  let options := command.options
  for path in options.entries ++ options.parentEntries.getD [] do
    if let some path := Path.absolute current path then
      list (← trace true [] (Path.names path))
  for path in options.configFile.toList do
    if let some path := Path.absolute current path then
      discard <| trace true [] (Path.names path)

end Classpath.Survey

open Classpath in
/-- Answer a call of the program. -/
def main (arguments : List String) : IO UInt32 := do
  let current := Path.names (← IO.currentDir).toString
  let survey := match CommandLine.Request.ofArguments? arguments with
    | some (.run command) => Survey.ofCommand command
    | _ => pure ()
  let (_, notes) ← survey.run { disk := { current } }
  let outcome := CommandLine.run notes.disk arguments
  IO.print outcome.output
  IO.eprint outcome.errors
  return UInt32.ofNat outcome.exitCode
