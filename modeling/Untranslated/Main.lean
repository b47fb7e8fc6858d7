import Untranslated.Command.Run
import Untranslated.Text.Width

/-!
# The command line

Loads the files around the working directory, runs the command that the arguments ask for, prints
what it says and writes what it changed.
-/

namespace Untranslated.CommandLine

/-- A path of the file system. -/
def place (path : Path) := (· / path) <$> IO.currentDir

/-- Whether the content of a file can matter to a run. -/
def isRelevant (path : Path) : Bool := path.isSource || path.fileName? == some Config.fileName

mutual

/-- Loads what is at a path.  A link keeps the place that it leads to. -/
partial def loadEntry (path : Path) : IO Entry := do
  match (← (← place path).symlinkMetadata).type with
  | .dir => return .directory (← loadFolder path)
  | .symlink =>
      try
        return .link (← IO.FS.realPath (← place path)).toString
      catch _ => return .link "/dev/null/missing"
  | _ =>
      if isRelevant path then return .file (.ofBytes (← IO.FS.readBinFile (← place path)))
      else return .file (.text [])

/-- Loads a directory and everything in it; what cannot be read is left out. -/
partial def loadFolder (path : Path) : IO Folder := do
  let names ← try (·.map (·.fileName)) <$> (← place path).readDir catch _ => pure #[]
  names.foldlM (fun folder name => do
    try
      return folder.put name (← loadEntry (path.join name))
    catch _ => return folder) .empty

end

/-- Adds one file or directory, without what is in it, to the files loaded so far. -/
def addMarker (top : Folder) (directory : Path) (name : String) : IO Folder := do
  let path := directory.join name
  if ← (← place path).pathExists then
    let entry ← if isRelevant path then loadEntry path else pure (.directory .empty)
    return top.putAt (Files.names path) entry
  return top

/-- Adds what decides about the configuration in a directory and those above it. -/
def addAncestors (top : Folder) : Nat → Path → IO Folder
  | 0, _ => return top
  | count + 1, directory => do
      let top ← addMarker top directory Config.fileName
      let top ← addMarker top directory ".git"
      match directory.parent? with
      | none => return top
      | some parent => addAncestors top count parent

/-- Loads the files that a run can come across from a directory. -/
def loadFrom (top : Folder) (directory : Path) : IO Folder := do
  let top ← addAncestors top directory.length directory
  let location := Files.names directory
  return top.modifyAt (fun _ => .empty) location |>.putAt location
    (.directory (← loadFolder directory))

/-- The directory in which a command looks for sources, if it does. -/
def sourceRoot? : Option Command → Option Path
  | some (.check common) | some (.fix common _) => some (common.sourceRoot.getD ".")
  | _ => none

/-- Loads the files for a command. -/
def loadFiles (command : Option Command) : IO Files := do
  let here := (← IO.currentDir).toString
  let top ← match sourceRoot? command with
    | none => addAncestors .empty 1 here
    | some root =>
        try
          loadFrom .empty (← IO.FS.realPath (← place root)).toString
        catch _ => addAncestors .empty 1 here
  let location := Files.names here
  let top := if (top.entryAt? location).isSome then top else top.modifyAt (fun folder => folder) location
  return ⟨top, location⟩

/-- Writes the files that a run changed. -/
def store (before after : Files) : IO Unit := do
  let known := before.top.files []
  for (location, content) in after.top.files [] do
    if let .text text := content then
      unless known.contains (location, content) do
        IO.FS.writeFile (← place ("/" ++ "/".intercalate location)) (String.ofList text)

/-- Colours are for terminals, unless the environment asks for something else. -/
def wantsColours : IO Bool := do
  let isSet (value : Option String) : Bool := value.isSome && value != some "0"
  if isSet (← IO.getEnv "CLICOLOR_FORCE") then return true
  if (← IO.getEnv "NO_COLOR").isSome then return false
  if (← IO.getEnv "CLICOLOR") == some "0" then return false
  (← IO.getStdout).isTty

def usageText : UsageOutcome → String
  | .help => Run.helpText
  | .version => "unwrapped 0.1.0\n"
  | .invalidValue => "error: an option has no value or an invalid one\n"
  | .unknownArgument => "error: unexpected argument found\n"
  | .invalidSubcommand => "error: unrecognized subcommand\n"
  | .tooManyValues => "error: an option got a value that it does not take\n"
  | .argumentConflict => "error: an option cannot be used multiple times\n"

/-- Runs a command in the file system. -/
def run (command : Option Command) : IO UInt32 := do
  let files ← loadFiles command
  let result := Run.ofCommand ⟨.plain, ← wantsColours, Text.width⟩ files command
  store files result.files
  IO.print result.stdout
  IO.eprint result.stderr
  if let some chain := result.failure then IO.eprintln ("Error: " ++ ": ".intercalate chain)
  return result.status.code.toUInt32

end Untranslated.CommandLine

open Untranslated in
/-- Runs the command that the arguments ask for. -/
def main (arguments : List String) : IO UInt32 := do
  match Command.ofArguments arguments with
  | .ok command => CommandLine.run command
  | .error usage =>
      if usage.exitCode = 0 then IO.print (CommandLine.usageText usage)
      else IO.eprint (CommandLine.usageText usage)
      return usage.exitCode.toUInt32
