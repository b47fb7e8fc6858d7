import Untranslated.Config.Format
import Untranslated.Report.Wording

/-!
# Finding the configuration

The configuration of a directory is the file in it or in the nearest directory above it; a
repository's top directory is the last one looked into.
-/

namespace Untranslated

/-- The configuration in force, and the file that it was read from, if there is one. -/
structure LoadedConfig where
  config : Config
  path : Option Path
  deriving DecidableEq, Repr, Inhabited

/-- Why a configuration file is of no use. -/
inductive ConfigError where
  | unreadable (path : Path) (error : FileError)
  | unparsable (path : Path) (error : Json.Error)
  | invalid (path : Path) (fault : Config.Fault)
  deriving DecidableEq, Repr, Inhabited

/-- The messages about a configuration file that is of no use. -/
def ConfigError.chain (wording : Wording) : ConfigError → List String
  | .unreadable path error => ["Failed to read config file: " ++ path, wording.fileError error]
  | .unparsable path error => ["Failed to parse config file: " ++ path, wording.jsonError error]
  | .invalid path fault => ("Invalid config file: " ++ path) :: fault.chain wording

namespace Files

/-- Looks for a configuration file in a directory and those above it, at most `count` of them. -/
def findConfigUpTo (files : Files) : Nat → Path → Option Path
  | 0, _ => none
  | count + 1, directory =>
      let path := directory.join Config.fileName
      if files.isPresent path then some path
      else if files.isPresent (directory.join ".git") then none
      else directory.parent?.bind (files.findConfigUpTo count)

/-- The configuration file for a directory.  Each directory above has a shorter path. -/
def findConfig (files : Files) (directory : Path) : Option Path :=
  files.findConfigUpTo (directory.length + 1) directory

/-- Loads the configuration for a directory. -/
def loadConfig (files : Files) (directory : Path) : Except ConfigError LoadedConfig := do
  match files.findConfig directory with
  | none => return ⟨{}, none⟩
  | some path =>
      let text ← (files.readText path).mapError (.unreadable path)
      let config ← (Config.parse text).mapError (.unparsable path)
      config.validate.mapError (.invalid path)
      return ⟨config, some path⟩

end Files

end Untranslated
