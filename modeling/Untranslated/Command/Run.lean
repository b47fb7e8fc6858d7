import Untranslated.Command.Analysis
import Untranslated.Command.Arguments
import Untranslated.Report.Layout

/-!
# Running commands

What a command prints, the files that it leaves behind, and the status that it ends with.  Nothing
here touches the world: a run takes the files as a value and gives them back.
-/

namespace Untranslated

/-- How a command ends: all is well, something is left to do, or something went wrong. -/
inductive ExitStatus where
  | success
  | failure
  | error
  deriving DecidableEq, Repr, Inhabited

def ExitStatus.code : ExitStatus → Nat
  | success => 0
  | failure => 1
  | error => 2

/-- What a run leaves behind. -/
structure Run where
  files : Files
  status : ExitStatus
  stdout : String := ""
  stderr : String := ""
  /-- The messages about what kept the command from its work. -/
  failure : Option (List String) := none
  deriving Inhabited

/-- How a run talks: in which words, whether in colours, and to a terminal on which texts take how
many columns. -/
structure Voice where
  wording : Wording
  colours : Bool
  measure : Text → Nat

namespace Voice

def warning (voice : Voice) (message : String) : String :=
  Report.warningMark voice.colours ++ " " ++ message ++ "\n"

end Voice

/-- What is settled before files are looked at. -/
structure Setup where
  options : RuleOptions
  paths : List Path
  verbose : Bool
  /-- What has been said so far. -/
  notes : String
  deriving Inhabited

/-- Why there is no setup: what has been said so far, and the messages about the fault. -/
structure SetupFault where
  notes : String
  chain : List String
  deriving Inhabited

namespace Setup

def configNote (verbose : Bool) (path : Option Path) : String :=
  if verbose then
    match path with
    | some path => "Note: using configuration from " ++ path ++ "\n"
    | none => "Note: No " ++ Config.fileName ++ " found, using default configuration\n"
  else ""

/-- What is said about the search for files. -/
def scanNotes (voice : Voice) (verbose : Bool) (result : ScanResult) : String :=
  let details := if verbose then result.warnings.map fun warning => voice.warning warning.message
    else []
  let summary :=
    if 0 < result.skipped then
      voice.warning (toString result.skipped ++ " path(s) skipped due to access errors" ++
        if verbose then "" else " (use -v for details)")
    else ""
  String.join details ++ summary

/-- Loads the configuration, in which arguments override, and finds the source files. -/
def ofArguments (voice : Voice) (files : Files) (arguments : CommonArguments) :
    Except SetupFault Setup := do
  let verbose := arguments.verbose
  let root := arguments.sourceRoot.getD "."
  unless files.isDirectory root do throw ⟨"", ["Source root is not a directory: " ++ root]⟩
  let loaded ← (files.loadConfig root).mapError fun error => ⟨"", error.chain voice.wording⟩
  let notes := configNote verbose loaded.path
  let config := { loaded.config with
    wrapperFunction := arguments.wrapperFunction.getD loaded.config.wrapperFunction }
  let fault (fault : Config.Fault) : SetupFault := ⟨notes, fault.chain voice.wording⟩
  config.validate.mapError fault
  let options ← config.ruleOptions.mapError fault
  let result := files.scan root ⟨config.includes, config.ignores, config.ignoreTestFiles⟩
  return ⟨options, result.files, verbose, notes ++ scanNotes voice verbose result⟩

/-- What is said about files that could not be looked at. -/
def faultNotes (voice : Voice) (setup : Setup) (faults : List (Path × SourceFault)) : String :=
  if setup.verbose then
    String.join <| faults.map fun (path, fault) =>
      voice.warning (path ++ " - " ++ fault.message voice.wording path)
  else ""

end Setup

namespace Run

/-- A run that fails before it has done anything. -/
def ofFault (files : Files) (fault : SetupFault) : Run where
  files
  status := .error
  stderr := fault.notes
  failure := some fault.chain

/-! ### Check -/

/-- The issues that an analysis amounts to. -/
def issues (voice : Voice) (setup : Setup) (analysis : Analysis) : List Issue :=
  analysis.sources.flatMap (fun source =>
    Issue.ofFindings source.path source.text setup.options.wrapperFunction source.findings) ++
  analysis.faults.map fun (path, fault) =>
    .parseError path (fault.message voice.wording path)

/-- Reports what is not translated. -/
def check (voice : Voice) (files : Files) (arguments : CommonArguments) : Run :=
  match Setup.ofArguments voice files arguments with
  | .error fault => ofFault files fault
  | .ok setup =>
      let analysis := files.analyzeAll setup.options setup.paths
      let issues := issues voice setup analysis
      { files
        status :=
          if !analysis.faults.isEmpty then .error
          else if !issues.isEmpty then .failure
          else .success
        stdout :=
          if issues.isEmpty then Report.success voice.colours setup.paths.length
          else Report.issues voice.colours voice.measure issues
        stderr := setup.notes ++ setup.faultNotes voice analysis.faults }

/-! ### Fix -/

/-- A file that fixes change. -/
structure FixedSource where
  source : SourceAnalysis
  outcome : Outcome
  deriving Inhabited

namespace FixedSource

/-- The literals that are replaced; the inserted import is none. -/
def stringCount (fixed : FixedSource) : Nat :=
  (fixed.outcome.edits.filter (!·.isInsertion)).length

def preview (colours : Bool) (fixed : FixedSource) : String :=
  Report.preview colours fixed.source.path
    (Hunk.ofEdits fixed.source.text fixed.outcome.edits)

end FixedSource

/-- The files with fixes, and what applying these gives. -/
def outcomes (analysis : Analysis) : List FixedSource :=
  analysis.sources.filterMap fun source => source.outcome?.map (⟨source, ·⟩)

/-- Writes the fixed files in order, up to the first that cannot be written. -/
def write : Files → List FixedSource → Files × Option (Path × FileError) × List Path
  | files, [] => (files, none, [])
  | files, fixed :: changed =>
      let path := fixed.source.path
      match files.writeText path fixed.outcome.text with
      | .error error => (files, some (path, error), [])
      | .ok files =>
          let (files, fault, written) := write files changed
          (files, fault, path :: written)

/-- The lines that sum up a run that fixes. -/
def fixSummary (colours : Bool) (apply : Bool) (checked : Nat) (changed : List FixedSource)
    (skipped : Nat) : String :=
  let strings := changed.foldl (fun count fixed => count + fixed.stringCount) 0
  let counts := " " ++ toString strings ++ " string(s) in " ++ toString changed.length ++
    " file(s).\n"
  let result :=
    if changed.isEmpty then Report.success colours checked
    else if apply then Style.green.inBold.paint colours "Rewrote" ++ counts
    else
      Style.yellow.inBold.paint colours "Would rewrite" ++ counts ++ "Run with " ++
        Style.cyan.paint colours "--apply" ++ " to rewrite these files.\n"
  let note :=
    if 0 < skipped then
      "Note: " ++ toString skipped ++
        " string(s) overlap another rewrite; run fix again to handle them.\n"
    else ""
  result ++ note

def fixStatus (apply : Bool) (analysis : Analysis) (changed : List FixedSource) : ExitStatus :=
  if !analysis.faults.isEmpty then .error
  else if !changed.isEmpty && !apply then .failure
  else .success

/-- Shows what the fixes would change, or changes it.  Every fixed text is computed from the files
as they were before the first is written. -/
def fix (voice : Voice) (files : Files) (arguments : CommonArguments) (apply : Bool) : Run :=
  match Setup.ofArguments voice files arguments with
  | .error fault => ofFault files fault
  | .ok setup =>
      let analysis := files.analyzeAll setup.options setup.paths
      let outcomes := outcomes analysis
      let changed := outcomes.filter (!·.outcome.edits.isEmpty)
      let skipped := outcomes.foldl (fun count fixed => count + fixed.outcome.skipped) 0
      let notes := setup.notes ++ setup.faultNotes voice analysis.faults
      let summary := fixSummary voice.colours apply setup.paths.length changed skipped
      let status := fixStatus apply analysis changed
      let warning := Report.parseWarning voice.colours setup.verbose analysis.faults.length
      if apply then
        let (files, fault, written) := write files changed
        let writeNotes := if setup.verbose then
          String.join (written.map fun path => "Note: rewrote " ++ path ++ "\n") else ""
        match fault with
        | some (path, error) =>
            { files
              status := .error
              stderr := notes ++ writeNotes
              failure := some
                ["Failed to write file: " ++ path, voice.wording.fileError error] }
        | none => { files, status, stdout := summary, stderr := notes ++ writeNotes ++ warning }
      else
        { files
          status
          stdout := String.join (changed.map (FixedSource.preview voice.colours)) ++ summary
          stderr := notes ++ warning }

/-! ### Init -/

/-- Writes the default configuration into the working directory, unless there is one. -/
def init (voice : Voice) (files : Files) : Run :=
  let path := Path.join "." Config.fileName
  if files.isPresent path then
    { files
      status := .error
      stderr := "Error: " ++ Config.fileName ++ " already exists\n" }
  else
    match files.writeText path (Config.render {}).toList with
    | .error error =>
        { files
          status := .error
          failure := some ["Failed to write " ++ path, voice.wording.fileError error] }
    | .ok files =>
        { files
          status := .success
          stdout := Style.green.paint voice.colours Report.successMark ++ " " ++
            Style.green.paint voice.colours ("Created " ++ Config.fileName) ++ "\n" }

/-! ### Dispatch -/

/-- The help that is shown when no command is named. -/
def helpText : String := Report.unlines [
  "A fast CLI tool that finds and wraps untranslated string literals in JS/TS/JSX sources",
  "",
  "Usage: unwrapped [COMMAND]",
  "",
  "Commands:",
  "  check  Report string literals that are not wrapped in the translation call",
  "  fix    Wrap unwrapped string literals and insert the translation import",
  "  init   Initialize a new .unwrappedrc.json configuration file",
  "  help   Print this message or the help of the given subcommand(s)",
  "",
  "Options:",
  "  -h, --help     Print help",
  "  -V, --version  Print version"]

/-- Runs a command; without one there is help. -/
def ofCommand (voice : Voice) (files : Files) : Option Command → Run
  | some (.check common) => check voice files common
  | some (.fix common apply) => fix voice files common apply
  | some .init => init voice files
  | none => { files, status := .success, stdout := helpText }

end Run

end Untranslated
