import Untranslated.Config.Lookup
import Untranslated.Edit.Apply
import Untranslated.Files.Scan
import Untranslated.Rule.Finding
import Untranslated.Tree.Lowering

/-!
# Looking at source files

What was found in each of the files, and which of them could not be looked at.
-/

namespace Untranslated

open Syntax (SyntaxError)

/-- What was found in a file. -/
structure SourceAnalysis where
  path : Path
  text : Text
  findings : List Finding
  deriving DecidableEq, Repr, Inhabited

/-- Why a file could not be looked at. -/
inductive SourceFault where
  | unreadable (error : FileError)
  | unparsable (error : SyntaxError)

/-- The message about a file that could not be looked at. -/
def SourceFault.message (wording : Wording) (path : Path) : SourceFault → String
  | .unreadable _ => "Failed to read file: " ++ path
  | .unparsable error => "Failed to parse " ++ path ++ ": " ++ wording.syntaxError error

/-- Looks at one file. -/
def Files.analyze (files : Files) (options : RuleOptions) (path : Path) :
    Except SourceFault SourceAnalysis := do
  let text ← (files.readText path).mapError .unreadable
  let tree ← (Tree.parse path text).mapError .unparsable
  return ⟨path, text, tree.check options true⟩

/-- The files that were looked at and those that could not be, both in the order of paths. -/
structure Analysis where
  sources : List SourceAnalysis
  faults : List (Path × SourceFault)

def Files.analyzeAll (files : Files) (options : RuleOptions) (paths : List Path) : Analysis :=
  let outcomes := paths.map fun path => (path, files.analyze options path)
  { sources := outcomes.filterMap fun
      | (_, .ok source) => some source
      | _ => none
    faults := outcomes.filterMap fun
      | (path, .error fault) => some (path, fault)
      | _ => none }

/-- What applying all fixes to a file gives, if it has any. -/
def SourceAnalysis.outcome? (source : SourceAnalysis) : Option Outcome :=
  match Finding.fixes source.findings with
  | [] => none
  | fixes => some (Text.applyFixes source.text fixes)

end Untranslated
