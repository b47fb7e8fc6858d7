import Untranslated.Edit.Hunk
import Untranslated.Report.Issue
import Untranslated.Report.Style

/-!
# Reports

The text of reports: issues with the line they point into, a preview of edits, and the messages
that close a run.  How many columns a text takes is for the terminal to say: `measure` stands for
that wherever something has to stand below something else.
-/

namespace Untranslated.Report

def successMark : String := "✓"

def failureMark : String := "✘"

/-- A word for so many things. -/
def plural (count : Nat) (word : String) : String := if count = 1 then word else word ++ "s"

/-- A text filled up with spaces on the left.  Any width will do here; a formatter that takes widths
of 16 bits only does the same up to 65535 columns. -/
def padLeft (width : Nat) (text : String) : String :=
  String.ofList (List.replicate (width - text.length) ' ') ++ text

def severityStyle : Severity → Style
  | .error => .red
  | .warning => .yellow

/-- The lines below an issue that show what it points at. -/
def excerptLines (colours : Bool) (measure : Text → Nat) (width : Nat) (severity : Severity)
    (excerpt : Excerpt) : List String :=
  let bar := Style.blue.paint colours "|"
  let margin := padLeft width ""
  let number := Style.blue.paint colours (padLeft width (toString excerpt.position.line))
  let before := excerpt.sourceLine.take (excerpt.position.column - 1)
  let caret := (severityStyle severity).paint colours "^"
  [ margin ++ " " ++ bar,
    number ++ " " ++ bar ++ " " ++ String.ofList excerpt.sourceLine,
    margin ++ " " ++ bar ++ " " ++ padLeft (measure before) "" ++ caret ]

/-- The line that says where an issue is. -/
def placeLine (colours : Bool) (issue : Issue) : String :=
  let arrow := "  " ++ Style.blue.paint colours "-->" ++ " " ++ issue.path
  match issue.excerpt? with
  | some excerpt =>
      arrow ++ ":" ++ toString excerpt.position.line ++ ":" ++ toString excerpt.position.column
  | none => arrow

/-- The lines that report one issue, with line numbers as wide as `width`. -/
def issueLines (colours : Bool) (measure : Text → Nat) (width : Nat) (issue : Issue) :
    List String :=
  let severity := issue.severity
  let title := (severityStyle severity).inBold.paint colours severity.name ++ ": \"" ++
    issue.message ++ "\"  " ++ Style.cyan.inDim.paint colours issue.rule.name
  let remark (style : Style) (label text : String) : String :=
    padLeft width "" ++ " " ++ Style.blue.paint colours "=" ++ " " ++
      style.paint colours label ++ " " ++ text
  [title, placeLine colours issue] ++
    ((issue.excerpt?.map (excerptLines colours measure width severity)).getD []) ++
    (issue.details?.map (remark .strong "note:")).toList ++
    (issue.help?.map (remark Style.cyan.inBold "help:")).toList ++ [""]

/-- The width of the widest line number. -/
def lineNumberWidth (issues : List Issue) : Nat :=
  let lines := issues.filterMap fun issue => issue.excerpt?.map (·.position.line)
  match lines.max? with
  | some line => (toString line).length
  | none => 1

def summaryLine (colours : Bool) (issues : List Issue) : String :=
  let errors := (issues.filter (·.severity == .error)).length
  let warnings := issues.length - errors
  Style.red.paint colours failureMark ++ " " ++ toString issues.length ++ " " ++
    plural issues.length "problem" ++ " (" ++ toString errors ++ " " ++
    Style.red.paint colours (plural errors "error") ++ ", " ++ toString warnings ++ " " ++
    Style.yellow.paint colours (plural warnings "warning") ++ ")"

/-- Lines as text, each ended by a line feed. -/
def unlines (lines : List String) : String := String.join (lines.map (· ++ "\n"))

/-- The report of issues, in order, with a summary at the end. -/
def issues (colours : Bool) (measure : Text → Nat) (issues : List Issue) : String :=
  if issues.isEmpty then ""
  else
    let sorted := issues.mergeSort fun a b => (a.compare b).isLE
    let width := lineNumberWidth sorted
    unlines (sorted.flatMap (issueLines colours measure width) ++ [summaryLine colours sorted])

/-- The message that a check of so many files found nothing. -/
def success (colours : Bool) (count : Nat) : String :=
  let message := "Checked " ++ toString count ++ " source " ++ plural count "file" ++
    " - no issues found"
  unlines [Style.green.paint colours successMark ++ " " ++ Style.green.paint colours message]

/-- The mark in front of a warning. -/
def warningMark (colours : Bool) : String := Style.yellow.inBold.paint colours "warning:"

/-- The warning that some files could not be read; where each was named already, there is none. -/
def parseWarning (colours : Bool) (verbose : Bool) (count : Nat) : String :=
  if 0 < count ∧ ¬ verbose then
    unlines [warningMark colours ++ " " ++ toString count ++ " file(s) could not be parsed (use " ++
      Style.cyan.paint colours "-v" ++ " for details)"]
  else ""

/-- The lines that preview a hunk of a file. -/
def hunkLines (colours : Bool) (path : String) (hunk : Hunk) : List String :=
  let place := toString hunk.position.line ++ ":" ++ toString hunk.position.column
  let old := hunk.oldLines.zipIdx.map fun (line, index) =>
    " " ++ Style.blue.paint colours (padLeft 3 (toString (hunk.position.line + index))) ++ " " ++
      Style.red.inBold.paint colours "-" ++ " " ++ Style.red.paint colours (String.ofList line)
  let new := hunk.newLines.map fun line =>
    "     " ++ Style.green.inBold.paint colours "+" ++ " " ++
      Style.green.paint colours (String.ofList line)
  ["  " ++ Style.blue.paint colours "-->" ++ " " ++ path ++ ":" ++ place,
    "     " ++ Style.blue.paint colours "|"] ++ old ++ new ++ [""]

/-- The preview of edits to a file. -/
def preview (colours : Bool) (path : String) (hunks : List Hunk) : String :=
  unlines (hunks.flatMap (hunkLines colours path))

end Untranslated.Report
