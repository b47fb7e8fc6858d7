import Untranslated.Text.LineIndex
import Untranslated.Rule.Finding

/-!
# Issues

What a check reports: literals that are not translated, and files that could not be looked at.
Each issue carries all that is needed to show it.
-/

namespace Untranslated

inductive Severity where
  | error
  | warning
  deriving DecidableEq, Repr, Inhabited

def Severity.name : Severity → String
  | error => "error"
  | warning => "warning"

/-- What an issue is about. -/
inductive IssueRule where
  | unwrappedString
  | parseError
  deriving DecidableEq, Repr, Inhabited

namespace IssueRule

def name : IssueRule → String
  | unwrappedString => "unwrapped-string"
  | parseError => "parse-error"

/-- The place of a rule where issues at one position are ordered. -/
def rank : IssueRule → Nat
  | unwrappedString => 0
  | parseError => 1

end IssueRule

inductive Issue where
  | unwrappedString (excerpt : Excerpt) (text : String) (wrapperFunction : String)
      (suggestion : Option String)
  | parseError (path : String) (error : String)
  deriving DecidableEq, Repr, Inhabited

namespace Issue

def severity : Issue → Severity
  | unwrappedString .. => .error
  | parseError .. => .error

def rule : Issue → IssueRule
  | unwrappedString .. => .unwrappedString
  | parseError .. => .parseError

def path : Issue → String
  | unwrappedString excerpt .. => excerpt.path
  | parseError path _ => path

/-- Where an issue is in its file; an issue about the whole file has no place in it. -/
def position : Issue → Position
  | unwrappedString excerpt .. => excerpt.position
  | parseError .. => ⟨0, 0⟩

def excerpt? : Issue → Option Excerpt
  | unwrappedString excerpt .. => some excerpt
  | parseError .. => none

def message : Issue → String
  | unwrappedString _ text .. => text
  | parseError _ error => error

/-- The note below an issue. -/
def details? : Issue → Option String
  | unwrappedString _ text wrapperFunction _ =>
      some ("The string `" ++ text ++ "` is not wrapped in " ++ wrapperFunction ++ " call")
  | parseError .. => none

/-- The advice below an issue. -/
def help? : Issue → Option String
  | unwrappedString _ _ _ suggestion => suggestion.map fun text => "replace with `" ++ text ++ "`"
  | parseError .. => none

/-- The order in which issues are reported: by file, place, rule and message. -/
def compare (a b : Issue) : Ordering :=
  (Ord.compare a.path b.path).then <|
    (Ord.compare a.position.line b.position.line).then <|
      (Ord.compare a.position.column b.position.column).then <|
        (Ord.compare a.rule.rank b.rule.rank).then (Ord.compare a.message b.message)

/-- The issue that reports a finding in a file. -/
def ofFinding (path : String) (index : LineIndex) (wrapperFunction : String) (finding : Finding) :
    Issue :=
  .unwrappedString (index.excerpt path finding.range.start) (String.ofList finding.text)
    wrapperFunction (finding.suggestion?.map String.ofList)

/-- The issues that report what was found in a file. -/
def ofFindings (path : String) (text : Text) (wrapperFunction : String)
    (findings : List Finding) : List Issue :=
  let index := LineIndex.ofText text
  findings.map (ofFinding path index wrapperFunction)

end Issue

end Untranslated
