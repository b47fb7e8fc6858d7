import Untranslated.Text.Blank

/-!
# Translation calls as text

The text of a call that translates a literal.  Where the literal stands decides what goes around
its value, and how the value is escaped: a quoted literal is passed on as it is, while text without
quotes of its own becomes a string in single quotes.
-/

namespace Untranslated

/-- Where a literal stands. -/
inductive Placement where
  /-- The string value of a markup attribute. -/
  | attribute
  /-- Text between markup tags. -/
  | markupText
  /-- The text of a template literal between substitutions. -/
  | segment
  /-- Anywhere else that takes an expression. -/
  | expression
  deriving DecidableEq, Repr, Inhabited

/-- Each line without the blanks around it, blank lines left out, joined by single spaces. -/
def Text.flattenLines (text : Text) : Text :=
  List.intercalate [' '] ((text.contentLines.map trim).filter (!·.isEmpty))

/-- The text without its first and last character, if the first is a quote. -/
def Text.stripQuotes (text : Text) : Text :=
  match text with
  | [] => []
  | char :: chars =>
      if char == '\'' || char == '"' || char == '`' then chars.dropLast else char :: chars

/-- The text with something else in place of a character. -/
def Text.replaceChar (text : Text) (char : Char) (replacement : Text) : Text :=
  text.flatMap fun other => if other = char then replacement else [other]

/-- Escapes text that is taken literally for a string in single quotes. -/
def Text.escapeLiteral (text : Text) : Text :=
  (text.replaceChar '\\' ['\\', '\\']).replaceChar '\'' ['\\', '\'']

/-- Escapes text in which backslashes already escape: bare quotes and line breaks are left to do.
The flag says that the character before is a backslash that escapes. -/
def Text.escapeSegmentAfter : Bool → Text → Text
  | _, [] => []
  | escaped, char :: chars =>
      let rest := escapeSegmentAfter (char == '\\' && !escaped) chars
      if escaped then char :: rest
      else if char == '\'' then '\\' :: '\'' :: rest
      else if char == '\n' then '\\' :: 'n' :: rest
      else if char == '\r' then rest
      else char :: rest

def Text.escapeSegment (text : Text) : Text := escapeSegmentAfter false text

/-- The text before and after a value in a translation call. -/
structure Wrapper where
  before : Text
  after : Text
  deriving DecidableEq, Repr, Inhabited

namespace Placement

/-- The call of the function `name` around a literal in this place. -/
def wrapper (placement : Placement) (name : String) : Wrapper :=
  let name := name.toList
  match placement with
  | .attribute => ⟨'\x7b' :: name ++ ['('], [')', '\x7d']⟩
  | .markupText => ⟨'\x7b' :: name ++ ['(', '\''], ['\'', ')', '\x7d']⟩
  | .segment => ⟨'$' :: '\x7b' :: name ++ ['(', '\''], ['\'', ')', '\x7d']⟩
  | .expression => ⟨name ++ ['('], [')']⟩

/-- The value as it stands inside the call. -/
def escape : Placement → Text → Text
  | .attribute, value | .expression, value => value
  | .markupText, value => value.escapeLiteral
  | .segment, value => value.escapeSegment

/-- The call of `name` that replaces a literal with this value. -/
def wrap (placement : Placement) (name : String) (value : Text) : Text :=
  let wrapper := placement.wrapper name
  wrapper.before ++ placement.escape value ++ wrapper.after

end Placement

end Untranslated
