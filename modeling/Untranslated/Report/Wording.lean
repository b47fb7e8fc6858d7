import Untranslated.Config.Basic
import Untranslated.Files.Folder
import Untranslated.Json.Reader
import Untranslated.Syntax.Parser.Basic

/-!
# Wording

Faults are values.  How the faults of texts that a user writes and of files are put into words is
a choice of whoever shows them; a failure is shown as a chain of messages, from what was attempted
to what stood in the way.
-/

namespace Untranslated

open Pattern (RegexError)

structure Wording where
  syntaxError : Syntax.SyntaxError → String
  regexError : RegexError → String
  jsonError : Json.Error → String
  fileError : FileError → String

/-- Every fault in its own words. -/
def Wording.plain : Wording where
  syntaxError := Syntax.SyntaxError.message
  regexError := RegexError.message
  jsonError := Json.Error.message
  fileError := FileError.message

/-- The messages about a configuration that makes no sense. -/
def Config.Fault.chain (wording : Wording) : Config.Fault → List String
  | .invalidGlob field pattern error =>
      ["Invalid glob pattern in '" ++ field.key ++ "': \"" ++ pattern ++ "\"", error.message]
  | .emptyWrapperFunction => ["'wrapperFunction' must not be empty"]
  | .invalidRegex field pattern error =>
      ["Invalid regex in '" ++ field.key ++ "': \"" ++ pattern ++ "\"", wording.regexError error]

end Untranslated
