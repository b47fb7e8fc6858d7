import Untranslated.Pattern.Regex
import Untranslated.Tree.Basic

/-!
# What counts as translated

The settings of the search, and the names under which a file knows the translation function.
-/

namespace Untranslated

open Pattern (Regex)
open Syntax (ImportSpecifier)

structure RuleOptions where
  /-- Matches the paths of modules that export the translation function. -/
  modulePattern : Regex
  /-- The name that new imports bind and new calls use. -/
  wrapperFunction : String
  /-- The path that new imports name. -/
  translationModule : String
  /-- A literal is of interest when its source text matches. -/
  targetScript : Regex
  deriving Repr, Inhabited

namespace RuleOptions

/-- The import that makes the translation function known to a file. -/
def importStatement (options : RuleOptions) : String :=
  "import \x7b " ++ options.wrapperFunction ++ " \x7d from '" ++ options.translationModule ++ "';"

end RuleOptions

/-- A list with each element only where it first occurs. -/
def distinct (names : List String) : List String :=
  names.foldl (fun seen name => if seen.contains name then seen else seen ++ [name]) []

/-- The names that a file binds by naming exports of a translation module, each once. -/
def Tree.wrapperNames (tree : Tree) (modulePattern : Regex) : List String :=
  distinct <|
    ((tree.imports.map (·.2)).filter fun declaration =>
        modulePattern.isMatch declaration.source.toList).flatMap fun declaration =>
      declaration.specifiers.filterMap fun
        | .named name _ => some name
        | _ => none

end Untranslated
