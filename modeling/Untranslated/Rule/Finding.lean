import Untranslated.Edit.Basic
import Untranslated.Rule.Detection

/-!
# Findings and their fixes

What is reported about an untranslated literal, and the edits that make it a translation call.  In
a file that does not know the translation function the first fix also adds the import, and every
call uses the name that it binds.
-/

namespace Untranslated

structure Finding where
  node : Nat
  /-- The literal without the blanks around it. -/
  range : Range
  /-- The literal's value without quotes. -/
  text : Text
  /-- Absent when fixes are not asked for, or there is nothing to change. -/
  fix : Option Fix
  deriving DecidableEq, Repr, Inhabited

namespace Tree

/-- The insertion that adds the import: after the last import, or before everything else. -/
def importEdit? (tree : Tree) (options : RuleOptions) : Option Edit :=
  let statement := options.importStatement.toList
  match tree.imports.getLast? with
  | some (range, _) => some (.insertAt range.stop ('\n' :: statement))
  | none => (tree.body[0]?.bind tree.node?).map fun first =>
      .insertAt first.range.start (statement ++ ['\n', '\n'])

/-- The edit that makes a literal an argument of the first of the functions, unless it is passed
to one of them already. -/
def wrapEdit? (tree : Tree) (name : String) (names : List String) (literal : Literal) :
    Option Edit :=
  if tree.isWrapped literal.anchor (name :: names) then none
  else (tree.trimmedRange? literal).map fun range =>
    ⟨range, literal.placement.wrap name literal.value⟩

/-- The edits for each of the untranslated literals, in order. -/
def edits (tree : Tree) (options : RuleOptions) : List (List Edit) :=
  let literals := tree.untranslated options
  match tree.wrapperNames options.modulePattern with
  | name :: names => literals.map fun literal => (tree.wrapEdit? name names literal).toList
  | [] =>
      let wraps := literals.map fun literal =>
        (tree.wrapEdit? options.wrapperFunction [] literal).toList
      match wraps with
      | [] => []
      | first :: rest => ((tree.importEdit? options).toList ++ first) :: rest

/-- What is reported about a literal. -/
def finding (tree : Tree) (literal : Literal) (edits : List Edit) : Finding where
  node := literal.node
  range := (tree.trimmedRange? literal).getD
    (((tree.node? literal.node).map (·.range)).getD (.at' 0))
  text := Text.stripQuotes literal.value
  fix := if edits.isEmpty then none else some ⟨edits⟩

/-- The untranslated literals of a tree, with the fixes for them if they are asked for. -/
def check (tree : Tree) (options : RuleOptions) (withFixes : Bool) : List Finding :=
  let literals := tree.untranslated options
  if withFixes then List.zipWith tree.finding literals (tree.edits options)
  else literals.map (tree.finding · [])

end Tree

/-- The fixes of findings that have one. -/
def Finding.fixes (findings : List Finding) : List Fix := findings.filterMap (·.fix)

/-- The text that replaces the literal, if its fix replaces it. -/
def Finding.suggestion? (finding : Finding) : Option Text :=
  finding.fix.bind fun fix =>
    (fix.edits.find? (!·.isInsertion)).map (·.replacement)

end Untranslated
