import Untranslated.Files.Path
import Untranslated.Syntax.Parser.Items
import Untranslated.Syntax.Parser.Markup

/-!
# The parser

Ties the productions together and reads a whole module.  The dialect follows from the extension of
the path.
-/

namespace Untranslated.Syntax

/-- The grammar in which productions may refer to each other to the given depth.  Every reference
passes over at least one character before the next one of its kind, so a depth in proportion to the
length of the text is never reached. -/
def grammar : Nat → Grammar
  | 0 =>
      let stop {α : Type} : Parser α := Parser.fail "less nesting"
      { assignment := stop, unary := stop, operators := fun _ _ => stop, memberOrNew := stop,
        leftHandSide := stop, markup := stop, type := stop, typeOperator := stop, pattern := stop,
        statement := stop, item := stop }
  | depth + 1 =>
      { assignment := .delay fun _ => Parser.assignmentBody (grammar depth)
        unary := .delay fun _ => Parser.unaryBody (grammar depth)
        operators := fun left level => .delay fun _ =>
          Parser.operatorsBody (grammar depth) left level
        memberOrNew := .delay fun _ => Parser.memberOrNewBody (grammar depth)
        leftHandSide := .delay fun _ => Parser.leftHandSideBody (grammar depth)
        markup := .delay fun _ => Parser.markupBody (grammar depth)
        type := .delay fun _ => Parser.typeBody (grammar depth)
        typeOperator := .delay fun _ => Parser.operatorType (grammar depth)
        pattern := .delay fun _ => Parser.bindingPattern (grammar depth)
        statement := .delay fun _ => Parser.statementBody (grammar depth)
        item := .delay fun _ => Parser.itemBody (grammar depth) }

/-- The items of a module up to the end of the text. -/
def moduleItems (g : Grammar) : Parser (List Part) :=
  Parser.loop ([] : List Part) fun parts => do
    if (← Parser.state).token == .eof then return .inr parts
    return .inl (parts ++ [← g.item])

/-- A text may start with a line that names its interpreter. -/
def skipInterpreterLine (text : Text) : Cursor :=
  let cursor : Cursor := ⟨text, 0⟩
  match text with
  | '#' :: '!' :: _ => cursor.skipWhile (!isLineEnd ·)
  | _ => cursor

/-- The text without a byte-order mark at its start. -/
def withoutMark (text : Text) : Text :=
  if text.head?.map Char.toNat = some 0xFEFF then text.drop 1 else text

/-- Reads the items of a module up to the end of the text.  A byte-order mark is dropped before
positions are counted, so the ranges of a text that has one are three bytes short. -/
def readModule (dialect : Dialect) (text : Text) : Except SyntaxError (List Part × State) :=
  let text := withoutMark text
  let limit := text.length + 1
  let state := State.scanFrom limit (skipInterpreterLine text) 0 (.empty _)
  (moduleItems (grammar (8 * limit))).run { dialect, limit } state

def parse (dialect : Dialect) (text : Text) : Except SyntaxError Module :=
  match readModule dialect text with
  | .ok (items, _) => .ok ⟨items⟩
  | .error error => .error error

/-- The literal texts of a module, the last one first. -/
def readings (dialect : Dialect) (text : Text) : List Reading :=
  match readModule dialect text with
  | .ok (_, state) => state.readings.list
  | .error _ => []

/-- JSX is off in plain TypeScript, where `<` may start a type; types are off in JavaScript. -/
def Dialect.ofPath (path : String) : Dialect :=
  match Path.extension? path with
  | some "ts" | some "mts" | some "cts" => ⟨true, false⟩
  | some "js" | some "jsx" | some "mjs" | some "cjs" => ⟨false, true⟩
  | _ => ⟨true, true⟩

end Untranslated.Syntax
