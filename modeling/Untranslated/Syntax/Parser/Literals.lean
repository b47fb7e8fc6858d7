import Untranslated.Syntax.Parser.Types

/-!
# Templates and regular expressions

Literals whose text is not made of tokens; they are read from the position of the token that
starts them.
-/

namespace Untranslated.Syntax

namespace Parser

/-- Expressions divided by commas. -/
def expression (g : Grammar) : Parser Operand := do
  let start ← start
  let first ← g.assignment
  if ← atSymbol "," then
    let rest ← loop [Part.expr first.expr] fun parts => do
      if ← eatSymbol "," then
        let next ← g.assignment
        return .inl (parts ++ [.expr next.expr])
      return .inr parts
    return .value (← rangeFrom start) rest
  return first

/-- An expression on which nothing around it bears. -/
def enclosedExpression (g : Grammar) : Parser Operand := within Surroundings.enclosed (expression g)

/-- A template literal from its backquote on.  Illegal escapes are refused unless a tag stands
before the template. -/
def template (g : Grammar) (tagged : Bool) : Parser Expr := do
  let start ← start
  let (first, more) ← templateSegment tagged
  let rest ← loop (([] : List Substitution), more) fun (parts, more) => do
    if more then
      let value ← enclosedExpression g
      unless ← atSymbol "\x7d" do fail "a closing brace"
      let (segment, more) ← templateSegment tagged
      return .inl (parts ++ [.mk value.expr segment], more)
    return .inr parts
  return .template (← rangeFrom start) first rest

/-- Steps over the body of a regular expression; a slash inside a class does not end it. -/
def skipPattern : Bool → Text → Nat → Option Cursor
  | _, [], _ => none
  | inClass, '\\' :: char :: chars, offset =>
      if isLineEnd char then none else skipPattern inClass chars (offset + 1 + char.utf8Size)
  | inClass, char :: chars, offset =>
      let offset := offset + char.utf8Size
      if isLineEnd char then none
      else if char == '[' then skipPattern true chars offset
      else if char == ']' then skipPattern false chars offset
      else if char == '/' && !inClass then some ⟨chars, offset⟩
      else skipPattern inClass chars offset

theorem leads_skipPattern {inClass : Bool} {text : Text} {offset : Nat} {after : Cursor}
    (hskip : skipPattern inClass text offset = some after) : Cursor.Leads ⟨text, offset⟩ after := by
  have hbackslash : '\\'.utf8Size = 1 := rfl
  fun_induction skipPattern inClass text offset <;> grind [Cursor.Leads.refl, Cursor.Leads.cons]

/-- Steps over a regular expression and its flags. -/
def passPattern : Parser Unit :=
  readText
    (fun state =>
      let body := state.cursor.skip
      match skipPattern false body.rest body.offset with
      | none => .error "a closing slash"
      | some cursor => .ok ((), cursor.skipWhile isIdentifierPart))
    (by
      intro state _ _ hread
      dsimp only at hread
      split at hread
      · cases hread
      · next cursor hskip =>
          cases hread
          exact state.cursor.leads_skip.trans
            ((leads_skipPattern hskip).trans (cursor.leads_skipWhile _)))

/-- A regular expression literal from its slash on. -/
def regularExpression : Parser Expr := do
  let start ← start
  passPattern
  return .other (← rangeFrom start) []

end Parser

end Untranslated.Syntax
