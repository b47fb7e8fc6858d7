import Untranslated.Syntax.Parser.Basic

/-!
# Property names, binding patterns and parameters

None of these has a node of its own.  A parser here gives the expressions that the construct
holds: computed names, default values, and the member names of type annotations.
-/

namespace Untranslated.Syntax

open Untranslated.Syntax.Parser

/-- The name of a property of an object or a class. -/
structure PropertyName where
  /-- The name itself, for an identifier or a string that is valid text. -/
  name : Option String
  /-- The expression of a computed name. -/
  computed : List Part

namespace Parser

/-- `[`, an expression, `]`. -/
def computedName (g : Grammar) : Parser Expr := do
  expectSymbol "["
  let key ← within Surroundings.enclosed g.assignment
  expectSymbol "]"
  return key.expr

def propertyName (g : Grammar) : Parser PropertyName := do
  match (← state).token with
  | .word name _ =>
      advance
      return ⟨some name, []⟩
  | .string _ =>
      let (_, codes) ← stringLiteral .propertyName
      return ⟨(decodeExact? codes).map String.ofList, []⟩
  | .number | .privateName =>
      advance
      return ⟨none, []⟩
  | .punctuator "[" => return ⟨none, [.expr (← computedName g)]⟩
  | _ => fail "a property name"

/-- `= value`, if it comes next. -/
def initializer? (g : Grammar) : Parser (List Part) := do
  if ← eatSymbol "=" then
    let value ← within Surroundings.enclosed g.assignment
    return [.expr value.expr]
  return []

/-- `: type`, if it comes next and the dialect has types. -/
def typeAnnotation? (g : Grammar) : Parser (List Part) := do
  if (← typescript) && (← atSymbol ":") then
    advance
    within Surroundings.enclosed g.type
  else return []

/-- A pattern with an optional default value. -/
def bindingElement (g : Grammar) : Parser (List Part) := do
  let pattern ← g.pattern
  return pattern ++ (← initializer? g)

/-- The elements of an array pattern after its opening bracket. -/
def arrayPatternRest (g : Grammar) : Parser (List Part) :=
  loop ([] : List Part) fun parts => do
    if ← eatSymbol "]" then return .inr parts
    if ← eatSymbol "," then return .inl parts
    if ← eatSymbol "..." then
      let rest ← bindingElement g
      expectSymbol "]"
      return .inr (parts ++ rest)
    let element ← bindingElement g
    unless ← atSymbol "]" do expectSymbol ","
    return .inl (parts ++ element)

/-- One property of an object pattern: `...rest`, `key: element`, or a name with an optional
default value. -/
def objectPatternProperty (g : Grammar) : Parser (List Part) := do
  if ← eatSymbol "..." then g.pattern
  else
    let token := (← state).token
    let key ← propertyName g
    if ← eatSymbol ":" then
      return key.computed ++ (← bindingElement g)
    unless token.isIdentifier do fail ":"
    initializer? g

/-- The properties of an object pattern after its opening brace. -/
def objectPatternRest (g : Grammar) : Parser (List Part) :=
  loop ([] : List Part) fun parts => do
    if ← eatSymbol "\x7d" then return .inr parts
    let property ← objectPatternProperty g
    unless ← atSymbol "\x7d" do expectSymbol ","
    return .inl (parts ++ property)

/-- A binding pattern: a name, an array pattern or an object pattern. -/
def bindingPattern (g : Grammar) : Parser (List Part) := do
  if ← eatSymbol "[" then arrayPatternRest g
  else if ← eatSymbol "\x7b" then objectPatternRest g
  else
    let _ ← identifier
    return []

/-- Words that may stand before a constructor parameter. -/
def parameterModifiers : List String := ["public", "private", "protected", "readonly", "override"]

/-- Skips the modifiers of a constructor parameter. -/
def skipParameterModifiers : Parser Unit := do
  if ← typescript then
    loop () fun _ => do
      let next ← peek
      if (← atWordIn parameterModifiers) &&
          (next.token.isAnyWord || next.token.isSymbolIn ["[", "\x7b"]) then
        advance
        return .inl ()
      return .inr ()

/-- One parameter with its type and default value. -/
def parameter (g : Grammar) : Parser (List Part) := do
  skipParameterModifiers
  let _ ← eatSymbol "..."
  let pattern ←
    if (← typescript) && (← atWord "this") then do
      advance
      pure []
    else g.pattern
  if ← typescript then
    let _ ← eatSymbol "?"
  let annotation ← typeAnnotation? g
  return pattern ++ annotation ++ (← initializer? g)

/-- Parameters in parentheses. -/
def parameters (g : Grammar) : Parser (List Part) := do
  expectSymbol "("
  loop ([] : List Part) fun parts => do
    if ← eatSymbol ")" then return .inr parts
    let next ← parameter g
    unless ← atSymbol ")" do expectSymbol ","
    return .inl (parts ++ next)

end Parser

end Untranslated.Syntax
