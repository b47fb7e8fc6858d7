import Untranslated.Syntax.Parser.Literals

/-!
# Functions and classes

What a function or a class holds is listed in a fixed order that is not always the order of the
text: parameters, body, type parameters and result for a function; members, superclass, type
parameters, type arguments of the superclass and implemented types for a class.  Parts that come
later than in the text are read as postponed.
-/

namespace Untranslated.Syntax

namespace Parser

/-- Statements up to the closing brace or the end of the text. -/
def statementsRest (g : Grammar) : Parser (List Part) :=
  loop ([] : List Part) fun parts => do
    if ← eatSymbol "\x7d" then return .inr parts
    if (← state).token == .eof then return .inr parts
    return .inl (parts ++ [← g.statement])

/-- Statements in braces. -/
def block (g : Grammar) : Parser (List Part) := do
  expectSymbol "\x7b"
  statementsRest g

/-- The body of a function. -/
def functionBody (g : Grammar) (generator : Bool) : Parser (List Part) :=
  within (Surroundings.inFunction generator) (block g)

/-- Type parameters, parameters and result of a function, then its body; where types are allowed
the body may be missing. -/
def functionRest (g : Grammar) (generator : Bool) : Parser (List Part) :=
  within (Surroundings.inFunction generator) (do
    let generics ← postponed .types [] (typeParameters? g)
    let params ← parameters g
    let result ← postponed .types [] (returnAnnotation? g)
    let body ←
      if (← typescript) && !(← atSymbol "\x7b") then do
        semicolon
        pure []
      else block g
    return params ++ body ++ generics ++ result)

/-- A function after the word `function`; `named` tells that it must have a name. -/
def functionAfterKeyword (g : Grammar) (named : Bool) : Parser (List Part) := do
  let generator ← eatSymbol "*"
  if ← atIdentifier then advance
  else if named then fail "a name"
  functionRest g generator

/-- The next token is the word `function` on the same line. -/
def atAsyncFunction : Parser Bool := do
  let next ← peek
  return (← atWord "async") && next.token.isWord "function" && !next.newline

/-- The body of an arrow function. -/
def arrowBody (g : Grammar) : Parser (List Part) := do
  if ← atSymbol "\x7b" then functionBody g false
  else
    let value ← within (fun around => { around with generator := false }) g.assignment
    return [.expr value.expr]

/-- Reads a word that stands before a property name and so is no name itself. -/
def eatModifier (name : String) : Parser Bool := do
  if (← atWord name) && (← peek).token.startsPropertyName then
    advance
    return true
  return false

/-- Reads the word `async` before a method. -/
def eatAsync : Parser Bool := do
  let next ← peek
  if (← atWord "async") && !next.newline &&
      (next.token.startsPropertyName || next.token.isSymbol "*") then
    advance
    return true
  return false

/-- Reads the word `get` or `set` before a property name; nothing that is asynchronous or a
generator is an accessor. -/
def eatAccessor (isAsync generator : Bool) : Parser Bool := do
  if isAsync || generator then return false
  if ← eatModifier "get" then return true
  eatModifier "set"

/-- A name as types refer to it: an identifier, or members of one. -/
def entityExpr : Parser Expr := do
  let start ← start
  let name ← anyWord
  loop (Expr.identifier (← rangeFrom start) name) fun expr => do
    if ← eatSymbol "." then
      let _ ← anyWord
      return .inl (.other (← rangeFrom start) [.expr expr])
    return .inr expr

/-- The types after `extends` of an interface or `implements`. -/
def heritage (g : Grammar) : Parser (List Part) := do
  let one : Parser (List Part) := do
    let expr ← entityExpr
    return .expr expr :: (← typeArguments? g)
  let first ← one
  loop first fun parts => do
    if ← eatSymbol "," then
      return .inl (parts ++ (← one))
    return .inr parts

/-- Modifiers of class members besides `static`. -/
def memberModifiers : List String :=
  ["declare", "public", "private", "protected", "override", "abstract", "readonly", "accessor"]

/-- Skips the modifiers before the name of a class member. -/
def skipMemberModifiers : Parser Unit :=
  loop () fun _ => do
    let next ← peek
    let named := next.token.startsPropertyName || next.token.isSymbol "*"
    if (← atWord "static") && named then
      advance
      return .inl ()
    if (← typescript) && (← atWordIn memberModifiers) && named && !next.newline then
      advance
      return .inl ()
    return .inr ()

/-- A property of a class after its name: value, then type.  The name `constructor` is kept for
the method. -/
def fieldRest (g : Grammar) (key : PropertyName) : Parser (List Part) := do
  if key.name == some "constructor" then fail "("
  let annotation ← postponed .types [] (typeAnnotation? g)
  let value ← within (Surroundings.inFunction false) (initializer? g)
  semicolon
  return value ++ annotation

/-- A member of a class. -/
def classMember (g : Grammar) : Parser (List Part) := do
  let next ← peek
  if ← eatSymbol ";" then return []
  if (← atWord "static") && next.token.isSymbol "\x7b" then
    advance
    return ← functionBody g false
  skipMemberModifiers
  if (← typescript) && (← atIndexSignature) then
    let parts ← indexSignature g
    semicolon
    return parts
  let isAsync ← eatAsync
  let generator ← eatSymbol "*"
  let accessor ← eatAccessor isAsync generator
  let key ← propertyName g
  if ← typescript then
    unless ← eatSymbol "?" do
      let _ ← eatSymbol "!"
  if (← atSymbol "(") || ((← typescript) && (← atSymbol "<")) then
    return key.computed ++ (← functionRest g generator)
  if isAsync || generator || accessor then fail "("
  return key.computed ++ (← fieldRest g key)

/-- The name of a class, if it has one; `named` tells that it must. -/
def className (named : Bool) : Parser Unit := do
  if ← atWord "let" then fail "another name"
  if (← atIdentifier) && !((← typescript) && (← atWord "implements")) then advance
  else if named then fail "a name"

/-- `extends` and the superclass. -/
def superclass (g : Grammar) : Parser (Option (List Part)) := do
  expectWord "extends"
  let superclass ← g.leftHandSide
  return some [.expr superclass.expr]

/-- The types after `implements`. -/
def implemented? (g : Grammar) : Parser (List Part) := do
  if (← typescript) && (← atWord "implements") then
    advance
    heritage g
  else return []

/-- The members of a class in braces. -/
def classMembers (g : Grammar) : Parser (List Part) := do
  expectSymbol "\x7b"
  within Surroundings.enclosed (loop ([] : List Part) fun parts => do
    if ← eatSymbol "\x7d" then return .inr parts
    return .inl (parts ++ (← classMember g)))

/-- A class after the word `class`; `named` tells that it must have a name. -/
def classAfterKeyword (g : Grammar) (named : Bool) : Parser (List Part) := do
  className named
  let generics ← postponed .types [] (typeParameters? g)
  let superclass ← postponed .superclass none (superclass g)
  let arguments ← postponed .types []
    (if superclass.isSome then instantiation? g else pure [])
  let implemented ← postponed .types [] (implemented? g)
  let members ← classMembers g
  return members ++ superclass.getD [] ++ generics ++ arguments ++ implemented

end Parser

end Untranslated.Syntax
