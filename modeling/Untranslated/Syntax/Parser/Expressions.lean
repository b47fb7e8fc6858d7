import Untranslated.Syntax.Parser.Functions

/-!
# Expressions

From primary expressions to assignments.  Parenthesised text is read once and decided afterwards:
it is the parameter list of an arrow function if an arrow follows, and an expression otherwise.
-/

namespace Untranslated.Syntax

namespace Parser

/-- The arguments of a call in parentheses; `trailing` tells that a comma may follow the last. -/
def argumentList (g : Grammar) (trailing : Bool) : Parser (List Expr) := do
  expectSymbol "("
  within Surroundings.enclosed (loop ([] : List Expr) fun arguments => do
    if ← eatSymbol ")" then return .inr arguments
    let _ ← eatSymbol "..."
    let argument ← g.assignment
    unless ← atSymbol ")" do
      expectSymbol ","
      if !trailing && (← atSymbol ")") then fail "an argument"
    return .inl (arguments ++ [argument.expr]))

def callArguments (g : Grammar) : Parser (List Expr) := argumentList g true

/-- An array literal. -/
def arrayLiteral (g : Grammar) : Parser Operand := do
  let start ← start
  expectSymbol "["
  let (parts, pattern) ← within Surroundings.enclosed
    (loop (([] : List Part), ([] : List Part)) fun (parts, pattern) => do
      if ← eatSymbol "]" then return .inr (parts, pattern)
      if ← eatSymbol "," then return .inl (parts, pattern)
      let _ ← eatSymbol "..."
      let element ← g.assignment
      unless ← atSymbol "]" do expectSymbol ","
      return .inl (parts ++ [.expr element.expr], pattern ++ element.pattern))
  return { expr := .other (← rangeFrom start) parts, pattern, target := some pattern,
           updated := none }

/-- A method of an object literal after its name. -/
def methodRest (g : Grammar) (key : PropertyName) (start : Nat) (generator : Bool) :
    Parser (List Part × List Part) := do
  let parts := key.computed ++ (← functionRest g generator)
  return ([.plain .property (← rangeFrom start) parts], parts)

/-- A getter or setter of an object literal after its name: the type comes before the body. -/
def accessorRest (g : Grammar) (key : PropertyName) (start : Nat) :
    Parser (List Part × List Part) := do
  let params ← parameters g
  let result ← returnAnnotation? g
  let body ← functionBody g false
  let parts := key.computed ++ params ++ result ++ body
  return ([.plain .property (← rangeFrom start) parts], parts)

/-- A property of an object literal: its part, and what it holds as part of a pattern. -/
def objectProperty (g : Grammar) : Parser (List Part × List Part) := do
  let start ← start
  if ← eatSymbol "..." then
    let value ← g.assignment
    return ([.expr value.expr], value.pattern)
  let isAsync ← eatAsync
  let generator ← eatSymbol "*"
  let accessor ← eatAccessor isAsync generator
  let token := (← state).token
  let key ← propertyName g
  if accessor then
    return ← accessorRest g key start
  if (← atSymbol "(") || ((← typescript) && (← atSymbol "<")) then
    return ← methodRest g key start generator
  if isAsync || generator then fail "("
  if ← eatSymbol ":" then
    let value ← g.assignment
    let parts := key.computed ++ [.expr value.expr]
    return ([.keyed ⟨start, value.expr.range.stop⟩ key.name parts], key.computed ++ value.pattern)
  unless token.isIdentifier do fail ":"
  let default ← initializer? g
  return ([.plain .property (← rangeFrom start) default], default)

/-- An object literal. -/
def objectLiteral (g : Grammar) : Parser Operand := do
  let start ← start
  expectSymbol "\x7b"
  let (parts, pattern) ← within Surroundings.enclosed
    (loop (([] : List Part), ([] : List Part)) fun (parts, pattern) => do
      if ← eatSymbol "\x7d" then return .inr (parts, pattern)
      let (part, inPattern) ← objectProperty g
      unless ← atSymbol "\x7d" do expectSymbol ","
      return .inl (parts ++ part, pattern ++ inPattern))
  return { expr := .object (← rangeFrom start) parts, pattern, target := some pattern,
           updated := none }

/-- An expression in parentheses. -/
def parenthesised (g : Grammar) : Parser Operand := do
  let start ← start
  expectSymbol "("
  let inner ← enclosedExpression g
  expectSymbol ")"
  return .ofPlace (.paren (← rangeFrom start) inner.expr)

/-- An expression that starts with a word. -/
def wordExpression (g : Grammar) (name : String) : Parser Operand := do
  let start ← start
  if ← atAsyncFunction then
    advance
    advance
    let parts ← functionAfterKeyword g false
    return .value (← rangeFrom start) parts
  if (← state).token.isIdentifier then
    advance
    return { Operand.ofPlace (.identifier (← rangeFrom start) name) with pattern := [] }
  if ["this", "null", "true", "false"].contains name then
    advance
    return .value (← rangeFrom start) []
  if ← eatWord "function" then
    let parts ← functionAfterKeyword g false
    return .value (← rangeFrom start) parts
  if ← eatWord "class" then
    let parts ← classAfterKeyword g false
    return .value (← rangeFrom start) parts
  fail "an expression"

/-- An expression that no operator splits. -/
def primary (g : Grammar) : Parser Operand := do
  let current ← state
  match current.token with
  | .word name _ => wordExpression g name
  | .string _ =>
      let (range, codes) ← stringLiteral (← context).stringUse
      return .ofExpr (.string range (decodeLossy codes))
  | .number | .privateName =>
      advance
      return .value (← rangeFrom current.start) []
  | .punctuator "(" => parenthesised g
  | .punctuator "[" => arrayLiteral g
  | .punctuator "\x7b" => objectLiteral g
  | .punctuator "`" => return .ofExpr (← template g false)
  | .punctuator "/" | .punctuator "/=" => return .ofExpr (← regularExpression)
  | _ => fail "an expression"

/-- Words that start an expression although they are reserved. -/
def expressionWords : List String := [
  "this", "super", "null", "true", "false", "new", "function", "class", "typeof", "void", "delete",
  "import"]

/-- The token can start an expression. -/
def startsExpression : Token → Bool
  | .word name plain =>
      !plain || !Token.reservedWords.contains name || expressionWords.contains name
  | .string _ | .number | .privateName => true
  | .punctuator symbol =>
      ["(", "[", "\x7b", "`", "/", "/=", "+", "-", "~", "!", "++", "--", "<", "@"].contains symbol
  | _ => false

/-- The level at which a binary operator binds; a higher one binds tighter. -/
def operatorLevel? : Token → Option Nat
  | .punctuator symbol =>
      [("??", 1), ("||", 1), ("&&", 2), ("|", 3), ("^", 4), ("&", 5), ("==", 6), ("!=", 6),
        ("===", 6), ("!==", 6), ("<", 7), (">", 7), ("<=", 7), (">=", 7), ("<<", 8), (">>", 8),
        (">>>", 8), ("+", 9), ("-", 9), ("*", 10), ("/", 10), ("%", 10), ("**", 11)].lookup symbol
  | .word "in" true => some 7
  | .word "instanceof" true => some 7
  | _ => none

/-- After type arguments no call and no template follows; whether they are type arguments at all
depends on what does. -/
def typeArgumentsEndHere : Parser Bool := do
  let current ← state
  if current.token.isSymbolIn ["<", ">", "+", "-"] then return false
  return current.newline || (operatorLevel? current.token).isSome ||
    current.token.isWordIn ["as", "satisfies"] || !startsExpression current.token

/-- A call, a tagged template or a bare expression with type arguments.  The flag tells that more
accesses may follow. -/
def genericAccess (g : Grammar) (start : Nat) (calls bare : Bool) (object : Expr) :
    Parser (Option (Operand × Bool)) := do
  let generics ← typeArguments g
  if calls && (← atSymbol "(") then
    let arguments ← callArguments g
    return some (.ofExpr (.call (← rangeFrom start) object arguments), true)
  if ← atSymbol "`" then
    let literal ← template g true
    let parts := Part.expr object :: generics ++ [.expr literal]
    return some (.value (← rangeFrom start) parts, true)
  if bare && (← typeArgumentsEndHere) then
    return some (.place (← rangeFrom start) (.expr object :: generics), false)
  return none

/-- The name of a member after a dot. -/
def memberWord : Parser Unit := do
  match (← state).token with
  | .word _ _ | .privateName => advance
  | _ => fail "a member name"

/-- What follows `?.`: a computed member, a call or a named member. -/
def optionalAccess (g : Grammar) (start : Nat) (object : Expr) : Parser Operand := do
  if ← eatSymbol "[" then
    let key ← enclosedExpression g
    expectSymbol "]"
    return .place (← rangeFrom start) [.expr object, .expr key.expr]
  if (← typescript) && (← atSymbolIn ["<", "<<"]) then
    let _ ← typeArguments g
    let arguments ← callArguments g
    return .ofExpr (.call (← rangeFrom start) object arguments)
  if ← atSymbol "(" then
    let arguments ← callArguments g
    return .ofExpr (.call (← rangeFrom start) object arguments)
  memberWord
  return .place (← rangeFrom start) [.expr object]

/-- One member access or call after an operand; the flag tells that more may follow. -/
def plainAccess (g : Grammar) (start : Nat) (calls : Bool) (object : Operand) :
    Parser (Operand × Bool) := do
  match (← state).token with
  | .punctuator "?." =>
      unless calls do fail "a member access"
      advance
      return (← optionalAccess g start object.expr, true)
  | .punctuator "." =>
      advance
      memberWord
      return (.place (← rangeFrom start) [.expr object.expr], true)
  | .punctuator "[" =>
      advance
      let key ← enclosedExpression g
      expectSymbol "]"
      return (.place (← rangeFrom start) [.expr object.expr, .expr key.expr], true)
  | .punctuator "(" =>
      if calls then
        let arguments ← callArguments g
        return (.ofExpr (.call (← rangeFrom start) object.expr arguments), true)
      else return (object, false)
  | .punctuator "`" =>
      let literal ← template g true
      return (.value (← rangeFrom start) [.expr object.expr, .expr literal], true)
  | _ => return (object, false)

/-- One member access, call or assertion after an operand; the flag tells that more may follow. -/
def access (g : Grammar) (start : Nat) (calls bare : Bool) (object : Operand) :
    Parser (Operand × Bool) := do
  let current ← state
  let types ← typescript
  if types && current.token.isSymbol "!" && !current.newline then
    advance
    return (.place (← rangeFrom start) [.expr object.expr], true)
  else if types && current.token.isSymbolIn ["<", "<<"] then
    orElse (attempt? (genericAccess g start calls bare object.expr)) (pure (object, false))
  else plainAccess g start calls object

/-- Member accesses and, if allowed, calls after an operand. -/
def accesses (g : Grammar) (start : Nat) (calls bare : Bool) (object : Operand) :
    Parser Operand :=
  loop object fun object => do
    let (object, more) ← access g start calls bare object
    return if more then .inl object else .inr object

/-- The type arguments of a constructor, which must have its arguments after them. -/
def constructorTypes? (g : Grammar) : Parser (Option (List Part)) := do
  if (← typescript) && (← atSymbolIn ["<", "<<"]) then
    attempt (do
      let generics ← typeArguments g
      unless ← atSymbol "(" do fail "("
      return generics)
  else return none

/-- `new` with the constructor and its arguments, or `new.target`. -/
def newExpression (g : Grammar) : Parser Operand := do
  let start ← start
  expectWord "new"
  if ← eatSymbol "." then
    expectWord "target"
    return .value (← rangeFrom start) []
  if (← atWord "import") && !(← peek).token.isSymbol "." then fail "a constructor"
  let callee ← g.memberOrNew
  let generics ← postponed .types none (constructorTypes? g)
  let arguments ← if ← atSymbol "(" then callArguments g else pure []
  return .value (← rangeFrom start)
    (.expr callee.expr :: arguments.map Part.expr ++ generics.getD [])

/-- `super` with a call or a member access. -/
def superExpression (g : Grammar) : Parser Operand := do
  let start ← start
  expectWord "super"
  if ← atSymbol "(" then
    let arguments ← callArguments g
    return .ofExpr (.bareCall (← rangeFrom start) arguments)
  if ← eatSymbol "[" then
    let key ← enclosedExpression g
    expectSymbol "]"
    return .place (← rangeFrom start) [.expr key.expr]
  expectSymbol "."
  memberWord
  return .place (← rangeFrom start) []

/-- `import.meta`, or `import` with a call, which may name the phase to import up to.  JavaScript
allows no comma after the last argument. -/
def importExpression (g : Grammar) : Parser Operand := do
  let start ← start
  expectWord "import"
  if ← eatSymbol "." then
    if ← eatWord "meta" then return .value (← rangeFrom start) []
    unless ← atWordIn ["defer", "source"] do fail "meta"
    advance
  let arguments ← argumentList g (← typescript)
  return .ofExpr (.bareCall (← rangeFrom start) arguments)

/-- What member accesses and calls start from. -/
def accessBase (g : Grammar) : Parser Operand := do
  if ← atWord "new" then newExpression g
  else if ← atWord "super" then superExpression g
  else if ← atWord "import" then importExpression g
  else primary g

/-- A member expression without calls. -/
def memberOrNewBody (g : Grammar) : Parser Operand := do
  let start ← start
  accesses g start false false (← accessBase g)

/-- An expression that calls and member accesses may end, without a bare instantiation. -/
def leftHandSideBody (g : Grammar) : Parser Operand := do
  let start ← start
  accesses g start true false (← accessBase g)

/-- A JSX element as an expression; another element must not follow it directly. -/
def markupExpression (g : Grammar) : Parser Operand := do
  let element ← g.markup
  advance
  if ← atSymbol "<" then fail "one element"
  return .ofExpr element

/-- `++` or `--` after an operand on the same line. -/
def postfixRest (start : Nat) (operand : Operand) : Parser Operand := do
  if (← atSymbolIn ["++", "--"]) && !(← state).newline then
    advance
    return .value (← rangeFrom start) [.expr operand.expr]
  return operand

/-- A type to which a value is asserted to belong, or the word `const`. -/
def assertedType (g : Grammar) : Parser (List Part) := do
  if ← eatWord "const" then return []
  within Surroundings.enclosed g.type

/-- `<Type>value`. -/
def typeAssertion (g : Grammar) : Parser Operand := do
  let start ← start
  expectSymbol "<"
  let type ← postponed .types [] (assertedType g)
  expectSplit ">"
  let value ← g.unary
  return .place (← rangeFrom start) (.expr value.expr :: type)

/-- The word `await` is an operator unless what follows shows that it is a name. -/
def atAwait : Parser Bool := do
  let next ← peek
  return (← atWord "await") &&
    !(next.token.isSymbolIn [")", "]", ";", ",", "=>", ":", "=", "."] || next.token == .eof)

def unaryBody (g : Grammar) : Parser Operand := do
  let start ← start
  if ← atSymbol "<" then
    if (← context).dialect.jsx then return ← markupExpression g
    if ← typescript then return ← typeAssertion g
  let operated := (← atSymbolIn ["+", "-", "!", "~"]) ||
    (← atWordIn ["typeof", "void", "delete"]) || (← atAwait)
  if operated || (← atSymbolIn ["++", "--"]) then
    advance
    let operand ← g.unary
    return { Operand.value (← rangeFrom start) [.expr operand.expr] with operated }
  let operand ← accesses g start true true (← accessBase g)
  postfixRest start operand

/-- One binary operator that binds tighter than `level`, if one comes next, and its right
operand. -/
def binaryOperator (g : Grammar) (level : Nat) (left : Operand) : Parser (Operand ⊕ Operand) := do
  let current ← state
  match operatorLevel? current.token with
  | none => return .inr left
  | some found =>
      if found ≤ level then return .inr left
      if left.operated && current.token.isSymbol "**" then fail "parentheses"
      advance
      let first ← g.unary
      let right ← g.operators first (if current.token.isSymbol "**" then found - 1 else found)
      let range : Range := ⟨left.expr.range.start, right.expr.range.stop⟩
      return .inl (.value range [.expr left.expr, .expr right.expr])

/-- Binary operators that bind tighter than `level`, and the assertions `as` and `satisfies`. -/
def operatorsBody (g : Grammar) (left : Operand) (level : Nat) : Parser Operand :=
  loop left fun left => do
    let current ← state
    if (← typescript) && current.token.isWordIn ["as", "satisfies"] && !current.newline &&
        level < 7 then
      advance
      let type ← assertedType g
      let stop := (← state).lastStop
      return .inl (.place ⟨left.expr.range.start, stop⟩ (.expr left.expr :: type))
    if current.token.isWord "in" && !(← context).allowIn then return .inr left
    binaryOperator g level left

/-- `? yes : no` after a test. -/
def conditionalRest (g : Grammar) (start : Nat) (test : Operand) : Parser Operand := do
  if ← eatSymbol "?" then
    let yes ← within (fun around => { around with allowIn := true, beforeColon := true })
      g.assignment
    expectSymbol ":"
    let no ← g.assignment
    return .value ⟨start, no.expr.range.stop⟩ [.expr test.expr, .expr yes.expr, .expr no.expr]
  return test

def assignmentOperators : List String := [
  "=", "+=", "-=", "*=", "/=", "%=", "**=", "<<=", ">>=", ">>>=", "&=", "|=", "^=", "&&=", "||=",
  "??="]

/-- An assignment operator and its value after a target. -/
def assignmentRest (g : Grammar) (start : Nat) (left : Operand) : Parser Operand := do
  if ← atSymbolIn assignmentOperators then
    let plain ← atSymbol "="
    let target ← require (if plain then left.target else left.updated) "an end of the expression"
    advance
    let value ← g.assignment
    let operand := Operand.value (← rangeFrom start) (target ++ [.expr value.expr])
    if plain then return { operand with pattern := left.pattern ++ [.expr value.expr] }
    return operand
  return left

/-- What follows the first operand of an assignment expression. -/
def assignmentAfterUnary (g : Grammar) (start : Nat) (first : Operand) : Parser Operand := do
  let combined ← g.operators first 0
  let chosen ← conditionalRest g start combined
  assignmentRest g start chosen

/-- What follows the first primary expression of an assignment expression. -/
def assignmentAfterPrimary (g : Grammar) (start : Nat) (first : Operand) : Parser Operand := do
  let accessed ← accesses g start true true first
  let operand ← postfixRest start accessed
  assignmentAfterUnary g start operand

/-- `yield`, alone or with a value. -/
def yieldExpression (g : Grammar) : Parser Operand := do
  let start ← start
  advance
  let current ← state
  if current.newline || (!current.token.isSymbol "*" && !startsExpression current.token) then
    return .value (← rangeFrom start) []
  let _ ← eatSymbol "*"
  let value ← g.assignment
  return .value (← rangeFrom start) [.expr value.expr]

/-- An arrow function after its parameters, from the arrow on. -/
def arrowRest (g : Grammar) (start : Nat) (params generics result : List Part) :
    Parser Operand := do
  if (← state).newline then fail "an arrow on the same line"
  expectSymbol "=>"
  let body ← arrowBody g
  return .value (← rangeFrom start) (params ++ body ++ generics ++ result)

/-- One item between parentheses that may turn out to be parameters: `expr` is missing when the
item can only be a parameter. -/
structure ParenItem where
  expr : Option Expr
  pattern : List Part
  spread : Bool

/-- An item after which a question mark, a type or a default value may stand, as in a parameter. -/
def parenItem (g : Grammar) : Parser ParenItem := do
  let spread ← eatSymbol "..."
  let types ← typescript
  let next ← peek
  let second ← peekTwo
  let optional := next.token.isSymbol "?" && second.token.isSymbolIn [",", ")", ":", "="]
  if types && (← state).token.isAnyWord && (optional ||
      ((← atWord "this") && next.token.isSymbol ":")) then
    advance
    let _ ← eatSymbol "?"
    let annotation ← typeAnnotation? g
    return ⟨none, annotation ++ (← initializer? g), spread⟩
  let operand ← g.assignment
  if types && (← atSymbol ":") then
    let annotation ← typeAnnotation? g
    return ⟨none, operand.pattern ++ annotation ++ (← initializer? g), spread⟩
  return ⟨some operand.expr, operand.pattern, spread⟩

/-- Items in parentheses; the flag tells that a comma stands after the last. -/
def parenItems (g : Grammar) : Parser (List ParenItem × Bool) := do
  expectSymbol "("
  within Surroundings.enclosed (loop (([] : List ParenItem), false) fun (items, comma) => do
    if ← eatSymbol ")" then return .inr (items, comma)
    let item ← parenItem g
    let more ← atSymbol ","
    unless ← atSymbol ")" do expectSymbol ","
    return .inl (items ++ [item], more))

/-- The result type of an arrow function, if what follows the parameters is one. -/
def arrowResult? (g : Grammar) : Parser (Option (List Part)) := do
  if ← atSymbol "=>" then return some []
  if (← typescript) && (← atSymbol ":") && !(← context).beforeColon then
    attempt (do
      let result ← returnAnnotation? g
      unless ← atSymbol "=>" do fail "=>"
      return result)
  else return none

/-- Expressions in parentheses, with commas between them. -/
def parenthesisedAll (start : Nat) (exprs : List Expr) : Parser Operand := do
  match exprs with
  | [] => fail "=>"
  | [expr] => return .ofPlace (.paren (← rangeFrom start) expr)
  | first :: rest =>
      let stop := ((rest.getLast?).getD first).range.stop
      let inner := Expr.other ⟨first.range.start, stop⟩ ((first :: rest).map Part.expr)
      return .ofPlace (.paren (← rangeFrom start) inner)

/-- The items as the expression in parentheses that they are without an arrow. -/
def parenExpression (start : Nat) (items : List ParenItem) (comma : Bool) : Parser Operand := do
  if comma || items.any (·.spread) then fail "=>"
  let exprs ← require (items.mapM (·.expr)) "=>"
  parenthesisedAll start exprs

/-- An assignment expression that starts with a parenthesis. -/
def parenOrArrow (g : Grammar) : Parser Operand := do
  let start ← start
  let (items, comma) ← parenItems g
  let arrow ← atSymbol "=>"
  match ← postponed .types (if arrow then some [] else none) (arrowResult? g) with
  | some result => arrowRest g start (items.flatMap (·.pattern)) [] result
  | none =>
      let operand ← parenExpression start items comma
      assignmentAfterPrimary g start operand

/-- An assignment expression that starts with `async` and a parenthesis: an arrow function, or a
call of a function of that name. -/
def asyncParenOrArrow (g : Grammar) : Parser Operand := do
  let start ← start
  advance
  let name := Expr.identifier (← rangeFrom start) "async"
  let (items, _) ← parenItems g
  let arrow ← atSymbol "=>"
  match ← postponed .types (if arrow then some [] else none) (arrowResult? g) with
  | some result => arrowRest g start (items.flatMap (·.pattern)) [] result
  | none =>
      let arguments ← require (items.mapM (·.expr)) "=>"
      let call := Expr.call (← rangeFrom start) name arguments
      assignmentAfterPrimary g start (.ofExpr call)

/-- An arrow function with type parameters. -/
def genericArrow (g : Grammar) (start : Nat) : Parser Operand := do
  let generics ← postponed .types [] (typeParameters g)
  let params ← within Surroundings.enclosed (parameters g)
  let result ← require (← postponed .types none (arrowResult? g)) "=>"
  arrowRest g start params generics result

/-- Where there are types: type parameters come next.  In a dialect with JSX they are told from a
tag by what follows the first name. -/
def atGenericArrow : Parser Bool := do
  let next ← peek
  let second ← peekTwo
  if !(← atSymbol "<") || !next.token.isAnyWord then return false
  if (← context).dialect.jsx then
    return second.token.isSymbolIn [",", "="] || second.token.isWord "extends" ||
      (next.token.isWord "const" && second.token.isAnyWord)
  return true

/-- An arrow function whose only parameter is a name, from that name on. -/
def nameArrow (g : Grammar) (start : Nat) : Parser Operand := do
  advance
  arrowRest g start [] [] []

/-- An assignment expression that starts with an operand. -/
def plainAssignment (g : Grammar) (start : Nat) : Parser Operand := do
  let first ← g.unary
  assignmentAfterUnary g start first

/-- An assignment expression that starts with the word `async`, which may be a name. -/
def asyncAssignment (g : Grammar) (start : Nat) : Parser Operand := do
  let next ← peek
  if next.token.isSymbol "(" then asyncParenOrArrow g
  else if next.token.isIdentifier && (← peekTwo).token.isSymbol "=>" then
    advance
    nameArrow g start
  else if (← typescript) && next.token.isSymbol "<" then
    let arrow := attempt (do advance; genericArrow g start)
    orElse arrow (plainAssignment g start)
  else plainAssignment g start

/-- An assignment expression that starts with neither `yield` nor type parameters. -/
def assignmentOrArrow (g : Grammar) (start : Nat) : Parser Operand := do
  let next ← peek
  if ← atSymbol "(" then parenOrArrow g
  else if (← atIdentifier) && next.token.isSymbol "=>" && !next.newline then nameArrow g start
  else if (← atWord "async") && !next.newline then asyncAssignment g start
  else plainAssignment g start

/-- An assignment expression. -/
def assignmentBody (g : Grammar) : Parser Operand := do
  let start ← start
  if (← context).generator && (← atWord "yield") then yieldExpression g
  else if (← typescript) && (← atGenericArrow) then
    orElse (attempt (genericArrow g start)) (assignmentOrArrow g start)
  else assignmentOrArrow g start

end Parser

end Untranslated.Syntax
