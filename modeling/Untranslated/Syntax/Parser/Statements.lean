import Untranslated.Syntax.Parser.Functions

/-!
# Declarations and statements

A declaration is read without its node, because an exported one has none: what it holds belongs to
the export then.
-/

namespace Untranslated.Syntax

namespace Parser

/-- What the keyword of a variable declaration declares. -/
inductive VariableKind where
  /-- A variable of the whole function: `var`. -/
  | function
  /-- A variable of the block: `let`. -/
  | block
  /-- A constant: `const`. -/
  | constant
  /-- A resource that is closed at the end of the block: `using`. -/
  | resource
  deriving DecidableEq, Repr, Inhabited

/-- One declarator of a variable declaration: pattern, type and value.  `inHead` tells that it
stands in the head of a `for` statement, where `in` or `of` may take the place of the value.  A
pattern needs a value unless the declaration is ambient; that a constant lacks one is let pass. -/
def declarator (g : Grammar) (kind : VariableKind) (inHead : Bool) : Parser (List Part) := do
  if (kind == .block || kind == .constant) && (← atWord "let") then fail "another name"
  let isName ← atIdentifier
  let pattern ← g.pattern
  if (← typescript) && !(← state).newline then
    let _ ← eatSymbol "!"
  let annotation ← typeAnnotation? g
  if ← eatSymbol "=" then
    let value ← g.assignment
    return pattern ++ annotation ++ [.expr value.expr]
  let excused := isName || kind == .constant || (← context).ambient ||
    (inHead && (← atWordIn ["in", "of"]))
  unless excused do fail "="
  return pattern ++ annotation

def declarators (g : Grammar) (kind : VariableKind) (inHead : Bool) : Parser (List Part) := do
  let first ← declarator g kind inHead
  loop first fun parts => do
    if ← eatSymbol "," then
      return .inl (parts ++ (← declarator g kind inHead))
    return .inr parts

/-- Ends a variable declaration.  Where a semicolon is missing, everything up to the next place
where a statement may end is passed over. -/
def endDeclarators (g : Grammar) : Parser Unit := do
  unless ← eatSemicolon do
    let _ ← attempt (expression g)
    loop () fun _ => do
      if ← eatSemicolon then return .inr ()
      advance
      if (← state).token == .invalid then return .inr ()
      return .inl ()

/-- A variable declaration after its keyword. -/
def variablesRest (g : Grammar) (kind : VariableKind) : Parser (List Part) := do
  let parts ← declarators g kind false
  endDeclarators g
  return parts

/-- The word `let` or `using` starts a declaration if a pattern follows. -/
def startsBinding (next : State) : Bool :=
  next.token.isIdentifier || next.token.isSymbolIn ["[", "\x7b"]

/-- Reads the keyword of a variable declaration, if one comes next. -/
def variableKeyword? : Parser (Option VariableKind) := do
  let next ← peek
  let types ← typescript
  if ← eatWord "var" then return some .function
  if ← eatWord "const" then return some .constant
  if (← atWord "let") && startsBinding next then
    advance
    return some .block
  if types && (← atWord "using") && next.token.isIdentifier && !next.newline &&
      !next.token.isWordIn ["in", "of", "as", "satisfies"] then
    advance
    return some .resource
  let second ← peekTwo
  if types && (← atWord "await") && next.token.isWord "using" && !next.newline &&
      second.token.isIdentifier && !second.newline && !second.token.isWordIn ["in", "of"] then
    advance
    advance
    return some .resource
  return none

/-- The members of an enumeration; only their values matter. -/
def enumMembers (g : Grammar) : Parser (List Part) := do
  expectSymbol "\x7b"
  loop ([] : List Part) fun parts => do
    if ← eatSymbol "\x7d" then return .inr parts
    let _ ← propertyName g
    let value ← initializer? g
    unless ← atSymbol "\x7d" do expectSymbol ","
    return .inl (parts ++ value)

def interfaceRest (g : Grammar) : Parser (List Part) := do
  let _ ← anyWord
  let generics ← typeParameters? g
  let bases ← if ← eatWord "extends" then heritage g else pure []
  return generics ++ bases ++ (← typeMembers g)

def typeAliasRest (g : Grammar) : Parser (List Part) := do
  let _ ← anyWord
  let generics ← typeParameters? g
  expectSymbol "="
  let type ← within Surroundings.enclosed g.type
  semicolon
  return generics ++ type

/-- The items of a namespace in braces. -/
def namespaceBody (g : Grammar) : Parser (List Part) := do
  expectSymbol "\x7b"
  within (Surroundings.inFunction false) (loop ([] : List Part) fun parts => do
    if ← eatSymbol "\x7d" then return .inr parts
    if (← state).token == .eof then return .inr parts
    return .inl (parts ++ [← g.item]))

/-- A namespace or an ambient module after its keyword. -/
def namespaceRest (g : Grammar) : Parser (List Part) := do
  match (← state).token with
  | .string _ =>
      let _ ← stringLiteral .moduleName
      if ← atSymbol "\x7b" then namespaceBody g
      else
        semicolon
        return []
  | _ =>
      entityName
      namespaceBody g

/-- A declaration that only exists where types do. -/
def typeDeclaration? (g : Grammar) : Parser (Option (List Part)) := do
  let next ← peek
  let named := next.token.isIdentifier && !next.newline
  if (← atWord "const") && next.token.isWord "enum" then
    advance
    advance
    let _ ← anyWord
    return some (← enumMembers g)
  if (← atWord "enum") && next.token.isAnyWord then
    advance
    let _ ← anyWord
    return some (← enumMembers g)
  if (← atWord "interface") && named then
    advance
    return some (← interfaceRest g)
  if (← atWord "type") && named then
    advance
    return some (← typeAliasRest g)
  if (← atWord "namespace") && named then
    advance
    return some (← namespaceRest g)
  if (← atWord "module") && !next.newline &&
      (named || match next.token with | .string _ => true | _ => false) then
    advance
    return some (← namespaceRest g)
  if (← atWord "global") && next.token.isSymbol "\x7b" then
    advance
    return some (← namespaceBody g)
  if (← atWord "abstract") && next.token.isWord "class" && !next.newline then
    advance
    advance
    return some (← classAfterKeyword g true)
  return none

/-- A declaration of variables, if one comes next. -/
def variables? (g : Grammar) : Parser (Option (List Part)) := do
  match ← variableKeyword? with
  | some kind => return some (← variablesRest g kind)
  | none => return none

/-- A declaration of values: of a function, a class or variables. -/
def valueDeclaration? (g : Grammar) : Parser (Option (List Part)) := do
  if ← atAsyncFunction then
    advance
    advance
    return some (← functionAfterKeyword g true)
  if ← eatWord "function" then return some (← functionAfterKeyword g true)
  if ← eatWord "class" then return some (← classAfterKeyword g true)
  variables? g

/-- A declaration where there are types. -/
def typedDeclaration? (g : Grammar) : Parser (Option (List Part)) := do
  match ← typeDeclaration? g with
  | some parts => return some parts
  | none => valueDeclaration? g

/-- A declaration without the word `declare`. -/
def plainDeclaration? (g : Grammar) : Parser (Option (List Part)) := do
  if ← typescript then typedDeclaration? g else valueDeclaration? g

/-- Words that may follow `declare`. -/
def declaredWords : List String := [
  "function", "class", "const", "let", "var", "enum", "interface", "type", "namespace", "module",
  "global", "abstract", "async", "using"]

/-- A declaration, if one comes next. -/
def declaration? (g : Grammar) : Parser (Option (List Part)) := do
  let next ← peek
  if (← typescript) && (← atWord "declare") && next.token.isWordIn declaredWords &&
      !next.newline then
    advance
    let declared := within (fun around => { around with ambient := true }) (plainDeclaration? g)
    return some (← orElse declared (fail "a declaration"))
  else plainDeclaration? g

/-- `(expression)`. -/
def condition (g : Grammar) : Parser Part := do
  expectSymbol "("
  let test ← enclosedExpression g
  expectSymbol ")"
  return .expr test.expr

/-- The variables that a `for` head declares, if it declares any. -/
def forVariables? (g : Grammar) : Parser (Option (List Part × List Part)) := do
  match ← variableKeyword? with
  | some kind =>
      let parts ← declarators g kind true
      return some (parts, parts)
  | none => return none

def forExpression (g : Grammar) : Parser (List Part × List Part) := do
  let operand ← expression g
  return ([.expr operand.expr], operand.pattern)

/-- What may stand before the first semicolon, `in` or `of` of a `for` head: its parts when it is
an initialiser, and its parts when values are bound to it. -/
def forInitial (g : Grammar) : Parser (List Part × List Part) :=
  within (fun around => { around.enclosed with allowIn := false }) (do
    if ← atSymbol ";" then return ([], [])
    orElse (forVariables? g) (forExpression g))

/-- An expression, unless the symbol comes first. -/
def expressionBefore (g : Grammar) (close : String) : Parser (List Part) := do
  if ← atSymbol close then return []
  let operand ← enclosedExpression g
  return [.expr operand.expr]

def expressionStatement (g : Grammar) : Parser (List Part) := do
  let value ← enclosedExpression g
  semicolon
  return [.expr value.expr]

/-- The statement that another statement governs.  No variable of a block is declared there, so
`let` is a name. -/
def governedStatement (g : Grammar) : Parser Part := do
  let start ← start
  if ← atWord "let" then
    let parts ← expressionStatement g
    return .plain .statement (← rangeFrom start) parts
  if (← atWord "const") && !(← peek).token.isWord "enum" then fail "a statement"
  g.statement

/-- A `for` statement after its keyword.  Only the elements of a sequence can be awaited. -/
def forRest (g : Grammar) : Parser (List Part) := do
  let awaited ← eatWord "await"
  expectSymbol "("
  let (initial, bound) ← forInitial g
  if ← eatWord "of" then
    let values ← within Surroundings.enclosed g.assignment
    expectSymbol ")"
    return bound ++ [.expr values.expr, ← governedStatement g]
  if awaited then fail "of"
  if ← eatWord "in" then
    let object ← enclosedExpression g
    expectSymbol ")"
    return bound ++ [.expr object.expr, ← governedStatement g]
  expectSymbol ";"
  let test ← expressionBefore g ";"
  expectSymbol ";"
  let update ← expressionBefore g ")"
  expectSymbol ")"
  return initial ++ test ++ update ++ [← governedStatement g]

/-- The statements of a case, up to the next case or the end of the `switch`. -/
def caseBody (g : Grammar) : Parser (List Part) :=
  loop ([] : List Part) fun parts => do
    if (← atWordIn ["case", "default"]) || (← atSymbol "\x7d") || (← state).token == .eof then
      return .inr parts
    return .inl (parts ++ [← g.statement])

/-- A `switch` statement after its keyword; at most one of its cases is the default. -/
def switchRest (g : Grammar) : Parser (List Part) := do
  let subject ← condition g
  expectSymbol "\x7b"
  loop ([subject], false) fun (parts, hasDefault) => do
    if ← eatSymbol "\x7d" then return .inr parts
    if ← eatWord "case" then
      let test ← enclosedExpression g
      expectSymbol ":"
      let body ← caseBody g
      return .inl (parts ++ [.expr test.expr] ++ body, hasDefault)
    if hasDefault then fail "case"
    expectWord "default"
    expectSymbol ":"
    let body ← caseBody g
    return .inl (parts ++ body, true)

/-- A `try` statement after its keyword; both of its clauses may be missing. -/
def tryRest (g : Grammar) : Parser (List Part) := do
  let body ← block g
  let handler ←
    if ← eatWord "catch" then do
      let parameter ←
        if ← eatSymbol "(" then do
          let pattern ← g.pattern
          let annotation ← typeAnnotation? g
          expectSymbol ")"
          pure (pattern ++ annotation)
        else pure []
      let body ← block g
      pure (parameter ++ body)
    else pure []
  let finalizer ← if ← eatWord "finally" then block g else pure []
  return body ++ handler ++ finalizer

/-- `do` and the body that it repeats. -/
def repeatedStatement (g : Grammar) : Parser (Option Part) := do
  expectWord "do"
  return some (← governedStatement g)

/-- A statement that starts with the given keyword, which is still to be read. -/
def keywordStatement? (g : Grammar) (keyword : String) : Parser (Option (List Part)) :=
  match keyword with
  | "break" | "continue" => do
      advance
      unless ← atStatementEnd do
        let _ ← identifier
      semicolon
      return some []
  | "debugger" => do
      advance
      semicolon
      return some []
  | "do" => do
      let body ← require (← postponed .body none (repeatedStatement g)) "do"
      expectWord "while"
      let test ← condition g
      let _ ← eatSymbol ";"
      return some [test, body]
  | "for" => do
      advance
      return some (← forRest g)
  | "if" => do
      advance
      let test ← condition g
      let yes ← governedStatement g
      if ← eatWord "else" then
        return some [test, yes, ← governedStatement g]
      return some [test, yes]
  | "return" => do
      advance
      if ← eatSemicolon then return some []
      let value ← enclosedExpression g
      semicolon
      return some [.expr value.expr]
  | "switch" => do
      advance
      return some (← switchRest g)
  | "throw" => do
      advance
      if (← state).newline then fail "an expression on the same line"
      let value ← enclosedExpression g
      semicolon
      return some [.expr value.expr]
  | "try" => do
      advance
      return some (← tryRest g)
  | "while" | "with" => do
      advance
      let test ← condition g
      return some [test, ← governedStatement g]
  | _ => return none

/-- An expression, or a label and the statement it names. -/
def labelledOrExpression (g : Grammar) : Parser (List Part) := do
  let current ← state
  if current.token.isIdentifier && (← peek).token.isSymbol ":" then
    advance
    advance
    return [← governedStatement g]
  expressionStatement g

/-- A statement that starts with a keyword of its own. -/
def startedByKeyword? (g : Grammar) : Parser (Option (List Part)) := do
  match (← state).token with
  | .word keyword true => keywordStatement? g keyword
  | _ => return none

/-- What a statement holds. -/
def statementParts (g : Grammar) : Parser (List Part) := do
  if ← eatSymbol ";" then return []
  if ← atSymbol "\x7b" then return ← within Surroundings.enclosed (block g)
  orElse (startedByKeyword? g)
    (orElse (within Surroundings.enclosed (declaration? g)) (labelledOrExpression g))

def statementBody (g : Grammar) : Parser Part := do
  let start ← start
  let parts ← statementParts g
  return .plain .statement (← rangeFrom start) parts

end Parser

end Untranslated.Syntax
