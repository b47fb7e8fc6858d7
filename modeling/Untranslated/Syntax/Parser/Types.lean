import Untranslated.Syntax.Parser.Patterns

/-!
# Types

Types make no nodes, with two exceptions: the member names of interfaces and type literals are
expressions, and so are the attributes of an imported type.  A parser here gives those.
-/

namespace Untranslated.Syntax

namespace Parser

/-- Reads items up to the closing symbol, which is read too; commas divide the items and one may
follow the last. -/
def commaList (close : String) (item : Parser (List Part)) : Parser (List Part) :=
  loop ([] : List Part) fun parts => do
    if ← eatSplit close then return .inr parts
    let next ← item
    unless (← atSymbol ",") do
      expectSplit close
      return .inr (parts ++ next)
    advance
    return .inl (parts ++ next)

/-- `<`, types, `>`. -/
def typeArguments (g : Grammar) : Parser (List Part) := do
  expectSplit "<"
  commaList ">" (within Surroundings.enclosed g.type)

/-- Type arguments if a `<` comes next on the same line. -/
def typeArguments? (g : Grammar) : Parser (List Part) := do
  let state ← state
  if !state.newline && (state.token.isSymbol "<" || state.token.isSymbol "<<") then typeArguments g
  else return []

/-- Type arguments, if they come next and the dialect has types. -/
def instantiation? (g : Grammar) : Parser (List Part) := do
  if ← typescript then typeArguments? g else return []

/-- A type parameter with its bound and default. -/
def typeParameter (g : Grammar) : Parser (List Part) := do
  loop () fun _ => do
    let next ← peek
    if (← atWordIn ["const", "in", "out"]) && next.token.isAnyWord &&
        !next.token.isWord "extends" then
      advance
      return .inl ()
    return .inr ()
  let _ ← anyWord
  let bound ← if ← eatWord "extends" then g.type else pure []
  let default ← if ← eatSymbol "=" then g.type else pure []
  return bound ++ default

/-- Type parameters in angle brackets; the list must not be empty. -/
def typeParameters (g : Grammar) : Parser (List Part) := do
  expectSplit "<"
  if (← state).token.isSymbol ">" then fail "a type parameter"
  commaList ">" (within Surroundings.enclosed
    (typeParameter g))

def typeParameters? (g : Grammar) : Parser (List Part) := do
  if (← typescript) && (← atSymbol "<") then typeParameters g else return []

/-- A name with dots. -/
def entityName : Parser Unit := do
  let _ ← anyWord
  loop () fun _ => do
    if ← atSymbol "." then
      advance
      let _ ← anyWord
      return .inl ()
    return .inr ()

/-- What a function may return: a type, or a predicate on a parameter. -/
def returnType (g : Grammar) : Parser (List Part) := do
  let next ← peek
  if (← atWord "asserts") && next.token.isAnyWord && !next.newline && !next.token.isWord "is" then
    advance
    advance
    if ← eatWord "is" then g.type else return []
  else if (← state).token.isAnyWord && next.token.isWord "is" && !next.newline then
    advance
    advance
    g.type
  else g.type

/-- `: type` after parameters, if it comes next. -/
def returnAnnotation? (g : Grammar) : Parser (List Part) := do
  if (← typescript) && (← atSymbol ":") then
    advance
    within Surroundings.enclosed (returnType g)
  else return []

/-- The type of a function after its type parameters: parameters, `=>`, result. -/
def functionTypeRest (g : Grammar) (generics : List Part) : Parser (List Part) := do
  let params ← parameters g
  expectSymbol "=>"
  let result ← returnType g
  return params ++ generics ++ result

/-- A function or constructor type with its type parameters. -/
def functionType (g : Grammar) : Parser (List Part) := do
  let generics ← postponed .types [] (typeParameters? g)
  functionTypeRest g generics

/-- Ends a member of a type: a semicolon, a comma, or a line break. -/
def typeMemberEnd : Parser Unit := do
  unless ← eatSymbol "," do
    unless ← eatSemicolon do fail ";"

/-- Parameters and result of a member of a type. -/
def signatureRest (g : Grammar) : Parser (List Part) := do
  let generics ← postponed .types [] (typeParameters? g)
  let params ← parameters g
  let result ← returnAnnotation? g
  return params ++ result ++ generics

/-- `[name: type]: type`. -/
def indexSignature (g : Grammar) : Parser (List Part) := do
  expectSymbol "["
  let _ ← anyWord
  let key ← typeAnnotation? g
  expectSymbol "]"
  return key ++ (← typeAnnotation? g)

/-- The text at the current `[` starts an index signature. -/
def atIndexSignature : Parser Bool := do
  let next ← peek
  let second ← peekTwo
  return (← atSymbol "[") && next.token.isAnyWord && second.token.isSymbol ":"

/-- A word is a modifier if a property name follows it. -/
def atModifier (names : List String) : Parser Bool := do
  let next ← peek
  return (← atWordIn names) && !next.newline && next.token.startsPropertyName

/-- The name of a member of an interface or a type literal, as the expression that it is. -/
def memberName (g : Grammar) : Parser Expr := do
  let start ← start
  match (← state).token with
  | .word name _ =>
      advance
      return .identifier (← rangeFrom start) name
  | .string _ =>
      let (range, codes) ← stringLiteral .memberName
      return .string range (decodeLossy codes)
  | .number | .privateName =>
      advance
      return .other (← rangeFrom start) []
  | .punctuator "[" => computedName g
  | _ => fail "a property name"

/-- A property or a method of an interface or a type literal. -/
def namedMember (g : Grammar) : Parser (List Part) := do
  if ← atModifier ["get", "set"] then advance
  let name ← memberName g
  let _ ← eatSymbol "?"
  let rest ← if ← atSymbolIn ["(", "<"] then signatureRest g else typeAnnotation? g
  return .expr name :: rest

/-- A member of an interface or a type literal. -/
def typeMember (g : Grammar) : Parser (List Part) := do
  let next ← peek
  if ← atSymbolIn ["(", "<"] then signatureRest g
  else if (← atWord "new") && next.token.isSymbolIn ["(", "<"] then
    advance
    signatureRest g
  else
    loop () fun _ => do
      if ← atModifier ["readonly", "static"] then
        advance
        return .inl ()
      return .inr ()
    if ← atIndexSignature then indexSignature g else namedMember g

/-- The members between braces. -/
def typeMembers (g : Grammar) : Parser (List Part) := do
  expectSymbol "\x7b"
  loop ([] : List Part) fun parts => do
    if ← eatSymbol "\x7d" then return .inr parts
    let member ← typeMember g
    typeMemberEnd
    return .inl (parts ++ member)

/-- Reads a mapped type up to the word `in`. -/
def mappedTypeHead : Parser Unit := do
  expectSymbol "\x7b"
  if ← atSymbolIn ["+", "-"] then
    advance
    expectWord "readonly"
  else
    let _ ← eatWord "readonly"
  expectSymbol "["
  let _ ← anyWord
  expectWord "in"

/-- `{ [Name in Keys as Renamed]?: Type }`. -/
def mappedType (g : Grammar) : Parser (List Part) := do
  mappedTypeHead
  let keys ← g.type
  let renamed ← if ← eatWord "as" then g.type else pure []
  expectSymbol "]"
  if ← atSymbolIn ["+", "-"] then
    advance
    expectSymbol "?"
  else
    let _ ← eatSymbol "?"
  let value ← typeAnnotation? g
  let _ ← eatSemicolon
  expectSymbol "\x7d"
  return keys ++ renamed ++ value

/-- An element of a tuple type, which may have a name. -/
def tupleElement (g : Grammar) : Parser (List Part) := do
  let _ ← eatSymbol "..."
  let next ← peek
  let second ← peekTwo
  if (← state).token.isAnyWord &&
      (next.token.isSymbol ":" || (next.token.isSymbol "?" && second.token.isSymbol ":")) then
    advance
    let _ ← eatSymbol "?"
    expectSymbol ":"
  let type ← g.type
  let _ ← eatSymbol "?"
  return type

/-- The attributes of an imported type: an object of objects, whose properties are visited. -/
def importAttributes (g : Grammar) : Parser (List Part) := do
  expectSymbol "\x7b"
  let _ ← anyWord
  expectSymbol ":"
  let value ← within (fun around => { around with stringUse := .typeAttribute }) g.assignment
  let _ ← eatSymbol ","
  expectSymbol "\x7d"
  return value.expr.objectParts

/-- The attributes of an imported type after the name of the module, if there are any. -/
def importAttributes? (g : Grammar) : Parser (List Part) := do
  if ← eatSymbol "," then
    if ← atSymbol ")" then return []
    let attributes ← importAttributes g
    let _ ← eatSymbol ","
    return attributes
  return []

/-- `import('module').Name<Arguments>`. -/
def importType (g : Grammar) : Parser (List Part) := do
  expectWord "import"
  expectSymbol "("
  let _ ← stringLiteral .moduleName
  let attributes ← postponed .types [] (importAttributes? g)
  expectSymbol ")"
  if ← eatSymbol "." then entityName
  return (← typeArguments? g) ++ attributes

/-- Template text up to a substitution or the closing backquote: the text, where it ends, and
whether a substitution follows.  The characters already read are in `seen`, last one first. -/
def templateText : Text → Nat → Text → Option (Text × Cursor × Bool)
  | [], _, _ => none
  | '`' :: chars, offset, seen => some (seen.reverse, ⟨'`' :: chars, offset⟩, false)
  | '$' :: '{' :: chars, offset, seen => some (seen.reverse, ⟨'$' :: '{' :: chars, offset⟩, true)
  | '\\' :: char :: chars, offset, seen =>
      templateText chars (offset + 1 + char.utf8Size) (char :: '\\' :: seen)
  | char :: chars, offset, seen => templateText chars (offset + char.utf8Size) (char :: seen)

theorem passes_templateText {text seen raw : Text} {offset : Nat} {closing : Cursor} {more : Bool}
    (hread : templateText text offset seen = some (raw, closing, more)) :
    ∃ passed, raw = seen.reverse ++ passed ∧ Cursor.Passes ⟨text, offset⟩ passed closing := by
  fun_induction templateText text offset seen with
  | case1 => cases hread
  | case2 | case3 =>
      cases hread
      exact ⟨[], (List.append_nil _).symm, .refl _⟩
  | case4 char chars offset seen ih =>
      obtain ⟨passed, rfl, hpasses⟩ := ih hread
      exact ⟨'\\' :: char :: passed, by simp, hpasses.cons.cons⟩
  | case5 char chars offset seen _ _ _ ih =>
      obtain ⟨passed, rfl, hpasses⟩ := ih hread
      exact ⟨char :: passed, by simp, hpasses.cons⟩

theorem passes_of_templateText {text raw : Text} {offset : Nat} {closing : Cursor} {more : Bool}
    (hread : templateText text offset [] = some (raw, closing, more)) :
    Cursor.Passes ⟨text, offset⟩ raw closing := by
  obtain ⟨passed, rfl, hpasses⟩ := passes_templateText hread
  exact hpasses

/-- A template segment after the current token, and whether a substitution follows it.  Illegal
escapes are refused unless `tagged`. -/
def templateSegment (tagged : Bool) : Parser (Segment × Bool) := do
  let (range, raw, more) ← readLiteral .segment fun state =>
    match htext : templateText state.after.rest state.after.offset [] with
    | none => .error "a closing backquote"
    | some (raw, closing, more) =>
        if tagged || (cook? raw).isSome then
          .ok ((raw, more), {
            opening := state.after
            closing
            after := closing.skipMany (if more then 2 else 1)
            leads_opening := state.leads
            leads_closing := ⟨raw, passes_of_templateText htext⟩
            leads_after := closing.leads_skipMany _
            start_lt_stop := nofun })
        else .error "a legal escape"
  return (⟨range, raw⟩, more)

/-- A template literal type, from its backquote on. -/
def templateType (g : Grammar) : Parser (List Part) :=
  loop ([] : List Part) fun parts => do
    let (_, more) ← templateSegment true
    if more then
      let type ← g.type
      unless ← atSymbol "\x7d" do fail "a closing brace"
      return .inl (parts ++ type)
    return .inr parts

def numberToken : Parser Unit := do
  match (← state).token with
  | .number => advance
  | _ => fail "a number"

/-- A type that no operator splits. -/
def primaryType (g : Grammar) : Parser (List Part) := do
  let current ← state
  match current.token with
  | .punctuator "(" =>
      advance
      let type ← within Surroundings.enclosed g.type
      expectSymbol ")"
      return type
  | .punctuator "[" =>
      advance
      commaList "]" (within Surroundings.enclosed (tupleElement g))
  | .punctuator "\x7b" =>
      within Surroundings.enclosed (do
        if ← lookAhead mappedTypeHead then mappedType g else typeMembers g)
  | .punctuator "`" => within Surroundings.enclosed (templateType g)
  | .punctuator "-" =>
      advance
      numberToken
      return []
  | .string _ =>
      let _ ← stringLiteral .literalType
      return []
  | .number =>
      advance
      return []
  | .word "typeof" true =>
      advance
      if ← atWord "import" then importType g
      else
        entityName
        typeArguments? g
  | .word "import" true => importType g
  | .word name plain =>
      if plain && Token.reservedWords.contains name &&
          !(["this", "void", "null", "true", "false"].contains name) then fail "a type"
      entityName
      typeArguments? g
  | _ => fail "a type"

/-- A type followed by brackets: an array of it, or the type of one of its members. -/
def arrayType (g : Grammar) : Parser (List Part) := do
  let element ← primaryType g
  loop element fun parts => do
    if (← atSymbol "[") && !(← state).newline then
      advance
      if ← eatSymbol "]" then return .inl parts
      let index ← within Surroundings.enclosed g.type
      expectSymbol "]"
      return .inl (parts ++ index)
    return .inr parts

/-- `infer Name extends Bound`: the bound belongs to it unless a conditional type follows. -/
def inferType (g : Grammar) : Parser (List Part) := do
  expectWord "infer"
  let _ ← anyWord
  if ← atWord "extends" then
    let bound ← attempt? (do
      advance
      let bound ← within (fun around => { around with conditionalTypes := false }) g.type
      if (← context).conditionalTypes && (← atSymbol "?") then return none
      return some bound)
    return bound.getD []
  return []

def operatorType (g : Grammar) : Parser (List Part) := do
  let next ← peek
  let followed := next.token.isAnyWord || next.token.isSymbolIn ["(", "[", "\x7b", "`"] ||
    (match next.token with | .string _ => true | _ => false)
  if (← atWordIn ["keyof", "unique", "readonly"]) && followed then
    advance
    g.typeOperator
  else if (← atWord "infer") && next.token.isAnyWord then inferType g
  else arrayType g

/-- Types divided by an operator, which may also stand before the first. -/
def typesDividedBy (operator : String) (operand : Parser (List Part)) : Parser (List Part) := do
  let _ ← eatSymbol operator
  let first ← operand
  loop first fun parts => do
    if ← eatSymbol operator then
      return .inl (parts ++ (← operand))
    return .inr parts

def unionType (g : Grammar) : Parser (List Part) :=
  typesDividedBy "|" (typesDividedBy "&" g.typeOperator)

/-- A function type in parentheses and a parenthesised type start alike; what follows decides. -/
def functionType? (g : Grammar) : Parser (Option (List Part)) := do
  let next ← peek
  if ← atSymbol "<" then return some (← functionType g)
  else if ← atSymbol "(" then attempt (functionTypeRest g [])
  else if ← atWord "new" then
    advance
    return some (← functionType g)
  else if (← atWord "abstract") && next.token.isWord "new" then
    advance
    advance
    return some (← functionType g)
  else return none

/-- A type that is no function type. -/
def conditionalType (g : Grammar) : Parser (List Part) := do
  let check ← unionType g
  if (← context).conditionalTypes && (← atWord "extends") && !(← state).newline then
    advance
    let bound ← within (fun around => { around with conditionalTypes := false }) g.type
    expectSymbol "?"
    let yes ← g.type
    expectSymbol ":"
    let no ← g.type
    return check ++ bound ++ yes ++ no
  return check

/-- A type. -/
def typeBody (g : Grammar) : Parser (List Part) := orElse (functionType? g) (conditionalType g)

end Parser

end Untranslated.Syntax
