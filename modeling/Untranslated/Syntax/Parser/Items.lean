import Untranslated.Syntax.Parser.Statements
import Untranslated.Syntax.Parser.Expressions

/-!
# Module items

Imports, exports, and statements at the level of a module.
-/

namespace Untranslated.Syntax

namespace Parser

/-- A string literal, as the text it denotes. -/
def stringText (use : TextUse) : Parser String := do
  let (_, codes) ← stringLiteral use
  return String.ofList (decodeLossy codes)

def moduleName : Parser String := stringText .moduleName

/-- A name in an import or export list: a word or a string. -/
def exportName : Parser String := do
  match (← state).token with
  | .word name _ =>
      advance
      return name
  | _ => stringText .exportName

/-- `with { … }` after a module name; gives its properties.  The strings in it are read as what
`use` says. -/
def moduleAttributes (g : Grammar) (use : TextUse) : Parser (List Part) := do
  let current ← state
  if (← typescript) && !current.newline && current.token.isWordIn ["with", "assert"] then
    advance
    let attributes ← within (fun around => { around with stringUse := use }) (objectLiteral g)
    return attributes.expr.objectParts
  return []

/-- Reads the word `type` before a specifier, unless it is the name that is specified: of
`type as as as` it is the modifier and of `type as as` the name. -/
def eatTypeModifier : Parser Unit := do
  if (← typescript) && (← atWord "type") then
    let isEnd (state : State) : Bool := state.token.isSymbolIn [",", "\x7d"]
    let next ← peek
    let second ← peekTwo
    let third ← peekThree
    let isName := isEnd next || (next.token.isWord "as" && !isEnd second &&
      (!second.token.isWord "as" || isEnd third))
    unless isName do advance

/-- One name of an import list: `imported as name`, or a name alone. -/
def importSpecifier : Parser ImportSpecifier := do
  eatTypeModifier
  let token := (← state).token
  let imported ← exportName
  if ← eatWord "as" then
    return .named (← identifier) imported
  unless token.isIdentifier do fail "as"
  return .named imported imported

/-- Names in braces. -/
def importList : Parser (List ImportSpecifier) := do
  expectSymbol "\x7b"
  loop ([] : List ImportSpecifier) fun specifiers => do
    if ← eatSymbol "\x7d" then return .inr specifiers
    let specifier ← importSpecifier
    unless ← atSymbol "\x7d" do expectSymbol ","
    return .inl (specifiers ++ [specifier])

/-- A whole module or a list of names. -/
def importNames : Parser (List ImportSpecifier) := do
  if ← eatSymbol "*" then
    expectWord "as"
    return [.wholeModule (← identifier)]
  importList

/-- What an import declaration binds, up to the word `from`. -/
def importClause : Parser (List ImportSpecifier) := do
  if ← atIdentifier then
    let name ← identifier
    if ← eatSymbol "," then
      return .default name :: (← importNames)
    return [.default name]
  importNames

/-- `require('module')` or a name with dots, after `import Name =`. -/
def importAliasRest : Parser Unit := do
  if (← atWord "require") && (← peek).token.isSymbol "(" then
    advance
    advance
    let _ ← moduleName
    expectSymbol ")"
  else entityName
  semicolon

/-- The word after `import` is a modifier, and not the name that is imported. -/
def atImportModifier (names : List String) : Parser Bool := do
  let next ← peek
  let second ← peekTwo
  return (← atWordIn names) && (next.token.isSymbolIn ["\x7b", "*"] ||
    (next.token.isIdentifier && (!next.token.isWord "from" || second.token.isWord "from" ||
      second.token.isSymbol "=")))

/-- Reads the word `type` after `import`, which makes the whole import one of types. -/
def eatTypeImport : Parser Unit := do
  if (← typescript) && (← atImportModifier ["type"]) then advance

/-- Reads the phase up to which a module is imported. -/
def eatImportPhase : Parser Unit := do
  if ← atImportModifier ["defer", "source"] then advance

/-- What an import declaration binds, up to the module name; it may bind nothing. -/
def importClause? : Parser (List ImportSpecifier) := do
  match (← state).token with
  | .string _ => return []
  | _ =>
      let specifiers ← importClause
      expectWord "from"
      return specifiers

/-- An import declaration, or the alias of a namespace. -/
def importItem (g : Grammar) : Parser Part := do
  let start ← start
  expectWord "import"
  eatTypeImport
  if (← typescript) && (← atIdentifier) && (← peek).token.isSymbol "=" then
    advance
    advance
    importAliasRest
    return .plain .item (← rangeFrom start) []
  eatImportPhase
  let specifiers ← importClause?
  let source ← moduleName
  let _ ← moduleAttributes g .importAttribute
  semicolon
  return .imports (← rangeFrom start) ⟨source, specifiers⟩

/-- Exported names in braces; tells whether each of them can be a name of this module. -/
def exportList : Parser Bool := do
  expectSymbol "\x7b"
  loop true fun isLocal => do
    if ← eatSymbol "\x7d" then return .inr isLocal
    eatTypeModifier
    let isName ← atIdentifier
    let _ ← exportName
    if ← eatWord "as" then
      let _ ← exportName
    unless ← atSymbol "\x7d" do expectSymbol ","
    return .inl (isLocal && isName)

/-- What is exported by default. -/
def defaultExport (g : Grammar) : Parser (List Part) := do
  let next ← peek
  let types ← typescript
  if ← atAsyncFunction then
    advance
    advance
    return ← functionAfterKeyword g false
  if ← eatWord "function" then return ← functionAfterKeyword g false
  if ← eatWord "class" then return ← classAfterKeyword g false
  if types && (← atWord "abstract") && next.token.isWord "class" && !next.newline then
    advance
    advance
    return ← classAfterKeyword g false
  if types && (← atWord "interface") && next.token.isIdentifier && !next.newline then
    advance
    return ← interfaceRest g
  let value ← within Surroundings.enclosed g.assignment
  semicolon
  return [.expr value.expr]

/-- Names that are exported again from another module, or a list of names. -/
def exportedNames (g : Grammar) : Parser (List Part) := do
  let fromModule : Parser (List Part) := do
    expectWord "from"
    let _ ← moduleName
    moduleAttributes g .exportAttribute
  let attributes ←
    if ← eatSymbol "*" then do
      if ← eatWord "as" then
        let _ ← exportName
      fromModule
    else do
      let isLocal ← exportList
      if ← atWord "from" then fromModule
      else if isLocal then pure []
      else fail "from"
  semicolon
  return attributes

/-- What an export declaration holds. -/
def exportParts (g : Grammar) : Parser (List Part) := do
  let next ← peek
  if ← typescript then
    if ← eatSymbol "=" then
      let value ← enclosedExpression g
      semicolon
      return [.expr value.expr]
    if (← atWord "as") && next.token.isWord "namespace" then
      advance
      advance
      let _ ← identifier
      semicolon
      return []
    if ← eatWord "import" then
      eatTypeImport
      let _ ← identifier
      expectSymbol "="
      importAliasRest
      return []
    if (← atWord "type") && next.token.isSymbolIn ["\x7b", "*"] then advance
  if ← atSymbolIn ["*", "\x7b"] then return ← exportedNames g
  if ← eatWord "default" then return ← defaultExport g
  orElse (within Surroundings.enclosed (declaration? g)) (fail "a declaration")

/-- An item of a module. -/
def itemBody (g : Grammar) : Parser Part := do
  let start ← start
  let next ← peek
  if (← atWord "import") && !next.token.isSymbolIn ["(", "."] then return ← importItem g
  if ← eatWord "export" then
    let parts ← exportParts g
    return .plain .item (← rangeFrom start) parts
  let statement ← g.statement
  return .plain .item (← rangeFrom start) [statement]

end Parser

end Untranslated.Syntax
