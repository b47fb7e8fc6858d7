import Untranslated.Syntax.Entity
import Untranslated.Syntax.Parser.Literals

/-!
# JSX

Elements and fragments.  The text between tags is not made of tokens, so an element is read up to
its last `>`, which stays the current token: only the surroundings know whether tokens or more
text follow.
-/

namespace Untranslated.Syntax

namespace Parser

/-- Makes the first `>` of the current token the whole token. -/
def closeAngle : Parser Unit where
  run _ state :=
    match state.token with
    | .punctuator symbol =>
        if symbol.startsWith ">" then
          .ok ((), { state with
            token := .punctuator ">", after := state.cursor.skip,
            leads := state.cursor.leads_skip, start_lt_after := nofun, word_isPrefix := nofun })
        else .error ⟨state.start, ">"⟩
    | _ => .error ⟨state.start, ">"⟩
  ahead := by
    intro context before after value hrun
    split at hrun
    · split at hrun
      · cases hrun
        exact State.ahead_of_list_eq (.refl _) rfl fun hsettled =>
          ⟨hsettled.last, hsettled.stop_le⟩
      · cases hrun
    · cases hrun

/-- A character of a name in a tag. -/
def isMarkupWordPart (char : Char) : Bool := isIdentifierPart char || char == '-'

/-- A name in a tag, which may hold hyphens. -/
def markupWord : Parser String :=
  readText
    (fun state =>
      if state.token.isAnyWord then
        .ok (String.ofList (state.here.takeWhile isMarkupWordPart),
          state.cursor.skipWhile isMarkupWordPart)
      else .error "a name")
    (by
      intro state _ _ hread
      split at hread
      · cases hread
        exact state.cursor.leads_skipWhile isMarkupWordPart
      · cases hread)

/-- The name of an element: a word, a namespace and a word, or words with dots. -/
def elementName : Parser String := do
  let first ← markupWord
  if ← eatSymbol ":" then
    return first ++ ":" ++ (← markupWord)
  loop first fun name => do
    if ← eatSymbol "." then
      return .inl (name ++ "." ++ (← markupWord))
    return .inr name

def attributeName : Parser String := do
  let first ← markupWord
  if ← eatSymbol ":" then
    return first ++ ":" ++ (← markupWord)
  return first

/-- A quoted attribute value; it ends at the next quote of its kind, whatever stands between. -/
def quotedAttribute (quote : Char) : Parser Expr := do
  let (range, raw) ← readLiteral .attributeValue fun state =>
    let opening := state.cursor.skip
    let closing := opening.skipWhile (· != quote)
    have hleads : state.cursor.Leads closing :=
      state.cursor.leads_skip.trans (opening.leads_skipWhile _)
    match hrest : closing.rest with
    | [] => .error "a closing quote"
    | _ :: _ =>
        .ok (opening.rest.takeWhile (· != quote), .quoted closing.skip
          (hleads.trans closing.leads_skip)
          (Nat.lt_of_le_of_lt hleads.offset_le (Cursor.offset_lt_skip hrest)))
  return .string range (decodeAttribute raw)

/-- The value of an attribute after its equals sign. -/
def attributeValue (g : Grammar) : Parser Part := do
  let current ← state
  match current.here with
  | '"' :: _ => return .expr (← quotedAttribute '"')
  | '\'' :: _ => return .expr (← quotedAttribute '\'')
  | _ =>
      if ← eatSymbol "\x7b" then
        let value ← enclosedExpression g
        expectSymbol "\x7d"
        return .plain .container (← rangeFrom current.start) [.expr value.expr]
      if ← atSymbol "<" then
        let element ← g.markup
        advance
        return .expr element
      fail "an attribute value"

/-- An attribute, or an object whose properties become attributes. -/
def elementAttribute (g : Grammar) : Parser Part := do
  let start ← start
  if ← eatSymbol "\x7b" then
    expectSymbol "..."
    let value ← within Surroundings.enclosed g.assignment
    expectSymbol "\x7d"
    return .expr value.expr
  let name ← attributeName
  let value ←
    if ← eatSymbol "=" then do
      let value ← attributeValue g
      pure [value]
    else pure []
  return .attribute (← rangeFrom start) name value

/-- Attributes up to the end of the opening tag. -/
def attributes (g : Grammar) : Parser (List Part) :=
  loop ([] : List Part) fun parts => do
    let token := (← state).token
    if token.isAnyWord || token.isSymbol "\x7b" then
      return .inl (parts ++ [← elementAttribute g])
    return .inr parts

/-- What stands between braces in an element: nothing, an expression, or the children that an
expression gives. -/
def container (g : Grammar) : Parser Part := do
  let start ← start
  expectSymbol "\x7b"
  let range : Parser Range := do
    let current ← state
    unless current.token.isSymbol "\x7d" do fail "a closing brace"
    return ⟨start, current.after.offset⟩
  if ← eatSymbol "..." then
    let value ← enclosedExpression g
    let _ ← range
    return .expr value.expr
  if ← atSymbol "\x7d" then
    return .plain .container (← range) []
  let value ← enclosedExpression g
  return .plain .container (← range) [.expr value.expr]

/-- The name in a closing tag, from its `<` on; the closing `>` becomes the current token. -/
def closingTag : Parser String := do
  expectSymbol "<"
  expectSymbol "/"
  let name ← if (← state).token.isAnyWord then elementName else pure ""
  closeAngle
  return name

/-- A character of text between tags. -/
def isChildText (char : Char) : Bool := char != '{' && char != '<'

/-- The text after the current token up to the next tag or brace. -/
def childStretch (state : State) : Stretch .markupText state.cursor where
  opening := state.after
  closing := state.after.skipWhile isChildText
  after := state.after.skipWhile isChildText
  leads_opening := state.leads
  leads_closing := state.after.leads_skipWhile isChildText
  leads_after := .refl _
  start_lt_stop := nofun

/-- Reads the text after the current token up to the next tag or brace, and no token after it. -/
def childText : Parser Part where
  run _ state :=
    let raw := state.after.rest.takeWhile isChildText
    .ok (.text (childStretch state).range (decodeMarkupText raw),
      state.standPast (childStretch state))
  ahead := by
    rintro _ before _ _ ⟨⟩
    exact before.ahead_standPast _

/-- One more child, or the closing tag, which must have the given name. -/
def childOrEnd (g : Grammar) (name : String) (parts : List Part) :
    Parser (List Part ⊕ List Part) := do
  match (← state).after.rest with
  | [] => fail "a closing tag"
  | '{' :: _ =>
      advance
      return .inl (parts ++ [← container g])
  | '<' :: _ =>
      advance
      if (← peek).token.isSymbol "/" then
        let found ← closingTag
        unless found == name do fail ("a closing tag for " ++ name)
        return .inr parts
      let element ← g.markup
      return .inl (parts ++ [.expr element])
  | _ => return .inl (parts ++ [← childText])

/-- Children up to the closing tag, which must have the given name. -/
def children (g : Grammar) (name : String) : Parser (List Part) :=
  loop ([] : List Part) (childOrEnd g name)

/-- The range from an offset to the end of the current token. -/
def rangeThrough (start : Nat) : Parser Range := do
  return ⟨start, (← state).after.offset⟩

/-- An element or a fragment from its opening `<` on. -/
def markupBody (g : Grammar) : Parser Expr := do
  let start ← start
  expectSymbol "<"
  if (← state).token.isAnyWord then
    let name ← elementName
    let generics ← postponed .types [] (instantiation? g)
    let attributes ← attributes g
    if ← eatSymbol "/" then
      closeAngle
      return .markup (← rangeThrough start) (attributes ++ generics)
    closeAngle
    let children ← children g name
    return .markup (← rangeThrough start) (attributes ++ generics ++ children)
  else
    closeAngle
    let children ← children g ""
    return .markup (← rangeThrough start) children

end Parser

end Untranslated.Syntax
