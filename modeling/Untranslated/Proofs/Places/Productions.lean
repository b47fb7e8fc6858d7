import Untranslated.Proofs.Places.Parsers

/-!
# The productions account for literal texts

Every production of the grammar accounts for the literal texts in what it gives, as long as the
productions that it refers to do; so does the whole grammar, by induction on its depth.  Types are
read only where there are types.  A production that is handed values lists their texts before those
that it reads itself, so these values have to follow what is given to it.
-/

namespace Untranslated.Syntax

namespace Parser

-- Instances are looked for in whole productions, which takes more steps than is usual.
set_option synthInstance.maxSize 100000

/-- The productions of a grammar account for literal texts, in every dialect that they read. -/
class AccountsGrammar (ledger : Ledger) (g : Grammar) : Prop where
  assignment : ∀ dialect, Accounts dialect ledger [] g.assignment
  unary : ∀ dialect, Accounts dialect ledger [] g.unary
  operators : ∀ dialect given (left : Operand) (level : Nat) [Listed ledger given left],
    Accounts dialect ledger given (g.operators left level)
  memberOrNew : ∀ dialect, Accounts dialect ledger [] g.memberOrNew
  leftHandSide : ∀ dialect, Accounts dialect ledger [] g.leftHandSide
  markup : ∀ dialect, Accounts dialect ledger [] g.markup
  type : ∀ dialect [Typed dialect], Accounts dialect ledger [] g.type
  typeOperator : ∀ dialect [Typed dialect], Accounts dialect ledger [] g.typeOperator
  pattern : ∀ dialect, Accounts dialect ledger [] g.pattern
  statement : ∀ dialect, Accounts dialect ledger [] g.statement
  item : ∀ dialect, Accounts dialect ledger [] g.item

attribute [instance] AccountsGrammar.assignment AccountsGrammar.unary AccountsGrammar.operators
  AccountsGrammar.memberOrNew AccountsGrammar.leftHandSide AccountsGrammar.markup
  AccountsGrammar.type AccountsGrammar.typeOperator AccountsGrammar.pattern
  AccountsGrammar.statement AccountsGrammar.item

variable {dialect : Dialect} {ledger : Ledger} {given : List Reading} (g : Grammar)
  [AccountsGrammar ledger g]

/-! ## Patterns -/

instance : Accounts dialect ledger [] (computedName g) := by
  unfold computedName
  infer_instance

instance : Accounts dialect ledger [] (propertyName g) := by
  unfold propertyName
  refine .skip fun _ => ?_
  split <;> infer_instance

instance : Accounts dialect ledger [] (initializer? g) := by
  unfold initializer?
  infer_instance

instance : Accounts dialect ledger [] (typeAnnotation? g) := by
  unfold typeAnnotation?
  infer_instance

instance : Accounts dialect ledger [] (bindingElement g) := by
  unfold bindingElement
  infer_instance

instance : Accounts dialect ledger [] (arrayPatternRest g) := by
  unfold arrayPatternRest
  infer_instance

instance : Accounts dialect ledger [] (objectPatternProperty g) := by
  unfold objectPatternProperty
  infer_instance

instance : Accounts dialect ledger [] (objectPatternRest g) := by
  unfold objectPatternRest
  infer_instance

instance : Accounts dialect ledger [] (bindingPattern g) := by
  unfold bindingPattern
  infer_instance

instance : Accounts dialect ledger [] (parameter g) := by
  unfold parameter
  infer_instance

instance : Accounts dialect ledger [] (parameters g) := by
  unfold parameters
  infer_instance

/-! ## Types -/

instance (close : String) (item : Parser (List Part)) [Accounts dialect ledger [] item] :
    Accounts dialect ledger [] (commaList close item) := by
  unfold commaList
  infer_instance

instance [Typed dialect] : Accounts dialect ledger [] (typeArguments g) := by
  unfold typeArguments
  infer_instance

instance [Typed dialect] : Accounts dialect ledger [] (typeArguments? g) := by
  unfold typeArguments?
  infer_instance

instance : Accounts dialect ledger [] (instantiation? g) := by
  unfold instantiation?
  infer_instance

instance [Typed dialect] : Accounts dialect ledger [] (typeParameter g) := by
  unfold typeParameter
  infer_instance

instance [Typed dialect] : Accounts dialect ledger [] (typeParameters g) := by
  unfold typeParameters
  infer_instance

instance : Accounts dialect ledger [] (typeParameters? g) := by
  unfold typeParameters?
  infer_instance

instance [Typed dialect] : Accounts dialect ledger [] (returnType g) := by
  unfold returnType
  infer_instance

instance : Accounts dialect ledger [] (returnAnnotation? g) := by
  unfold returnAnnotation?
  infer_instance

instance (generics : List Part) (rest : List Reading) [Postpones ledger given generics rest]
    [Typed dialect] : Accounts dialect ledger given (functionTypeRest g generics) := by
  unfold functionTypeRest
  infer_instance

instance [Typed dialect] : Accounts dialect ledger [] (functionType g) := by
  unfold functionType
  infer_instance

instance [Typed dialect] : Accounts dialect ledger [] (signatureRest g) := by
  unfold signatureRest
  infer_instance

instance [Typed dialect] : Accounts dialect ledger [] (indexSignature g) := by
  unfold indexSignature
  infer_instance

instance [Typed dialect] : Accounts dialect ledger [] (memberName g) := by
  unfold memberName
  refine .skip fun _ => .skip fun _ => ?_
  split <;> infer_instance

instance [Typed dialect] : Accounts dialect ledger [] (namedMember g) := by
  unfold namedMember
  infer_instance

instance [Typed dialect] : Accounts dialect ledger [] (typeMember g) := by
  unfold typeMember
  infer_instance

instance [Typed dialect] : Accounts dialect ledger [] (typeMembers g) := by
  unfold typeMembers
  infer_instance

instance [Typed dialect] : Accounts dialect ledger [] (mappedType g) := by
  unfold mappedType
  infer_instance

instance [Typed dialect] : Accounts dialect ledger [] (tupleElement g) := by
  unfold tupleElement
  infer_instance

instance [Typed dialect] : Accounts dialect ledger [] (importAttributes g) := by
  unfold importAttributes
  infer_instance

instance [Typed dialect] : Accounts dialect ledger [] (importAttributes? g) := by
  unfold importAttributes?
  infer_instance

instance [Typed dialect] : Accounts dialect ledger [] (importType g) := by
  unfold importType
  infer_instance

instance (tagged : Bool) : Accounts dialect ledger [] (templateSegment tagged) := by
  refine ⟨fun hcontext hbefore hrun hread => ?_⟩
  obtain ⟨⟨range, raw, more⟩, between, hfound, hrest⟩ := run_bind hrun
  cases hrest
  obtain ⟨stretch, hstretch, rfl, hreading⟩ := run_readLiteral hfound
  rw [hread.unique hreading]
  have hslice : ledger.source.slice? stretch.range = some raw := by
    split at hstretch
    · cases hstretch
    · next htext =>
        split at hstretch
        · cases hstretch
          exact (passes_of_templateText htext).slice? (hbefore.trans (State.leads _))
        · cases hstretch
  have hcounts : ledger.counts stretch.reading.use = true := hcontext.counts .segment rfl
  have hpassage : stretch.reading.passage ledger.source =
      ⟨.segment, stretch.range, some raw⟩ := by
    rw [← hslice]
    rfl
  have hfollows := Ledger.follows_singleton hcounts
  rw [hpassage] at hfollows
  exact ⟨hfollows, Ledger.follows_nil _⟩

instance [Typed dialect] : Accounts dialect ledger [] (templateType g) := by
  unfold templateType
  infer_instance

instance [Typed dialect] : Accounts dialect ledger [] (primaryType g) := by
  unfold primaryType
  refine .skip fun _ => ?_
  split <;> infer_instance

instance [Typed dialect] : Accounts dialect ledger [] (arrayType g) := by
  unfold arrayType
  infer_instance

instance [Typed dialect] : Accounts dialect ledger [] (inferType g) := by
  unfold inferType
  infer_instance

instance [Typed dialect] : Accounts dialect ledger [] (operatorType g) := by
  unfold operatorType
  infer_instance

instance (operator : String) (operand : Parser (List Part)) [Accounts dialect ledger [] operand] :
    Accounts dialect ledger [] (typesDividedBy operator operand) := by
  unfold typesDividedBy
  infer_instance

instance [Typed dialect] : Accounts dialect ledger [] (unionType g) := by
  unfold unionType
  infer_instance

instance [Typed dialect] : Accounts dialect ledger [] (functionType? g) := by
  unfold functionType?
  infer_instance

instance [Typed dialect] : Accounts dialect ledger [] (conditionalType g) := by
  unfold conditionalType
  infer_instance

instance [Typed dialect] : Accounts dialect ledger [] (typeBody g) := by
  unfold typeBody
  infer_instance

/-! ## Literals -/

instance : Accounts dialect ledger [] (expression g) := by
  unfold expression
  infer_instance

instance : Accounts dialect ledger [] (enclosedExpression g) := by
  unfold enclosedExpression
  infer_instance

instance (tagged : Bool) : Accounts dialect ledger [] (template g tagged) := by
  unfold template
  infer_instance

instance : Accounts dialect ledger [] regularExpression := by
  unfold regularExpression
  infer_instance

/-! ## Functions and classes -/

instance : Accounts dialect ledger [] (statementsRest g) := by
  unfold statementsRest
  infer_instance

instance : Accounts dialect ledger [] (block g) := by
  unfold block
  infer_instance

instance (generator : Bool) : Accounts dialect ledger [] (functionBody g generator) := by
  unfold functionBody
  infer_instance

instance (generator : Bool) : Accounts dialect ledger [] (functionRest g generator) := by
  unfold functionRest
  infer_instance

instance (named : Bool) : Accounts dialect ledger [] (functionAfterKeyword g named) := by
  unfold functionAfterKeyword
  infer_instance

instance : Accounts dialect ledger [] (arrowBody g) := by
  unfold arrowBody
  infer_instance

instance : Accounts dialect ledger [] entityExpr := by
  unfold entityExpr
  infer_instance

instance [Typed dialect] : Accounts dialect ledger [] (heritage g) := by
  unfold heritage
  infer_instance

instance (key : PropertyName) : Accounts dialect ledger [] (fieldRest g key) := by
  unfold fieldRest
  infer_instance

instance : Accounts dialect ledger [] (classMember g) := by
  unfold classMember
  infer_instance

instance : Accounts dialect ledger [] (superclass g) := by
  unfold superclass
  infer_instance

instance : Accounts dialect ledger [] (implemented? g) := by
  unfold implemented?
  infer_instance

instance : Accounts dialect ledger [] (classMembers g) := by
  unfold classMembers
  infer_instance

instance (named : Bool) : Accounts dialect ledger [] (classAfterKeyword g named) := by
  unfold classAfterKeyword
  infer_instance

/-! ## Statements -/

instance (kind : VariableKind) (inHead : Bool) :
    Accounts dialect ledger [] (declarator g kind inHead) := by
  unfold declarator
  infer_instance

instance (kind : VariableKind) (inHead : Bool) :
    Accounts dialect ledger [] (declarators g kind inHead) := by
  unfold declarators
  infer_instance

instance (kind : VariableKind) : Accounts dialect ledger [] (variablesRest g kind) := by
  unfold variablesRest
  infer_instance

instance : Accounts dialect ledger [] (enumMembers g) := by
  unfold enumMembers
  infer_instance

instance [Typed dialect] : Accounts dialect ledger [] (interfaceRest g) := by
  unfold interfaceRest
  infer_instance

instance [Typed dialect] : Accounts dialect ledger [] (typeAliasRest g) := by
  unfold typeAliasRest
  infer_instance

instance : Accounts dialect ledger [] (namespaceBody g) := by
  unfold namespaceBody
  infer_instance

instance : Accounts dialect ledger [] (namespaceRest g) := by
  unfold namespaceRest
  refine .skip fun _ => ?_
  split <;> infer_instance

instance [Typed dialect] : Accounts dialect ledger [] (typeDeclaration? g) := by
  unfold typeDeclaration?
  infer_instance

instance : Accounts dialect ledger [] (variables? g) := by
  unfold variables?
  refine .skip fun _ => ?_
  split <;> infer_instance

instance : Accounts dialect ledger [] (valueDeclaration? g) := by
  unfold valueDeclaration?
  infer_instance

instance [Typed dialect] : Accounts dialect ledger [] (typedDeclaration? g) := by
  unfold typedDeclaration?
  refine .bind inferInstance fun read found hfound => ?_
  cases found with
  | some parts =>
      have := hfound.ofSome
      infer_instance
  | none => infer_instance

instance : Accounts dialect ledger [] (plainDeclaration? g) := by
  unfold plainDeclaration?
  infer_instance

instance : Accounts dialect ledger [] (declaration? g) := by
  unfold declaration?
  infer_instance

instance : Accounts dialect ledger [] (condition g) := by
  unfold condition
  infer_instance

instance : Accounts dialect ledger [] (forVariables? g) := by
  unfold forVariables?
  refine .skip fun _ => ?_
  split <;> infer_instance

instance : Accounts dialect ledger [] (forExpression g) := by
  unfold forExpression
  infer_instance

instance : Accounts dialect ledger [] (forInitial g) := by
  unfold forInitial
  infer_instance

instance (close : String) : Accounts dialect ledger [] (expressionBefore g close) := by
  unfold expressionBefore
  infer_instance

instance : Accounts dialect ledger [] (expressionStatement g) := by
  unfold expressionStatement
  infer_instance

instance : Accounts dialect ledger [] (governedStatement g) := by
  unfold governedStatement
  infer_instance

instance : Accounts dialect ledger [] (forRest g) := by
  unfold forRest
  infer_instance

instance : Accounts dialect ledger [] (caseBody g) := by
  unfold caseBody
  infer_instance

instance : Accounts dialect ledger [] (switchRest g) := by
  unfold switchRest
  infer_instance

instance : Accounts dialect ledger [] (tryRest g) := by
  unfold tryRest
  infer_instance

instance : Accounts dialect ledger [] (repeatedStatement g) := by
  unfold repeatedStatement
  infer_instance

instance (keyword : String) : Accounts dialect ledger [] (keywordStatement? g keyword) := by
  unfold keywordStatement?
  split <;> infer_instance

instance : Accounts dialect ledger [] (labelledOrExpression g) := by
  unfold labelledOrExpression
  infer_instance

instance : Accounts dialect ledger [] (startedByKeyword? g) := by
  unfold startedByKeyword?
  refine .skip fun _ => ?_
  split <;> infer_instance

instance : Accounts dialect ledger [] (statementParts g) := by
  unfold statementParts
  infer_instance

instance : Accounts dialect ledger [] (statementBody g) := by
  unfold statementBody
  infer_instance

/-! ## Expressions -/

instance (trailing : Bool) : Accounts dialect ledger [] (argumentList g trailing) := by
  unfold argumentList
  infer_instance

instance : Accounts dialect ledger [] (callArguments g) := by
  unfold callArguments
  infer_instance

instance : Accounts dialect ledger [] (arrayLiteral g) := by
  unfold arrayLiteral
  infer_instance

instance (key : PropertyName) (start : Nat) (generator : Bool) [Listed ledger given key] :
    Accounts dialect ledger given (methodRest g key start generator) := by
  refine .ofGiven ?_
  unfold methodRest
  infer_instance

instance (key : PropertyName) (start : Nat) [Listed ledger given key] :
    Accounts dialect ledger given (accessorRest g key start) := by
  refine .ofGiven ?_
  unfold accessorRest
  infer_instance

instance : Accounts dialect ledger [] (objectProperty g) := by
  unfold objectProperty
  infer_instance

instance : Accounts dialect ledger [] (objectLiteral g) := by
  unfold objectLiteral
  infer_instance

instance : Accounts dialect ledger [] (parenthesised g) := by
  unfold parenthesised
  infer_instance

instance (name : String) : Accounts dialect ledger [] (wordExpression g name) := by
  unfold wordExpression
  infer_instance

instance : Accounts dialect ledger [] (primary g) := by
  unfold primary
  refine .skip fun _ => ?_
  split <;> infer_instance

instance (start : Nat) (calls bare : Bool) (object : Expr) [Listed ledger given object]
    [Typed dialect] : Accounts dialect ledger given (genericAccess g start calls bare object) := by
  refine .ofGiven ?_
  unfold genericAccess
  infer_instance

instance (start : Nat) (object : Expr) [Listed ledger given object] :
    Accounts dialect ledger given (optionalAccess g start object) := by
  refine .ofGiven ?_
  unfold optionalAccess
  infer_instance

instance (start : Nat) (calls : Bool) (object : Operand) [Listed ledger given object] :
    Accounts dialect ledger given (plainAccess g start calls object) := by
  refine .ofGiven ?_
  unfold plainAccess
  refine .skip fun _ => ?_
  split <;> infer_instance

instance (start : Nat) (calls bare : Bool) (object : Operand) [Listed ledger given object] :
    Accounts dialect ledger given (access g start calls bare object) := by
  refine .ofGiven ?_
  unfold access
  infer_instance

instance (start : Nat) (calls bare : Bool) (object : Operand) [Listed ledger given object] :
    Accounts dialect ledger given (accesses g start calls bare object) := by
  refine .ofGiven ?_
  unfold accesses
  infer_instance

instance : Accounts dialect ledger [] (constructorTypes? g) := by
  unfold constructorTypes?
  infer_instance

instance : Accounts dialect ledger [] (newExpression g) := by
  unfold newExpression
  infer_instance

instance : Accounts dialect ledger [] (superExpression g) := by
  unfold superExpression
  infer_instance

instance : Accounts dialect ledger [] (importExpression g) := by
  unfold importExpression
  infer_instance

instance : Accounts dialect ledger [] (accessBase g) := by
  unfold accessBase
  infer_instance

instance : Accounts dialect ledger [] (memberOrNewBody g) := by
  unfold memberOrNewBody
  infer_instance

instance : Accounts dialect ledger [] (leftHandSideBody g) := by
  unfold leftHandSideBody
  infer_instance

instance : Accounts dialect ledger [] (markupExpression g) := by
  unfold markupExpression
  infer_instance

instance (start : Nat) (operand : Operand) [Listed ledger given operand] :
    Accounts dialect ledger given (postfixRest start operand) := by
  refine .ofGiven ?_
  unfold postfixRest
  infer_instance

instance [Typed dialect] : Accounts dialect ledger [] (assertedType g) := by
  unfold assertedType
  infer_instance

instance [Typed dialect] : Accounts dialect ledger [] (typeAssertion g) := by
  unfold typeAssertion
  infer_instance

instance : Accounts dialect ledger [] (unaryBody g) := by
  unfold unaryBody
  infer_instance

instance (level : Nat) (left : Operand) [Listed ledger given left] :
    Accounts dialect ledger given (binaryOperator g level left) := by
  refine .ofGiven ?_
  unfold binaryOperator
  refine .skip fun _ => ?_
  split <;> infer_instance

instance (left : Operand) (level : Nat) [Listed ledger given left] :
    Accounts dialect ledger given (operatorsBody g left level) := by
  refine .ofGiven ?_
  unfold operatorsBody
  infer_instance

instance (start : Nat) (test : Operand) [Listed ledger given test] :
    Accounts dialect ledger given (conditionalRest g start test) := by
  refine .ofGiven ?_
  unfold conditionalRest
  infer_instance

instance (start : Nat) (left : Operand) [Listed ledger given left] :
    Accounts dialect ledger given (assignmentRest g start left) := by
  refine .ofGiven ?_
  unfold assignmentRest
  infer_instance

instance (start : Nat) (first : Operand) [Listed ledger given first] :
    Accounts dialect ledger given (assignmentAfterUnary g start first) := by
  refine .ofGiven ?_
  unfold assignmentAfterUnary
  infer_instance

instance (start : Nat) (first : Operand) [Listed ledger given first] :
    Accounts dialect ledger given (assignmentAfterPrimary g start first) := by
  refine .ofGiven ?_
  unfold assignmentAfterPrimary
  infer_instance

instance : Accounts dialect ledger [] (yieldExpression g) := by
  unfold yieldExpression
  infer_instance

instance (start : Nat) (params generics result : List Part) (front back rest : List Reading)
    [Postpones ledger given result back] [Postpones ledger back generics front]
    [EndsWith ledger front params rest] :
    Accounts dialect ledger given (arrowRest g start params generics result) := by
  unfold arrowRest
  infer_instance

instance : Accounts dialect ledger [] (parenItem g) := by
  unfold parenItem
  infer_instance

instance : Accounts dialect ledger [] (parenItems g) := by
  unfold parenItems
  infer_instance

instance : Accounts dialect ledger [] (arrowResult? g) := by
  unfold arrowResult?
  infer_instance

instance (start : Nat) (exprs : List Expr) [hexprs : Listed ledger given exprs] :
    Accounts dialect ledger given (parenthesisedAll start exprs) := by
  unfold parenthesisedAll
  split
  · infer_instance
  · next expr =>
      have : Listed ledger given expr := hexprs.ofEq (List.append_nil _).symm
      have (range : Range) : Listed ledger given (Expr.paren range expr) := this.ofEq rfl
      infer_instance
  · next first rest _ =>
      have (range inner : Range) : Listed ledger given
          (Expr.paren range (Expr.other inner ((first :: rest).map Part.expr))) := by
        have hother : Listed ledger given (Expr.other inner ((first :: rest).map Part.expr)) :=
          Listed.other inferInstance inner
        exact hother.ofEq rfl
      infer_instance

instance (start : Nat) (items : List ParenItem) (comma : Bool) [Listed ledger given items] :
    Accounts dialect ledger given (parenExpression start items comma) := by
  refine .ofGiven ?_
  unfold parenExpression
  infer_instance

instance : Accounts dialect ledger [] (parenOrArrow g) := by
  unfold parenOrArrow
  refine .skip fun start => .bind inferInstance fun front found hfound => .skip fun arrow => ?_
  refine .bindPostponed inferInstance inferInstance fun back result? hresult => ?_
  cases result? with
  | some result =>
      have := hresult.ofSome
      infer_instance
  | none => exact .mono inferInstance (List.sublist_append_left _ back.1)

instance : Accounts dialect ledger [] (asyncParenOrArrow g) := by
  unfold asyncParenOrArrow
  refine .skip fun start => .skip fun _ => .skip fun range => ?_
  refine .bind inferInstance fun front found hfound => .skip fun arrow => ?_
  refine .bindPostponed inferInstance inferInstance fun back result? hresult => ?_
  cases result? with
  | some result =>
      have := hresult.ofSome
      infer_instance
  | none => exact .mono inferInstance (List.sublist_append_left _ back.1)

instance (start : Nat) [Typed dialect] : Accounts dialect ledger [] (genericArrow g start) := by
  unfold genericArrow
  infer_instance

instance (start : Nat) : Accounts dialect ledger [] (nameArrow g start) := by
  unfold nameArrow
  infer_instance

instance (start : Nat) : Accounts dialect ledger [] (plainAssignment g start) := by
  unfold plainAssignment
  infer_instance

instance (start : Nat) : Accounts dialect ledger [] (asyncAssignment g start) := by
  unfold asyncAssignment
  infer_instance

instance (start : Nat) : Accounts dialect ledger [] (assignmentOrArrow g start) := by
  unfold assignmentOrArrow
  infer_instance

instance : Accounts dialect ledger [] (assignmentBody g) := by
  unfold assignmentBody
  infer_instance

/-! ## JSX -/

instance (quote : Char) : Accounts dialect ledger [] (quotedAttribute quote) := by
  unfold quotedAttribute
  infer_instance

instance : Accounts dialect ledger [] (attributeValue g) := by
  unfold attributeValue
  refine .skip fun _ => ?_
  split <;> infer_instance

instance : Accounts dialect ledger [] (elementAttribute g) := by
  unfold elementAttribute
  infer_instance

instance : Accounts dialect ledger [] (attributes g) := by
  unfold attributes
  infer_instance

instance : Accounts dialect ledger [] (container g) := by
  unfold container
  infer_instance

instance : Accounts dialect ledger [] childText where
  listed {_ before _ _ _} hcontext _ hrun hread := by
    cases hrun
    have hreading : before.Reads [(childStretch before).reading]
        (before.standPast (childStretch before)) := rfl
    rw [hread.unique hreading]
    exact ⟨Ledger.follows_singleton (hcontext.counts .markupText rfl)⟩

instance (name : String) (parts : List Part) [Listed ledger given parts] :
    Accounts dialect ledger given (childOrEnd g name parts) := by
  refine .ofGiven ?_
  unfold childOrEnd
  refine .skip fun _ => ?_
  split <;> infer_instance

instance (name : String) : Accounts dialect ledger [] (children g name) := by
  unfold children
  infer_instance

instance : Accounts dialect ledger [] (markupBody g) := by
  unfold markupBody
  infer_instance

/-! ## Items -/

instance (use : TextUse) [∀ typed : TypedDialect, StringNode typed.1 use] :
    Accounts dialect ledger [] (moduleAttributes g use) := by
  unfold moduleAttributes
  infer_instance

instance : Accounts dialect ledger [] (importItem g) := by
  unfold importItem
  infer_instance

instance : Accounts dialect ledger [] (defaultExport g) := by
  unfold defaultExport
  infer_instance

instance : Accounts dialect ledger [] (exportedNames g) := by
  unfold exportedNames
  infer_instance

instance : Accounts dialect ledger [] (exportParts g) := by
  unfold exportParts
  infer_instance

instance : Accounts dialect ledger [] (itemBody g) := by
  unfold itemBody
  infer_instance

/-! ## Modules -/

instance : Accounts dialect ledger [] (moduleItems g) := by
  unfold moduleItems
  infer_instance

end Parser

/-- The grammar accounts for literal texts to any depth: its productions refer to those of the
grammar that is one less deep. -/
instance {ledger : Ledger} (depth : Nat) : Parser.AccountsGrammar ledger (grammar depth) := by
  induction depth with
  | zero =>
      constructor <;> intros
      all_goals exact ⟨fun _ _ hrun => by cases hrun⟩
  | succ depth ih =>
      constructor <;> intros <;> unfold grammar
      all_goals infer_instance

end Untranslated.Syntax
