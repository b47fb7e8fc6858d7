import Untranslated.Proofs.Following

/-!
# Reading operands

An operand here is a string literal, or a call of a function by its name.  Where a
comma, a closing parenthesis or a semicolon follows, an assignment expression that
starts with one is nothing else, and where a semicolon follows, so is a statement of
a module: no operator, label or declaration comes in between.
-/

namespace Untranslated.Syntax

/-! ### Names -/

/-- The words that a module cannot bind. -/
def unboundWords : List String :=
  Token.reservedWords ++ ["arguments", "await", "eval", "implements", "interface", "let", "package",
    "private", "protected", "public", "static", "yield"]

/-- A name that a module can bind: it is written as a word, and it is not taken.  No word starts
with white space anyway; that this one does not is said here to leave the tables of characters
closed. -/
def isBindable (name : String) : Bool :=
  match name.toList with
  | [] => false
  | first :: rest => isIdentifierStart first && !isLineEnd first && !isSpace first &&
      rest.all isIdentifierPart && !unboundWords.contains name

theorem isWordText_of_isBindable {name : String} (hname : isBindable name = true) :
    IsWordText name.toList := by
  unfold isBindable at hname
  split at hname
  · cases hname
  · next first rest hchars =>
      simp only [Bool.and_eq_true, Bool.not_eq_true', List.all_eq_true] at hname
      obtain ⟨⟨⟨⟨hstart, hend⟩, hspace⟩, hrest⟩, -⟩ := hname
      rw [hchars]
      exact ⟨List.forall_mem_cons.mpr ⟨isIdentifierPart_of_isIdentifierStart hstart, hrest⟩,
        first, rest, rfl, hstart, hend, hspace⟩

theorem not_unbound_of_isBindable {name : String} (hname : isBindable name = true) :
    name ∉ unboundWords := by
  unfold isBindable at hname
  split at hname
  · cases hname
  · simp only [Bool.and_eq_true, Bool.not_eq_true', List.contains_eq_mem, decide_eq_false_iff_not]
      at hname
    exact hname.2

theorem not_reserved_of_isBindable {name : String} (hname : isBindable name = true) :
    Token.reservedWords.contains name = false := by
  rw [List.contains_eq_mem, decide_eq_false_iff_not]
  exact fun hmem => not_unbound_of_isBindable hname (List.mem_append_left _ hmem)

/-- A name that a call can start with.  The word `async` may start a function as well. -/
def isCallable (name : String) : Bool := isBindable name && name != "async"

/-- A token that starts an operand and has no other role. -/
structure Token.StartsOperand (token : Token) : Prop where
  ne_eof : token ≠ .eof
  isSymbol : ∀ symbol, token.isSymbol symbol = false
  isSymbolIn : ∀ symbols, token.isSymbolIn symbols = false
  isWord : ∀ word ∈ "async" :: unboundWords, token.isWord word = false
  isWordIn : ∀ words, words ⊆ "async" :: unboundWords → token.isWordIn words = false

theorem startsOperand_string (codes : List Nat) : (Token.string codes).StartsOperand :=
  ⟨by simp, fun _ => rfl, fun _ => rfl, fun _ _ => rfl, fun _ _ => rfl⟩

theorem startsOperand_word {name : String} (hname : isCallable name = true) :
    (Token.word name true).StartsOperand := by
  obtain ⟨hbindable, hasync⟩ := Bool.and_eq_true_iff.mp hname
  have hspecial : name ∉ "async" :: unboundWords := by
    rw [List.mem_cons, not_or]
    exact ⟨bne_iff_ne.mp hasync, not_unbound_of_isBindable hbindable⟩
  refine ⟨by simp, fun _ => rfl, fun _ => rfl, ?_, ?_⟩
  · intro word hword
    rw [Token.isWord, beq_eq_false_iff_ne]
    rintro rfl
    exact hspecial hword
  · intro words hwords
    rw [Token.isWordIn, ← Bool.not_eq_true, List.contains_iff_mem]
    exact fun hmem => hspecial (hwords hmem)

namespace Parser

variable {context : Context} {state : State} {g : Grammar}

/-! ### What ends an operand -/

/-- The tokens that end an argument or a statement. -/
def closers : List Token := [.punctuator ",", .punctuator ")", .punctuator ";"]

theorem run_access_of_closes (hcloses : state.token ∈ closers) (g : Grammar) (start : Nat)
    (calls bare : Bool) (object : Operand) :
    (access g start calls bare object).run context state = .ok ((object, false), state) := by
  have htokens : ∀ token ∈ closers, token.isSymbol "!" = false ∧
      token.isSymbolIn ["<", "<<"] = false := by
    decide
  obtain ⟨hbang, hangle⟩ := htokens _ hcloses
  rw [access, Parser.state, run_inspect_bind, typescript, run_inspect_bind]
  simp only [hbang, hangle, Bool.and_false, Bool.false_and, Bool.false_eq_true, if_false]
  rw [plainAccess, Parser.state, run_inspect_bind]
  simp only [closers, List.mem_cons, List.not_mem_nil, or_false] at hcloses
  rcases hcloses with htoken | htoken | htoken <;>
    (rw [htoken]; rfl)

theorem run_accesses_of_closes (hcloses : state.token ∈ closers) (g : Grammar) (start : Nat)
    (calls bare : Bool) (object : Operand) :
    (accesses g start calls bare object).run context state = .ok (object, state) := by
  refine run_loop_once ?_
  rw [run_bind_ok (run_access_of_closes hcloses g start calls bare object)]
  rfl

theorem run_postfixRest_of_closes (hcloses : state.token ∈ closers) (start : Nat)
    (operand : Operand) :
    (postfixRest start operand).run context state = .ok (operand, state) := by
  have htokens : ∀ token ∈ closers, token.isSymbolIn ["++", "--"] = false := by decide
  rw [postfixRest, atSymbolIn, run_inspect_bind, htokens _ hcloses, Parser.state, run_inspect_bind]
  rfl

theorem run_operatorsBody_of_closes (hcloses : state.token ∈ closers) (g : Grammar)
    (left : Operand) (level : Nat) :
    (operatorsBody g left level).run context state = .ok (left, state) := by
  have htokens : ∀ token ∈ closers, token.isWordIn ["as", "satisfies"] = false ∧
      token.isWord "in" = false ∧ operatorLevel? token = none := by
    decide +kernel
  obtain ⟨hassertion, hin, hlevel⟩ := htokens _ hcloses
  refine run_loop_once ?_
  rw [Parser.state, run_inspect_bind, typescript, run_inspect_bind]
  simp only [hassertion, hin, Bool.and_false, Bool.false_and, Bool.false_eq_true, if_false]
  rw [Parser.context, run_inspect_bind, binaryOperator, Parser.state, run_inspect_bind, hlevel]
  rfl

theorem run_assignmentAfterUnary_of_closes (hcloses : state.token ∈ closers) (depth start : Nat)
    (first : Operand) :
    (assignmentAfterUnary (grammar (depth + 1)) start first).run context state =
      .ok (first, state) := by
  have htokens : ∀ token ∈ closers, token.isSymbol "?" = false ∧
      token.isSymbolIn assignmentOperators = false := by
    decide +kernel
  obtain ⟨hquestion, hassign⟩ := htokens _ hcloses
  have hoperators : ((grammar (depth + 1)).operators first 0).run context state =
      .ok (first, state) :=
    run_operatorsBody_of_closes hcloses (grammar depth) first 0
  have hconditional : (conditionalRest (grammar (depth + 1)) start first).run context state =
      .ok (first, state) := by
    rw [conditionalRest, run_bind_ok (run_eatSymbol_other hquestion)]
    rfl
  rw [assignmentAfterUnary, run_bind_ok hoperators, run_bind_ok hconditional, assignmentRest,
    atSymbolIn, run_inspect_bind, hassign]
  rfl

/-! ### What starts an operand -/

/-- The tokens that follow the first one of an operand: its arguments, or what comes after it. -/
def followers : List Token := .punctuator "(" :: closers

theorem run_assignmentBody_of_starts (hstarts : state.token.StartsOperand)
    (hnext : (state.next context.limit).token ∈ followers) :
    (assignmentBody g).run context state = (plainAssignment g state.start).run context state := by
  have htokens : ∀ token ∈ followers, token.isSymbol "=>" = false := by decide +kernel
  have hgeneric : atGenericArrow.run context state = .ok (false, state) := by
    rw [atGenericArrow, peek, run_inspect_bind, peekTwo, run_inspect_bind, atSymbol,
      run_inspect_bind, hstarts.isSymbol]
    rfl
  rw [assignmentBody, Parser.start, run_inspect_bind, Parser.context, run_inspect_bind, atWord,
    run_inspect_bind, hstarts.isWord "yield" (by decide +kernel), Bool.and_false]
  simp only [Bool.false_eq_true, if_false]
  rw [typescript, run_inspect_bind, run_bind_ok hgeneric, Bool.and_false]
  simp only [Bool.false_eq_true, if_false]
  rw [assignmentOrArrow, peek, run_inspect_bind, atSymbol, run_inspect_bind, hstarts.isSymbol]
  simp only [Bool.false_eq_true, if_false]
  rw [atIdentifier, run_inspect_bind, htokens _ hnext, Bool.and_false, Bool.false_and]
  simp only [Bool.false_eq_true, if_false]
  rw [atWord, run_inspect_bind, hstarts.isWord "async" (by decide +kernel), Bool.false_and]
  rfl

theorem run_accessBase_of_starts (hstarts : state.token.StartsOperand) :
    (accessBase g).run context state = (primary g).run context state := by
  rw [accessBase, atWord, run_inspect_bind, hstarts.isWord "new" (by decide +kernel)]
  simp only [Bool.false_eq_true, if_false]
  rw [atWord, run_inspect_bind, hstarts.isWord "super" (by decide +kernel)]
  simp only [Bool.false_eq_true, if_false]
  rw [atWord, run_inspect_bind, hstarts.isWord "import" (by decide +kernel)]
  rfl

theorem run_atAsyncFunction (hstarts : state.token.StartsOperand) :
    atAsyncFunction.run context state = .ok (false, state) := by
  rw [atAsyncFunction, peek, run_inspect_bind, atWord, run_inspect_bind,
    hstarts.isWord "async" (by decide +kernel)]
  rfl

theorem run_unaryBody_of_starts (hstarts : state.token.StartsOperand) {base : Operand}
    {between : State} (hprimary : (primary g).run context state = .ok (base, between)) :
    (unaryBody g).run context state =
      (accesses g state.start true true base >>= postfixRest state.start).run context between := by
  have hawait : atAwait.run context state = .ok (false, state) := by
    rw [atAwait, peek, run_inspect_bind, atWord, run_inspect_bind,
      hstarts.isWord "await" (by decide +kernel)]
    rfl
  rw [← run_accessBase_of_starts hstarts] at hprimary
  rw [unaryBody, Parser.start, run_inspect_bind, atSymbol, run_inspect_bind, hstarts.isSymbol]
  simp only [Bool.false_eq_true, if_false]
  rw [atSymbolIn, run_inspect_bind, hstarts.isSymbolIn, atWordIn, run_inspect_bind,
    hstarts.isWordIn _ (by decide +kernel), run_bind_ok hawait, atSymbolIn, run_inspect_bind,
    hstarts.isSymbolIn]
  simp only [Bool.or_self, Bool.false_eq_true, if_false]
  rw [run_bind_ok hprimary]

/-- An assignment expression that is an operand with its accesses and nothing else. -/
theorem run_assignment_of_accesses {depth : Nat} {base operand : Operand} {between last : State}
    (hstarts : state.token.StartsOperand)
    (hnext : (state.next context.limit).token ∈ followers)
    (hprimary : (primary (grammar depth)).run context state = .ok (base, between))
    (haccesses : (accesses (grammar depth) state.start true true base).run context between =
      .ok (operand, last)) (hcloses : last.token ∈ closers) :
    (grammar (depth + 2)).assignment.run context state = .ok (operand, last) := by
  have hunary : (grammar (depth + 1)).unary.run context state = .ok (operand, last) := by
    refine (run_unaryBody_of_starts hstarts hprimary).trans ?_
    rw [run_bind_ok haccesses]
    exact run_postfixRest_of_closes hcloses ..
  change (assignmentBody (grammar (depth + 1))).run context state = _
  rw [run_assignmentBody_of_starts hstarts hnext, plainAssignment, run_bind_ok hunary]
  exact run_assignmentAfterUnary_of_closes hcloses ..

/-! ### Literals and calls as operands -/

variable {cursor inner inside after : Cursor} {start opening : Nat}

/-- The first token after the cursor ends an operand. -/
def ClosesAt (limit : Nat) (cursor : Cursor) : Prop :=
  ∃ token ∈ closers, ∃ start after, StartsWith limit cursor start token after

theorem mem_closers_of_before (hbefore : state.Before context.limit cursor)
    (hcloses : ClosesAt context.limit cursor) : state.token ∈ closers := by
  obtain ⟨token, htoken, start, after, hstarts⟩ := hcloses
  rw [(hbefore.sees (.cons hstarts (.nil _))).token_eq]
  exact htoken

/-- An operand stands at the state: from the offset up to the cursor, the expression is read. -/
structure GivesOperand (depth : Nat) (context : Context) (state : State) (start : Nat)
    (expr : Expr) (after : Cursor) : Prop where
  start_eq : state.start = start
  starts : state.token.StartsOperand
  next : (state.next context.limit).token ∈ followers
  run : ∃ operand last, (grammar (depth + 2)).assignment.run context state = .ok (operand, last) ∧
    operand.expr = expr ∧ last.Before context.limit after

theorem givesOperand_text (depth : Nat) {codes : List Nat}
    (hbefore : state.Before context.limit cursor)
    (hstarts : StartsWith context.limit cursor start (.string codes) after)
    (hcloses : ClosesAt context.limit after) :
    GivesOperand depth context state start (.string ⟨start, after.offset⟩ (decodeLossy codes))
      after := by
  have hsees := hbefore.sees (.cons hstarts (.nil _))
  have hnext := State.before_next context.limit state
  obtain ⟨last, hliteral, hlast⟩ := run_stringLiteral context.stringUse hsees.token_eq
  rw [hbefore.start_eq hstarts, hsees.after_eq] at hliteral
  rw [hsees.after_eq] at hlast hnext
  have hends := mem_closers_of_before hlast hcloses
  have hoperand : state.token.StartsOperand := by
    rw [hsees.token_eq]
    exact startsOperand_string codes
  have hfollows : (state.next context.limit).token ∈ followers :=
    List.mem_cons_of_mem _ (mem_closers_of_before hnext hcloses)
  have hprimary : (primary (grammar depth)).run context state =
      .ok (.ofExpr (.string ⟨start, after.offset⟩ (decodeLossy codes)), last) := by
    rw [primary, Parser.state, run_inspect_bind, hsees.token_eq]
    dsimp only
    rw [Parser.context, run_inspect_bind, run_bind_ok hliteral]
    rfl
  exact ⟨hbefore.start_eq hstarts, hoperand, hfollows, _, last,
    run_assignment_of_accesses hoperand hfollows hprimary (run_accesses_of_closes hends ..) hends,
    rfl, hlast⟩

/-- One argument of a call, or the parenthesis that closes its arguments. -/
def argumentStep (g : Grammar) (arguments : List Expr) : Parser (List Expr ⊕ List Expr) := do
  if ← eatSymbol ")" then return .inr arguments
  let _ ← eatSymbol "..."
  let argument ← g.assignment
  unless ← atSymbol ")" do
    expectSymbol ","
    if !true && (← atSymbol ")") then fail "an argument"
  return .inl (arguments ++ [argument.expr])

theorem callArguments_eq (g : Grammar) : callArguments g = (do
    expectSymbol "("
    within Surroundings.enclosed (loop ([] : List Expr) (argumentStep g))) := rfl

theorem run_access_call (hsees : state.Sees context.limit (.punctuator "(") [] inside)
    {object : Operand} {arguments : List Expr} {last : State}
    (harguments : (loop ([] : List Expr) (argumentStep g)).run
      { context with toSurroundings := context.enclosed } (state.next context.limit) =
        .ok (arguments, last)) (start : Nat) (bare : Bool) :
    (access g start true bare object).run context state =
      .ok ((.ofExpr (.call ⟨start, max start last.lastStop⟩ object.expr arguments), true),
        last) := by
  have hbang : state.token.isSymbol "!" = false := by
    rw [hsees.token_eq]
    rfl
  have hangle : state.token.isSymbolIn ["<", "<<"] = false := by
    rw [hsees.token_eq]
    rfl
  have hcall : (callArguments g).run context state = .ok (arguments, last) := by
    rw [callArguments_eq, run_bind_ok (run_expectSymbol hsees)]
    exact harguments
  rw [access, Parser.state, run_inspect_bind, typescript, run_inspect_bind]
  simp only [hbang, hangle, Bool.and_false, Bool.false_and, Bool.false_eq_true, if_false]
  rw [plainAccess, Parser.state, run_inspect_bind, hsees.token_eq]
  change (callArguments g >>= fun arguments => rangeFrom start >>= fun range =>
    pure (Operand.ofExpr (.call range object.expr arguments), true)).run context state = _
  rw [run_bind_ok hcall]
  rfl

/-- A call of a function by its name, when its arguments can be read. -/
theorem givesOperand_call (depth : Nat) {name : String} (hname : isCallable name = true)
    {arguments : List Expr} (hlimit : 0 < context.limit)
    (hbefore : state.Before context.limit cursor)
    (hstarts : StartsWith context.limit cursor start (.word name true) inner)
    (hopens : StartsWith context.limit inner opening (.punctuator "(") inside)
    (hcloses : ClosesAt context.limit after)
    (harguments : ∀ (around : Surroundings) (state : State), state.Before context.limit inside →
      ∃ last, (loop ([] : List Expr) (argumentStep (grammar depth))).run
          { context with toSurroundings := around } state = .ok (arguments, last) ∧
        last.Before context.limit after) :
    GivesOperand depth context state start (.call ⟨start, max start after.offset⟩
      (.identifier ⟨start, max start inner.offset⟩ name) arguments) after := by
  have hsees := hbefore.sees (.cons hstarts (.cons hopens (.nil _)))
  have hopen := hsees.next
  have hnext := State.before_next context.limit state
  rw [(hbefore.sees (.cons hstarts (.nil _))).after_eq] at hnext
  have hinside := State.before_next context.limit (state.next context.limit)
  rw [hopen.after_eq] at hinside
  obtain ⟨last, hloop, hlast⟩ := harguments context.enclosed _ hinside
  have hends := mem_closers_of_before hlast hcloses
  have hoperand : state.token.StartsOperand := by
    rw [hsees.token_eq]
    exact startsOperand_word hname
  have hfollows : (state.next context.limit).token ∈ followers := by
    rw [hopen.token_eq]
    exact List.mem_cons_self
  have hidentifier : state.token.isIdentifier = true := by
    rw [hsees.token_eq, Token.isIdentifier,
      not_reserved_of_isBindable (Bool.and_eq_true_iff.mp hname).1]
    rfl
  have hprimary : (primary (grammar depth)).run context state =
      .ok ({ Operand.ofPlace (.identifier ⟨start, max start inner.offset⟩ name) with
        pattern := [] }, state.next context.limit) := by
    rw [primary, Parser.state, run_inspect_bind, hsees.token_eq]
    dsimp only
    rw [wordExpression, Parser.start, run_inspect_bind, run_bind_ok (run_atAsyncFunction hoperand)]
    simp only [Bool.false_eq_true, if_false]
    rw [Parser.state, run_inspect_bind, if_pos hidentifier, ← hbefore.start_eq hstarts,
      ← hnext.lastStop_eq]
    rfl
  have haccesses : (accesses (grammar depth) state.start true true
      { Operand.ofPlace (.identifier ⟨start, max start inner.offset⟩ name) with
        pattern := [] }).run context (state.next context.limit) =
      .ok (.ofExpr (.call ⟨start, max start after.offset⟩
        (.identifier ⟨start, max start inner.offset⟩ name) arguments), last) := by
    -- One access is the call itself; after it nothing is accessed any more.
    refine run_loop_twice (.ofExpr (.call ⟨start, max start after.offset⟩
      (.identifier ⟨start, max start inner.offset⟩ name) arguments)) last hlimit ?_ ?_
    · rw [run_bind_ok (run_access_call hopen hloop state.start true), hlast.lastStop_eq,
        hbefore.start_eq hstarts]
      rfl
    · rw [run_bind_ok (run_access_of_closes hends ..)]
      rfl
  exact ⟨hbefore.start_eq hstarts, hoperand, hfollows, _, last,
    run_assignment_of_accesses hoperand hfollows hprimary haccesses hends, rfl, hlast⟩

/-! ### Statements -/

theorem run_startedByKeyword? (hstarts : state.token.StartsOperand) :
    (startedByKeyword? g).run context state = .ok (none, state) := by
  rw [startedByKeyword?, Parser.state, run_inspect_bind]
  split
  · next keyword htoken =>
      have hother : ∀ word ∈ unboundWords, keyword ≠ word := by
        intro word hword
        have hfalse := hstarts.isWord word (List.mem_cons_of_mem _ hword)
        rw [htoken] at hfalse
        exact beq_eq_false_iff_ne.mp hfalse
      unfold keywordStatement?
      split
      all_goals first
        | rfl
        | exact absurd rfl (hother _ (by decide +kernel))
  · rfl

/-- What follows the first token of an operand is no word, and none of these symbols. -/
theorem of_mem_followers {token : Token} (htoken : token ∈ followers) :
    (∀ words, token.isWordIn words = false) ∧ (∀ word, token.isWord word = false) ∧
      token.isIdentifier = false ∧ token.isAnyWord = false ∧
      token.isSymbolIn ["[", "\x7b"] = false ∧ token.isSymbol "\x7b" = false ∧
      token.isSymbol ":" = false := by
  simp only [followers, closers, List.mem_cons, List.not_mem_nil, or_false] at htoken
  rcases htoken with rfl | rfl | rfl | rfl <;>
    exact ⟨fun _ => rfl, fun _ => rfl, rfl, rfl, rfl, rfl, rfl⟩

theorem run_variableKeyword? (hstarts : state.token.StartsOperand)
    (hnext : (state.next context.limit).token ∈ followers) :
    variableKeyword?.run context state = .ok (none, state) := by
  obtain ⟨-, hword, hidentifier, -⟩ := of_mem_followers hnext
  rw [variableKeyword?, peek, run_inspect_bind, typescript, run_inspect_bind,
    run_bind_ok (run_eatWord_other (hstarts.isWord "var" (by decide +kernel)))]
  simp only [Bool.false_eq_true, if_false]
  rw [run_bind_ok (run_eatWord_other (hstarts.isWord "const" (by decide +kernel)))]
  simp only [Bool.false_eq_true, if_false]
  rw [atWord, run_inspect_bind, hstarts.isWord "let" (by decide +kernel), Bool.false_and]
  simp only [Bool.false_eq_true, if_false]
  rw [atWord, run_inspect_bind, hidentifier, Bool.and_false, Bool.false_and, Bool.false_and]
  simp only [Bool.false_eq_true, if_false]
  rw [peekTwo, run_inspect_bind, atWord, run_inspect_bind,
    hstarts.isWord "await" (by decide +kernel), Bool.and_false]
  rfl

theorem run_valueDeclaration? (hstarts : state.token.StartsOperand)
    (hnext : (state.next context.limit).token ∈ followers) :
    (valueDeclaration? g).run context state = .ok (none, state) := by
  rw [valueDeclaration?, run_bind_ok (run_atAsyncFunction hstarts)]
  simp only [Bool.false_eq_true, if_false]
  rw [run_bind_ok (run_eatWord_other (hstarts.isWord "function" (by decide +kernel)))]
  simp only [Bool.false_eq_true, if_false]
  rw [run_bind_ok (run_eatWord_other (hstarts.isWord "class" (by decide +kernel)))]
  simp only [Bool.false_eq_true, if_false]
  rw [variables?, run_bind_ok (run_variableKeyword? hstarts hnext)]
  rfl

theorem run_typeDeclaration?
    (hnext : (state.next context.limit).token ∈ followers) :
    (typeDeclaration? g).run context state = .ok (none, state) := by
  obtain ⟨-, hword, hidentifier, hany, -, hbrace, -⟩ := of_mem_followers hnext
  rw [typeDeclaration?, peek, run_inspect_bind]
  simp only [hidentifier, hword, hany, hbrace, Bool.false_and, Bool.and_false, atWord,
    run_inspect_bind, Bool.false_eq_true, if_false, Bool.false_or]
  split
  · next htoken =>
      rw [htoken] at hnext
      simp [followers, closers] at hnext
  · rw [Bool.and_false]
    rfl

theorem run_declaration? (hstarts : state.token.StartsOperand)
    (hnext : (state.next context.limit).token ∈ followers) :
    (declaration? g).run context state = .ok (none, state) := by
  have hplain : (plainDeclaration? g).run context state = .ok (none, state) := by
    rw [plainDeclaration?, typescript, run_inspect_bind]
    split
    · rw [typedDeclaration?, run_bind_ok (run_typeDeclaration? hnext)]
      exact run_valueDeclaration? hstarts hnext
    · exact run_valueDeclaration? hstarts hnext
  rw [declaration?, peek, run_inspect_bind, typescript, run_inspect_bind, atWord, run_inspect_bind,
    (of_mem_followers hnext).1, Bool.and_false, Bool.false_and]
  exact hplain

/-- A statement, and the item that it is in a module, which is an expression up to its
semicolon. -/
theorem GivesOperand.run_item {depth stop : Nat} {back : Text} {expr : Expr}
    (hoperand : GivesOperand depth { context with toSurroundings := context.enclosed } state start
      expr ⟨';' :: back, stop⟩) :
    ∃ after, (grammar (depth + 4)).item.run context state =
        .ok (.plain .item ⟨start, max start (stop + 1)⟩
          [.plain .statement ⟨start, max start (stop + 1)⟩ [.expr expr]], after) ∧
      after.Before context.limit ⟨back, stop + 1⟩ := by
  obtain rfl := hoperand.start_eq
  have hstarts := hoperand.starts
  have hnext : (state.next context.limit).token ∈ followers := hoperand.next
  obtain ⟨operand, last, hrun, rfl, hlast⟩ := hoperand.run
  have hlast : last.Before context.limit ⟨';' :: back, stop⟩ := hlast
  have hsees := hlast.sees (.cons (startsWith_punctuator (by decide : (';', ";") ∈ singles)
    context.limit back stop) (.nil _))
  have hafter := State.before_next context.limit last
  rw [hsees.after_eq] at hafter
  have hcomma : last.token.isSymbol "," = false := by
    rw [hsees.token_eq]
    rfl
  have hexpression : (enclosedExpression (grammar (depth + 2))).run context state =
      .ok (operand, last) := by
    change (expression (grammar (depth + 2))).run
      { context with toSurroundings := context.enclosed } state = _
    rw [expression, Parser.start, run_inspect_bind, run_bind_ok hrun, atSymbol, run_inspect_bind,
      hcomma]
    rfl
  have hparts : (statementParts (grammar (depth + 2))).run context state =
      .ok ([.expr operand.expr], last.next context.limit) := by
    have hdeclaration : (within Surroundings.enclosed (declaration? (grammar (depth + 2)))).run
        context state = .ok (none, state) :=
      run_declaration? hstarts hnext
    rw [statementParts, run_bind_ok (run_eatSymbol_other (hstarts.isSymbol _))]
    simp only [Bool.false_eq_true, if_false]
    rw [atSymbol, run_inspect_bind, hstarts.isSymbol]
    simp only [Bool.false_eq_true, if_false]
    rw [orElse, run_bind_ok (run_startedByKeyword? hstarts)]
    dsimp only
    rw [orElse, run_bind_ok hdeclaration]
    dsimp only
    rw [labelledOrExpression, Parser.state, run_inspect_bind, peek, run_inspect_bind,
      (of_mem_followers hnext).2.2.2.2.2.2, Bool.and_false]
    simp only [Bool.false_eq_true, if_false]
    rw [expressionStatement, run_bind_ok hexpression, run_bind_ok (run_semicolon hsees)]
    rfl
  have hstatement : (grammar (depth + 3)).statement.run context state =
      .ok (.plain .statement ⟨state.start, max state.start (stop + 1)⟩ [.expr operand.expr],
        last.next context.limit) := by
    change (statementBody (grammar (depth + 2))).run context state = _
    rw [statementBody, Parser.start, run_inspect_bind, run_bind_ok hparts, rangeFrom,
      run_inspect_bind, hafter.lastStop_eq]
    rfl
  refine ⟨last.next context.limit, ?_, hafter⟩
  change (itemBody (grammar (depth + 3))).run context state = _
  rw [itemBody, Parser.start, run_inspect_bind, peek, run_inspect_bind, atWord, run_inspect_bind,
    hstarts.isWord "import" (by decide +kernel), Bool.false_and]
  simp only [Bool.false_eq_true, if_false]
  rw [run_bind_ok (run_eatWord_other (hstarts.isWord "export" (by decide +kernel)))]
  simp only [Bool.false_eq_true, if_false]
  rw [run_bind_ok hstatement, rangeFrom, run_inspect_bind, hafter.lastStop_eq]
  rfl

end Parser

end Untranslated.Syntax
