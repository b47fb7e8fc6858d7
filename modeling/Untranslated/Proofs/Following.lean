import Untranslated.Proofs.Tokens

/-!
# Following the parser

What a parser does is followed here from the tokens that its state sees: which
token it takes, what it makes of it, and where it stands afterwards.  The first
production to be followed as a whole is the import of one name.
-/

namespace Untranslated.Syntax

namespace Parser

variable {α β : Type} {context : Context} {state : State} {tokens : List Token} {final : Cursor}

/-! ### Following a parser -/

theorem run_bind_ok {first : Parser α} {next : α → Parser β} {value : α} {between : State}
    (hfirst : first.run context state = .ok (value, between)) :
    (first >>= next).run context state = (next value).run context between := by
  change (andThen first next).run context state = _
  simp only [andThen, hfirst]

theorem run_inspect_bind (look : Context → State → α) (next : α → Parser β) :
    (inspect look >>= next).run context state = (next (look context state)).run context state := rfl

theorem run_eatSymbol {symbol : String}
    (hsees : state.Sees context.limit (.punctuator symbol) tokens final) :
    (eatSymbol symbol).run context state = .ok (true, state.next context.limit) := by
  have hsymbol : state.token.isSymbol symbol = true := by
    rw [hsees.token_eq]
    exact beq_self_eq_true symbol
  rw [eatSymbol, atSymbol, run_inspect_bind, if_pos hsymbol]
  rfl

theorem run_eatSymbol_other {symbol : String} (hother : state.token.isSymbol symbol = false) :
    (eatSymbol symbol).run context state = .ok (false, state) := by
  rw [eatSymbol, atSymbol, run_inspect_bind, hother]
  rfl

theorem run_eatWord {name : String}
    (hsees : state.Sees context.limit (.word name true) tokens final) :
    (eatWord name).run context state = .ok (true, state.next context.limit) := by
  have hword : state.token.isWord name = true := by
    rw [hsees.token_eq]
    exact beq_self_eq_true name
  rw [eatWord, atWord, run_inspect_bind, if_pos hword]
  rfl

theorem run_eatWord_other {name : String} (hother : state.token.isWord name = false) :
    (eatWord name).run context state = .ok (false, state) := by
  rw [eatWord, atWord, run_inspect_bind, hother]
  rfl

theorem run_expectSymbol {symbol : String}
    (hsees : state.Sees context.limit (.punctuator symbol) tokens final) :
    (expectSymbol symbol).run context state = .ok ((), state.next context.limit) := by
  rw [expectSymbol, run_bind_ok (run_eatSymbol hsees)]
  rfl

theorem run_expectWord {name : String}
    (hsees : state.Sees context.limit (.word name true) tokens final) :
    (expectWord name).run context state = .ok ((), state.next context.limit) := by
  rw [expectWord, run_bind_ok (run_eatWord hsees)]
  rfl

theorem run_eatTypeModifier {name : String}
    (hsees : state.Sees context.limit (.word name true) (.punctuator "\x7d" :: tokens) final) :
    eatTypeModifier.run context state = .ok ((), state) := by
  have hend : (state.next context.limit).token.isSymbolIn [",", "\x7d"] = true := by
    rw [hsees.next.token_eq]
    rfl
  rw [eatTypeModifier, typescript, run_inspect_bind, atWord, run_inspect_bind]
  split
  -- A name that reads `type` is the name itself, since no other follows.
  · rw [peek, run_inspect_bind, peekTwo, run_inspect_bind, peekThree, run_inspect_bind]
    simp only [hend, Bool.true_or, if_true]
    rfl
  · rfl

theorem run_importSpecifier {name : String}
    (hname : Token.reservedWords.contains name = false)
    (hsees : state.Sees context.limit (.word name true) (.punctuator "\x7d" :: tokens) final) :
    importSpecifier.run context state = .ok (.named name name, state.next context.limit) := by
  have hexport : exportName.run context state = .ok (name, state.next context.limit) := by
    rw [exportName, Parser.state, run_inspect_bind, hsees.token_eq]
    rfl
  have has : (state.next context.limit).token.isWord "as" = false := by
    rw [hsees.next.token_eq]
    rfl
  have hidentifier : state.token.isIdentifier = true := by
    rw [hsees.token_eq, Token.isIdentifier, hname]
    rfl
  rw [importSpecifier, run_bind_ok (run_eatTypeModifier hsees), Parser.state, run_inspect_bind,
    run_bind_ok hexport, run_bind_ok (run_eatWord_other has)]
  simp only [Bool.false_eq_true, if_false, hidentifier, if_true]
  rfl

theorem run_repeatFrom_inl {step : α → Parser (α ⊕ β)} {count : Nat} {value found : α}
    {between : State} (hstep : (step value).run context state = .ok (.inl found, between)) :
    (repeatFrom step (count + 1) value).run context state =
      (repeatFrom step count found).run context between := by
  rw [repeatFrom, run_bind_ok hstep]

theorem run_repeatFrom_inr {step : α → Parser (α ⊕ β)} {count : Nat} {value : α} {result : β}
    {between : State} (hstep : (step value).run context state = .ok (.inr result, between)) :
    (repeatFrom step (count + 1) value).run context state = .ok (result, between) := by
  rw [repeatFrom, run_bind_ok hstep]
  rfl

/-- A loop of one step. -/
theorem run_loop_once {initial : α} {step : α → Parser (α ⊕ β)} {result : β} {after : State}
    (hstep : (step initial).run context state = .ok (.inr result, after)) :
    (loop initial step).run context state = .ok (result, after) := by
  rw [loop, Parser.context, run_inspect_bind, run_repeatFrom_inr hstep]

/-- A loop of two steps, the second of which ends it. -/
theorem run_loop_twice {initial : α} {step : α → Parser (α ⊕ β)} {result : β} {after : State}
    (found : α) (between : State) (hlimit : 0 < context.limit)
    (hfirst : (step initial).run context state = .ok (.inl found, between))
    (hsecond : (step found).run context between = .ok (.inr result, after)) :
    (loop initial step).run context state = .ok (result, after) := by
  obtain ⟨count, hcount⟩ := Nat.exists_eq_succ_of_ne_zero (Nat.ne_of_gt hlimit)
  rw [loop, Parser.context, run_inspect_bind, hcount, run_repeatFrom_inl hfirst,
    run_repeatFrom_inr hsecond]

/-! ### Reading an import -/

theorem run_importList {name : String} (hlimit : 0 < context.limit)
    (hname : Token.reservedWords.contains name = false)
    (hsees : state.Sees context.limit (.punctuator "\x7b")
      (.word name true :: .punctuator "\x7d" :: tokens) final) :
    importList.run context state = .ok ([.named name name],
      ((state.next context.limit).next context.limit).next context.limit) := by
  have hword := hsees.next
  have hbrace : (state.next context.limit).token.isSymbol "\x7d" = false := by
    rw [hword.token_eq]
    rfl
  have hend : ((state.next context.limit).next context.limit).token.isSymbol "\x7d" = true := by
    rw [hword.next.token_eq]
    rfl
  rw [importList, run_bind_ok (run_expectSymbol hsees)]
  refine run_loop_twice [.named name name] ((state.next context.limit).next context.limit) hlimit
    ?_ ?_
  · rw [run_bind_ok (run_eatSymbol_other hbrace)]
    simp only [Bool.false_eq_true, if_false]
    rw [run_bind_ok (run_importSpecifier hname hword), atSymbol, run_inspect_bind]
    simp only [hend, if_true]
    rfl
  · rw [run_bind_ok (run_eatSymbol hword.next)]
    rfl

theorem run_importClause? {name : String} (hlimit : 0 < context.limit)
    (hname : Token.reservedWords.contains name = false)
    (hsees : state.Sees context.limit (.punctuator "\x7b")
      (.word name true :: .punctuator "\x7d" :: .word "from" true :: tokens) final) :
    importClause?.run context state = .ok ([.named name name],
      (((state.next context.limit).next context.limit).next context.limit).next context.limit) := by
  have hidentifier : state.token.isIdentifier = false := by
    rw [hsees.token_eq]
    rfl
  have hstar : state.token.isSymbol "*" = false := by
    rw [hsees.token_eq]
    rfl
  have hclause : importClause.run context state = .ok ([.named name name],
      ((state.next context.limit).next context.limit).next context.limit) := by
    rw [importClause, atIdentifier, run_inspect_bind, hidentifier]
    simp only [Bool.false_eq_true, if_false]
    rw [importNames, run_bind_ok (run_eatSymbol_other hstar)]
    simp only [Bool.false_eq_true, if_false]
    exact run_importList hlimit hname hsees
  rw [importClause?, Parser.state, run_inspect_bind, hsees.token_eq]
  dsimp only
  rw [run_bind_ok hclause, run_bind_ok (run_expectWord hsees.next.next.next)]
  rfl

theorem run_stringLiteral (use : TextUse) {codes : List Nat}
    (htoken : state.token = .string codes) :
    ∃ after, (stringLiteral use).run context state =
        .ok ((⟨state.start, state.after.offset⟩, codes), after) ∧
      after.Before context.limit state.after := by
  simp only [stringLiteral, readLiteral]
  split
  · next hnone =>
      split at hnone
      · cases hnone
      · next hother => exact absurd htoken (hother codes)
  · next value stretch hread =>
      split at hread
      · next found hfound =>
          cases hread
          cases hfound.symm.trans htoken
          exact ⟨_, rfl, _, rfl⟩
      · cases hread

theorem run_moduleName {codes : List Nat} {following : Token}
    (hsees : state.Sees context.limit (.string codes) (following :: tokens) final) :
    ∃ after, moduleName.run context state = .ok (String.ofList (decodeLossy codes), after) ∧
      after.Sees context.limit following tokens final := by
  obtain ⟨after, hrun, hafter⟩ := run_stringLiteral .moduleName hsees.token_eq
  refine ⟨after, ?_, hafter.sees hsees.scans⟩
  rw [moduleName, stringText, run_bind_ok hrun]
  rfl

theorem run_moduleAttributes (g : Grammar) (use : TextUse) {symbol : String}
    (hsees : state.Sees context.limit (.punctuator symbol) tokens final) :
    (moduleAttributes g use).run context state = .ok ([], state) := by
  have hword : state.token.isWordIn ["with", "assert"] = false := by
    rw [hsees.token_eq]
    rfl
  rw [moduleAttributes, Parser.state, run_inspect_bind, typescript, run_inspect_bind, hword,
    Bool.and_false]
  rfl

theorem run_semicolon (hsees : state.Sees context.limit (.punctuator ";") tokens final) :
    semicolon.run context state = .ok ((), state.next context.limit) := by
  have heat : eatSemicolon.run context state = .ok (true, state.next context.limit) := by
    rw [eatSemicolon, run_bind_ok (run_eatSymbol hsees)]
    rfl
  rw [semicolon, run_bind_ok heat]
  rfl

theorem run_atImportModifier {names : List String} (hother : state.token.isWordIn names = false) :
    (atImportModifier names).run context state = .ok (false, state) := by
  rw [atImportModifier, peek, run_inspect_bind, peekTwo, run_inspect_bind, atWordIn,
    run_inspect_bind, hother]
  rfl

/-- An import of one name from a module, up to its semicolon. -/
theorem run_importItem (g : Grammar) {name : String} {codes : List Nat}
    (hlimit : 0 < context.limit) (hname : Token.reservedWords.contains name = false)
    (hsees : state.Sees context.limit (.word "import" true) [.punctuator "\x7b",
      .word name true, .punctuator "\x7d", .word "from" true, .string codes, .punctuator ";"]
      final) :
    ∃ after, (importItem g).run context state =
        .ok (.imports ⟨state.start, max state.start final.offset⟩
          ⟨String.ofList (decodeLossy codes), [.named name name]⟩, after) ∧
      after.Before context.limit final := by
  have hopen := hsees.next
  have hwords : ∀ names, (state.next context.limit).token.isWordIn names = false := by
    intro names
    rw [hopen.token_eq]
    rfl
  have hidentifier : (state.next context.limit).token.isIdentifier = false := by
    rw [hopen.token_eq]
    rfl
  have htype : eatTypeImport.run context (state.next context.limit) =
      .ok ((), state.next context.limit) := by
    rw [eatTypeImport, typescript, run_inspect_bind, run_bind_ok (run_atImportModifier (hwords _)),
      Bool.and_false]
    rfl
  have hphase : eatImportPhase.run context (state.next context.limit) =
      .ok ((), state.next context.limit) := by
    rw [eatImportPhase, run_bind_ok (run_atImportModifier (hwords _))]
    rfl
  obtain ⟨last, hmodule, hlast⟩ := run_moduleName hopen.next.next.next.next
  have hafter := State.before_next context.limit last
  rw [hlast.after_eq] at hafter
  refine ⟨last.next context.limit, ?_, hafter⟩
  rw [importItem, Parser.start, run_inspect_bind, run_bind_ok (run_expectWord hsees),
    run_bind_ok htype, typescript, run_inspect_bind, atIdentifier, run_inspect_bind, peek,
    run_inspect_bind, hidentifier, Bool.and_false, Bool.false_and]
  simp only [Bool.false_eq_true, if_false]
  rw [run_bind_ok hphase, run_bind_ok (run_importClause? hlimit hname hopen), run_bind_ok hmodule,
    run_bind_ok (run_moduleAttributes g .importAttribute hlast),
    run_bind_ok (run_semicolon hlast), rangeFrom, run_inspect_bind, hafter.lastStop_eq]
  rfl

theorem run_itemBody_import (g : Grammar) {symbol : String}
    (hsymbol : (Token.punctuator symbol).isSymbolIn ["(", "."] = false)
    (hsees : state.Sees context.limit (.word "import" true) (.punctuator symbol :: tokens) final)
    {part : Part} {after : State} (hrun : (importItem g).run context state = .ok (part, after)) :
    (itemBody g).run context state = .ok (part, after) := by
  have hword : state.token.isWord "import" = true := by
    rw [hsees.token_eq]
    rfl
  rw [itemBody, Parser.start, run_inspect_bind, peek, run_inspect_bind, atWord, run_inspect_bind,
    hword, hsees.next.token_eq, hsymbol]
  exact hrun

/-! ### The items of a module -/

/-- One round of reading the items of a module. -/
def moduleStep (g : Grammar) (parts : List Part) : Parser (List Part ⊕ List Part) := do
  if (← Parser.state).token == .eof then return .inr parts
  return .inl (parts ++ [← g.item])

theorem moduleItems_eq_loop (g : Grammar) : moduleItems g = loop [] (moduleStep g) := rfl

theorem run_moduleStep_eof {g : Grammar} (htoken : state.token = .eof) (parts : List Part) :
    (moduleStep g parts).run context state = .ok (.inr parts, state) := by
  rw [moduleStep, Parser.state, run_inspect_bind, htoken, if_pos (by decide)]
  rfl

theorem run_moduleStep {g : Grammar} (htoken : state.token ≠ .eof) {part : Part} {after : State}
    (hitem : g.item.run context state = .ok (part, after)) (parts : List Part) :
    (moduleStep g parts).run context state = .ok (.inl (parts ++ [part]), after) := by
  rw [moduleStep, Parser.state, run_inspect_bind, if_neg (by simpa using htoken),
    run_bind_ok hitem]
  rfl

end Parser

end Untranslated.Syntax
