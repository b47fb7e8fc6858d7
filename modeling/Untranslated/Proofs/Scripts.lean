import Untranslated.Proofs.Operands

/-!
# Reading scripts

A script imports single names, and then it states string literals and calls of
functions by their names.  The arguments of a call are string literals and calls
again, to any depth, and white space may stand before everything.  Every script is
read, in every dialect, as the syntax that it spells, with the ranges at which the
parts stand in the text.
-/

namespace Untranslated.Syntax

/-! ### Scripts -/

/-- White space before a token. -/
abbrev Gap := { gap : Text // IsGap gap }

/-- No white space. -/
def noGap : Gap := ⟨[], by decide⟩

/-- A name that a module can bind. -/
abbrev BoundName := { name : String // isBindable name = true }

/-- A name by which a function is called. -/
abbrev Callee := { name : String // isCallable name = true }

/-- A string literal with what it stands for. -/
structure QuotedString where
  quote : Char
  body : Text
  codes : List Nat
  isQuote : IsQuote quote
  quoted : QuotedText quote body codes

namespace QuotedString

def spelling (literal : QuotedString) : Text := literal.quote :: literal.body ++ [literal.quote]

def value (literal : QuotedString) : Text := decodeLossy literal.codes

/-- The literal in single quotes. -/
def single {body : Text} {codes : List Nat} (hbody : StringText body codes) : QuotedString :=
  ⟨'\'', body, codes, Or.inl rfl, hbody.quotedText⟩

end QuotedString

/-- String literals and calls one after the other, and the white space before each of them and
after the last. -/
inductive Phrases where
  | nil (gap : Gap)
  | string (gap : Gap) (literal : QuotedString) (rest : Phrases)
  | call (gap : Gap) (callee : Callee) (arguments rest : Phrases)

namespace Phrases

/-- What phrases are: the arguments of a call, or statements. -/
inductive Role where
  | arguments
  | statements

def gap : Phrases → Gap
  | nil gap | string gap _ _ | call gap _ _ _ => gap

theorem gap_string (gap : Gap) (literal : QuotedString) (rest : Phrases) :
    (string gap literal rest).gap = gap := rfl

theorem gap_call (gap : Gap) (callee : Callee) (arguments rest : Phrases) :
    (call gap callee arguments rest).gap = gap := rfl

/-- What stands between a phrase and these after it.  Statements have a semicolon after the last
one too; arguments have a comma only between them. -/
def mark : Role → Phrases → Text
  | .statements, _ => [';']
  | .arguments, nil _ => []
  | .arguments, _ => [',']

/-- The phrases as they are written, after the white space before the first. -/
def body (role : Role) : Phrases → Text
  | nil _ => []
  | string _ literal rest =>
      literal.spelling ++ (rest.mark role ++ (rest.gap.1 ++ rest.body role))
  | call _ callee arguments rest =>
      callee.1.toList ++ '(' :: (arguments.gap.1 ++ (arguments.body .arguments ++
        ')' :: (rest.mark role ++ (rest.gap.1 ++ rest.body role))))

/-- What is read from the phrases when the first of them starts at an offset: expressions, each with
its range. -/
def reads (role : Role) : Phrases → Nat → List (Range × Expr)
  | nil _, _ => []
  | string _ literal rest, start =>
      let stop := start + Text.byteSize literal.spelling
      let next := stop + Text.byteSize (rest.mark role) + Text.byteSize rest.gap.1
      (⟨start, stop⟩, .string ⟨start, stop⟩ literal.value) :: rest.reads role next
  | call _ callee arguments rest, start =>
      let inner := start + Text.byteSize callee.1.toList
      let first := inner + 1 + Text.byteSize arguments.gap.1
      let stop := first + Text.byteSize (arguments.body .arguments) + 1
      let next := stop + Text.byteSize (rest.mark role) + Text.byteSize rest.gap.1
      (⟨start, stop⟩, .call ⟨start, stop⟩ (.identifier ⟨start, inner⟩ callee.1)
        ((arguments.reads .arguments first).map (·.2))) :: rest.reads role next

/-- The statement that an expression and the semicolon after it are in a module. -/
def statement (entry : Range × Expr) : Part :=
  let range : Range := ⟨entry.1.start, entry.1.stop + 1⟩
  .plain .item range [.plain .statement range [.expr entry.2]]

end Phrases

/-- An import of one name, with its module as it is quoted. -/
def importText (name : String) (quoted : Text) : Text :=
  "import".toList ++ ' ' :: '\x7b' :: ' ' :: (name.toList ++ ' ' :: '\x7d' :: ' ' ::
    ("from".toList ++ ' ' :: (quoted ++ [';'])))

/-- An import of one name and the white space before it. -/
structure ImportLine where
  gap : Gap
  name : BoundName
  source : QuotedString

namespace ImportLine

/-- The import as it is written, without the white space before it. -/
def body (line : ImportLine) : Text := importText line.name.1 line.source.spelling

def text (line : ImportLine) : Text := line.gap.1 ++ line.body

def declaration (line : ImportLine) : ImportDeclaration :=
  ⟨String.ofList line.source.value, [.named line.name.1 line.name.1]⟩

/-- What is read from the import when the white space before it starts at an offset. -/
def item (line : ImportLine) (offset : Nat) : Part :=
  let start := offset + Text.byteSize line.gap.1
  .imports ⟨start, start + Text.byteSize line.body⟩ line.declaration

/-- What is read from imports one after the other. -/
def items : List ImportLine → Nat → List Part
  | [], _ => []
  | line :: lines, offset =>
      line.item offset :: items lines (offset + Text.byteSize line.text)

theorem length_text_pos (line : ImportLine) : 0 < line.text.length := by
  have hbody : line.body ≠ [] :=
    List.append_ne_nil_of_right_ne_nil _ (List.cons_ne_nil _ _)
  rw [text, List.length_append]
  exact Nat.add_pos_right _ (List.length_pos_iff.mpr hbody)

theorem length_le_length_flatMap (lines : List ImportLine) :
    lines.length ≤ (lines.flatMap text).length := by
  induction lines with
  | nil => exact Nat.le_refl _
  | cons line lines ih =>
      have hline := line.length_text_pos
      rw [List.length_cons, List.flatMap_cons, List.length_append]
      omega

end ImportLine

/-- A module that imports single names and then states string literals and calls. -/
structure Script where
  imports : List ImportLine
  statements : Phrases

namespace Script

/-- The text of the imports. -/
def head (script : Script) : Text := script.imports.flatMap ImportLine.text

def text (script : Script) : Text :=
  script.head ++ (script.statements.gap.1 ++ script.statements.body .statements)

/-- The module that the script spells. -/
def module (script : Script) : Module :=
  ⟨ImportLine.items script.imports 0 ++ (script.statements.reads .statements
    (Text.byteSize script.head + Text.byteSize script.statements.gap.1)).map Phrases.statement⟩

end Script

/-! ### Phrases as operands -/

namespace Parser

variable {context : Context} {state : State} {rest back : Text} {offset depth : Nat}

theorem givesOperand_string (literal : QuotedString) (gap : Gap) (depth : Nat)
    (hlimit : (gap.1 ++ (literal.spelling ++ rest)).length ≤ context.limit)
    (hbefore : state.Before context.limit ⟨gap.1 ++ (literal.spelling ++ rest), offset⟩)
    (hcloses : ClosesAt context.limit
      ⟨rest, offset + Text.byteSize gap.1 + Text.byteSize literal.spelling⟩) :
    GivesOperand depth context state (offset + Text.byteSize gap.1)
      (.string ⟨offset + Text.byteSize gap.1,
        offset + Text.byteSize gap.1 + Text.byteSize literal.spelling⟩ literal.value)
      ⟨rest, offset + Text.byteSize gap.1 + Text.byteSize literal.spelling⟩ := by
  rw [List.length_append] at hlimit
  have hstarts := literal.quoted.startsWith literal.isQuote (Nat.le_of_add_left_le hlimit)
    (offset + Text.byteSize gap.1)
  exact givesOperand_text depth hbefore (.gap gap.2 hstarts) hcloses

/-- A call is an operand if its arguments can be read, up to its closing parenthesis. -/
theorem givesOperand_callee (callee : Callee) (gap : Gap) (depth : Nat) {arguments : List Expr}
    {inside : Text} {stop : Nat}
    (hlimit : (gap.1 ++ (callee.1.toList ++ '(' :: inside)).length ≤ context.limit)
    (hstop : offset + Text.byteSize gap.1 + Text.byteSize callee.1.toList ≤ stop)
    (hbefore : state.Before context.limit ⟨gap.1 ++ (callee.1.toList ++ '(' :: inside), offset⟩)
    (hcloses : ClosesAt context.limit ⟨rest, stop⟩)
    (harguments : ∀ (around : Surroundings) (state : State), state.Before context.limit
        ⟨inside, offset + Text.byteSize gap.1 + Text.byteSize callee.1.toList + 1⟩ →
      ∃ last, (loop ([] : List Expr) (argumentStep (grammar depth))).run
          { context with toSurroundings := around } state = .ok (arguments, last) ∧
        last.Before context.limit ⟨rest, stop⟩) :
    GivesOperand depth context state (offset + Text.byteSize gap.1)
      (.call ⟨offset + Text.byteSize gap.1, stop⟩ (.identifier ⟨offset + Text.byteSize gap.1,
        offset + Text.byteSize gap.1 + Text.byteSize callee.1.toList⟩ callee.1) arguments)
      ⟨rest, stop⟩ := by
  have hname := isWordText_of_isBindable (Bool.and_eq_true_iff.mp callee.2).1
  simp only [List.length_append, List.length_cons, String.length_toList] at hlimit
  have hstarts := hname.startsWith (endsWord_cons (by decide : '(' ∈ [' ', '(']) inside)
    (by omega : callee.1.length ≤ context.limit) (offset + Text.byteSize gap.1)
  have hopens := startsWith_punctuator (by decide : ('(', "(") ∈ singles) context.limit inside
    (offset + Text.byteSize gap.1 + Text.byteSize callee.1.toList)
  have hoperand := givesOperand_call depth callee.2 (by omega) hbefore (.gap gap.2 hstarts) hopens
    hcloses harguments
  rwa [Nat.max_eq_right (Nat.le_add_right ..),
    Nat.max_eq_right (Nat.le_trans (Nat.le_add_right ..) hstop)] at hoperand

/-! ### Arguments -/

/-- What comes after an argument ends it: a comma or the closing parenthesis. -/
theorem closesAt_arguments (rest : Phrases) (limit : Nat) (back : Text) (offset : Nat) :
    ClosesAt limit
      ⟨rest.mark .arguments ++ (rest.gap.1 ++ (rest.body .arguments ++ ')' :: back)), offset⟩ := by
  cases rest with
  | nil gap =>
      have hend := startsWith_punctuator (by decide : (')', ")") ∈ singles) limit back
        (offset + Text.byteSize gap.1)
      change ClosesAt limit ⟨gap.1 ++ ')' :: back, offset⟩
      exact ⟨.punctuator ")", by decide, _, _, .gap gap.2 hend⟩
  | string | call =>
      exact ⟨.punctuator ",", by decide, _, _, startsWith_punctuator (by decide) limit _ offset⟩

/-- The end of the arguments. -/
theorem run_argumentStep_nil {g : Grammar} (gap : Gap) (arguments : List Expr)
    (hbefore : state.Before context.limit ⟨gap.1 ++ ')' :: back, offset⟩) :
    (argumentStep g arguments).run context state =
        .ok (.inr arguments, state.next context.limit) ∧
      (state.next context.limit).Before context.limit
        ⟨back, offset + Text.byteSize gap.1 + 1⟩ := by
  have hsees := hbefore.sees (.cons (.gap gap.2 (startsWith_punctuator
    (by decide : (')', ")") ∈ singles) context.limit back _)) (.nil _))
  refine ⟨?_, ?_⟩
  · rw [argumentStep, run_bind_ok (run_eatSymbol hsees)]
    rfl
  · rw [← hsees.after_eq]
    exact State.before_next ..

/-- One argument and what divides it from the next. -/
theorem run_argumentStep {start : Nat} {expr : Expr} (rest : Phrases)
    (hoperand : GivesOperand depth context state start expr
      ⟨rest.mark .arguments ++ (rest.gap.1 ++ (rest.body .arguments ++ ')' :: back)), offset⟩)
    (arguments : List Expr) :
    ∃ next, (argumentStep (grammar (depth + 2)) arguments).run context state =
        .ok (.inl (arguments ++ [expr]), next) ∧
      next.Before context.limit ⟨rest.gap.1 ++ (rest.body .arguments ++ ')' :: back),
        offset + Text.byteSize (rest.mark .arguments)⟩ := by
  have hstarts := hoperand.starts
  obtain ⟨operand, last, hrun, rfl, hlast⟩ := hoperand.run
  rw [argumentStep, run_bind_ok (run_eatSymbol_other (hstarts.isSymbol _))]
  simp only [Bool.false_eq_true, if_false]
  rw [run_bind_ok (run_eatSymbol_other (hstarts.isSymbol _)), run_bind_ok hrun, atSymbol,
    run_inspect_bind]
  cases rest with
  | nil gap =>
      have hlast : last.Before context.limit ⟨gap.1 ++ ')' :: back, offset⟩ := hlast
      have hsees := hlast.sees (.cons (.gap gap.2 (startsWith_punctuator
        (by decide : (')', ")") ∈ singles) context.limit back _)) (.nil _))
      refine ⟨last, ?_, hlast⟩
      rw [hsees.token_eq]
      rfl
  | string gap literal rest | call gap callee inner rest =>
      have hsees := hlast.sees (.cons (startsWith_punctuator
        (by decide : (',', ",") ∈ singles) context.limit _ _) (.nil _))
      refine ⟨last.next context.limit, ?_, ?_⟩
      · have hother : last.token.isSymbol ")" = false := by
          rw [hsees.token_eq]
          rfl
        rw [hother]
        simp only [Bool.false_eq_true, if_false]
        rw [run_bind_ok (run_expectSymbol hsees)]
        rfl
      · have hnext := State.before_next context.limit last
        rw [hsees.after_eq] at hnext
        exact hnext

/-- The arguments of a call are read one by one up to its closing parenthesis.  A call among them
goes two steps deeper into the grammar, and the text of its own arguments is shorter. -/
theorem run_arguments (phrases : Phrases) (context : Context) (arguments : List Expr) {count : Nat}
    (hlimit : (phrases.gap.1 ++ (phrases.body .arguments ++ ')' :: back)).length ≤ context.limit)
    (hcount : (phrases.body .arguments).length < count)
    (hdepth : (phrases.body .arguments).length + 2 ≤ depth)
    (hbefore : state.Before context.limit
      ⟨phrases.gap.1 ++ (phrases.body .arguments ++ ')' :: back), offset⟩) :
    ∃ last, (repeatFrom (argumentStep (grammar depth)) count arguments).run context state =
        .ok (arguments ++ (phrases.reads .arguments
          (offset + Text.byteSize phrases.gap.1)).map (·.2), last) ∧
      last.Before context.limit ⟨back, offset + Text.byteSize phrases.gap.1 +
        Text.byteSize (phrases.body .arguments) + 1⟩ := by
  induction phrases generalizing arguments context state back offset depth count with
  | nil gap =>
      obtain ⟨count, rfl⟩ := Nat.exists_eq_succ_of_ne_zero (Nat.ne_zero_of_lt hcount)
      obtain ⟨hstep, hnext⟩ := run_argumentStep_nil (g := grammar depth) gap arguments hbefore
      refine ⟨_, ?_, hnext⟩
      rw [run_repeatFrom_inr hstep, Phrases.reads, List.map_nil, List.append_nil]
  | string gap literal rest ih =>
      obtain ⟨count, rfl⟩ := Nat.exists_eq_succ_of_ne_zero (Nat.ne_zero_of_lt hcount)
      obtain ⟨depth, rfl⟩ : ∃ more, depth = more + 2 := ⟨depth - 2, by omega⟩
      simp only [Phrases.body, Phrases.gap_string, List.append_assoc]
        at hlimit hcount hdepth hbefore ⊢
      have hoperand := givesOperand_string literal gap depth hlimit hbefore
        (closesAt_arguments rest _ back _)
      obtain ⟨next, hstep, hnext⟩ := run_argumentStep rest hoperand arguments
      have hquotes : 2 ≤ literal.spelling.length := by
        simp [QuotedString.spelling]
      simp only [List.length_append] at hlimit hcount hdepth ih
      obtain ⟨final, hrest, hfinal⟩ := ih context _ (by omega)
        (by omega : (rest.body .arguments).length < count)
        (by omega : (rest.body .arguments).length + 2 ≤ depth + 2) hnext
      refine ⟨final, ?_, ?_⟩
      · rw [run_repeatFrom_inl hstep, hrest, Phrases.reads, List.append_assoc]
        rfl
      · convert hfinal using 2
        simp only [Text.byteSize_append]
        omega
  | call gap callee inner rest ihInner ih =>
      obtain ⟨count, rfl⟩ := Nat.exists_eq_succ_of_ne_zero (Nat.ne_zero_of_lt hcount)
      obtain ⟨depth, rfl⟩ : ∃ more, depth = more + 2 := ⟨depth - 2, by omega⟩
      simp only [Phrases.body, Phrases.gap_call, List.append_assoc, List.cons_append]
        at hlimit hcount hdepth hbefore ⊢
      have hinside := hlimit
      simp only [List.length_append, List.length_cons] at hinside hcount hdepth ih ihInner
      have hoperand := givesOperand_callee callee gap depth hlimit (by omega) hbefore
        (closesAt_arguments rest _ back _) fun around state hstate =>
          ihInner { context with toSurroundings := around } []
            (by simp only [List.length_append, List.length_cons]; omega)
            (by omega : (inner.body .arguments).length < context.limit + 1)
            (by omega : (inner.body .arguments).length + 2 ≤ depth) hstate
      obtain ⟨next, hstep, hnext⟩ := run_argumentStep rest hoperand arguments
      obtain ⟨final, hrest, hfinal⟩ := ih context _ (by omega)
        (by omega : (rest.body .arguments).length < count)
        (by omega : (rest.body .arguments).length + 2 ≤ depth + 2) hnext
      refine ⟨final, ?_, ?_⟩
      · rw [run_repeatFrom_inl hstep, hrest, Phrases.reads, List.append_assoc]
        rfl
      · convert hfinal using 2
        have hsizes : '('.utf8Size = 1 ∧ ')'.utf8Size = 1 := ⟨rfl, rfl⟩
        simp only [Text.byteSize_append, Text.byteSize_cons, hsizes]
        omega

/-! ### Statements -/

theorem closesAt_statements (rest : Phrases) (limit : Nat) (back : Text) (offset : Nat) :
    ClosesAt limit ⟨rest.mark .statements ++ back, offset⟩ :=
  ⟨.punctuator ";", by decide, _, _, startsWith_punctuator (by decide) limit back offset⟩

/-- One statement. -/
theorem run_moduleStep_operand {start stop : Nat} {expr : Expr} (rest : Phrases)
    (hoperand : GivesOperand depth { context with toSurroundings := context.enclosed } state start
      expr ⟨rest.mark .statements ++ back, stop⟩) (hstop : start ≤ stop) (parts : List Part) :
    ∃ after, (moduleStep (grammar (depth + 4)) parts).run context state =
        .ok (.inl (parts ++ [Phrases.statement (⟨start, stop⟩, expr)]), after) ∧
      after.Before context.limit ⟨back, stop + Text.byteSize (rest.mark .statements)⟩ := by
  obtain ⟨after, hitem, hafter⟩ := hoperand.run_item
  refine ⟨after, ?_, hafter⟩
  rw [run_moduleStep hoperand.starts.ne_eof hitem, Nat.max_eq_right (by omega)]
  rfl

/-- The statements are read one by one up to the end of the text. -/
theorem run_statements (depth : Nat) (phrases : Phrases) (parts : List Part) {count : Nat}
    (hlimit : (phrases.gap.1 ++ phrases.body .statements).length ≤ context.limit)
    (hcount : (phrases.body .statements).length < count)
    (hdepth : (phrases.body .statements).length + 4 ≤ depth)
    (hbefore : state.Before context.limit
      ⟨phrases.gap.1 ++ phrases.body .statements, offset⟩) :
    ∃ last, (repeatFrom (moduleStep (grammar depth)) count parts).run context state =
      .ok (parts ++ (phrases.reads .statements
        (offset + Text.byteSize phrases.gap.1)).map Phrases.statement, last) := by
  induction phrases generalizing parts state offset count with
  | nil gap =>
      obtain ⟨count, rfl⟩ := Nat.exists_eq_succ_of_ne_zero (Nat.ne_zero_of_lt hcount)
      have hend := startsWith_eof context.limit (offset + Text.byteSize gap.1)
      have htoken := (hbefore.sees (.cons (.gap gap.2 hend) (.nil _))).token_eq
      refine ⟨state, ?_⟩
      rw [run_repeatFrom_inr (run_moduleStep_eof htoken parts), Phrases.reads, List.map_nil,
        List.append_nil]
  | string gap literal rest ih =>
      obtain ⟨count, rfl⟩ := Nat.exists_eq_succ_of_ne_zero (Nat.ne_zero_of_lt hcount)
      obtain ⟨depth, rfl⟩ : ∃ more, depth = more + 4 := ⟨depth - 4, by omega⟩
      simp only [Phrases.body, Phrases.gap_string] at hlimit hcount hdepth hbefore ⊢
      let enclosed : Context := { context with toSurroundings := context.enclosed }
      have hoperand : GivesOperand depth enclosed state _ _ _ :=
        givesOperand_string literal gap depth hlimit hbefore (closesAt_statements rest ..)
      obtain ⟨next, hstep, hnext⟩ := run_moduleStep_operand rest hoperand (by omega) parts
      simp only [List.length_append, Phrases.mark, List.length_singleton] at hlimit hcount hdepth ih
      obtain ⟨final, hrest⟩ := ih _ (by omega) (by omega : (rest.body .statements).length < count)
        (by omega) hnext
      refine ⟨final, ?_⟩
      rw [run_repeatFrom_inl hstep, hrest, Phrases.reads, List.append_assoc]
      rfl
  | call gap callee inner rest _ ih =>
      obtain ⟨count, rfl⟩ := Nat.exists_eq_succ_of_ne_zero (Nat.ne_zero_of_lt hcount)
      obtain ⟨depth, rfl⟩ : ∃ more, depth = more + 4 := ⟨depth - 4, by omega⟩
      simp only [Phrases.body, Phrases.gap_call] at hlimit hcount hdepth hbefore ⊢
      let enclosed : Context := { context with toSurroundings := context.enclosed }
      have hinside := hlimit
      simp only [List.length_append, List.length_cons, Phrases.mark, List.length_nil]
        at hinside hcount hdepth ih
      have hoperand : GivesOperand depth enclosed state _ _ _ :=
        givesOperand_callee callee gap depth hlimit (by omega) hbefore (closesAt_statements rest ..)
          fun around state hstate =>
            run_arguments inner { context with toSurroundings := around } []
            (by simp only [List.length_append, List.length_cons, Phrases.mark, List.length_nil]
                omega)
            (by omega : (inner.body .arguments).length < context.limit + 1)
            (by omega) hstate
      obtain ⟨next, hstep, hnext⟩ := run_moduleStep_operand rest hoperand (by omega) parts
      obtain ⟨final, hrest⟩ := ih _ (by omega) (by omega : (rest.body .statements).length < count)
        (by omega) hnext
      refine ⟨final, ?_⟩
      rw [run_repeatFrom_inl hstep, hrest, Phrases.reads, List.append_assoc]
      rfl

/-! ### Imports -/

theorem isWordText_import : IsWordText "import".toList :=
  ⟨List.all_eq_true.mp (by decide +kernel), 'i', _, rfl, by decide +kernel, by decide +kernel,
    by decide +kernel⟩

theorem isWordText_from : IsWordText "from".toList :=
  ⟨List.all_eq_true.mp (by decide +kernel), 'f', _, rfl, by decide +kernel, by decide +kernel,
    by decide +kernel⟩

/-- The tokens of an import. -/
theorem scans_importLine (line : ImportLine) (rest : Text) {limit : Nat}
    (hlimit : (line.text ++ rest).length ≤ limit) (offset : Nat) :
    ∃ after, StartsWith limit ⟨line.text ++ rest, offset⟩ (offset + Text.byteSize line.gap.1)
        (.word "import" true) after ∧
      Scans limit after [.punctuator "\x7b", .word line.name.1 true, .punctuator "\x7d",
        .word "from" true, .string line.source.codes, .punctuator ";"]
        ⟨rest, offset + Text.byteSize line.text⟩ := by
  have hname := isWordText_of_isBindable line.name.2
  have hends : ∀ text, EndsWord (' ' :: text) := endsWord_cons (by decide)
  have hlength : "import".length = 6 ∧ "from".length = 4 := ⟨rfl, rfl⟩
  -- An equation for `importText` would evaluate its words character by character.
  delta ImportLine.text ImportLine.body importText at hlimit ⊢
  simp only [List.append_assoc, List.cons_append, List.nil_append] at hlimit ⊢
  simp only [List.length_append, List.length_cons, String.length_toList, hlength] at hlimit
  have hsource : (line.source.quote :: line.source.body ++ [line.source.quote] ++
      ';' :: rest).length ≤ limit := by
    simp only [QuotedString.spelling, List.length_cons, List.length_append] at hlimit ⊢
    omega
  refine ⟨_, .gap line.gap.2 (isWordText_import.startsWith (hends _) (by omega) _), ?_⟩
  refine .cons (.space (startsWith_punctuator (by decide) ..)) ?_
  refine .cons (.space (hname.startsWith (hends _) (by omega) _)) ?_
  refine .cons (.space (startsWith_punctuator (by decide) ..)) ?_
  refine .cons (.space (isWordText_from.startsWith (hends _) (by omega) _)) ?_
  refine .cons (.space (line.source.quoted.startsWith line.source.isQuote hsource _)) ?_
  refine .cons (startsWith_punctuator (by decide) ..) ?_
  convert Scans.nil _ using 2
  have hsizes : ' '.utf8Size = 1 ∧ '\x7b'.utf8Size = 1 ∧ '\x7d'.utf8Size = 1 ∧ ';'.utf8Size = 1 :=
    ⟨rfl, rfl, rfl, rfl⟩
  simp only [Text.byteSize_append, Text.byteSize_cons, Text.byteSize_nil, hsizes,
    QuotedString.spelling]
  omega

/-- Imports are read one by one, and what comes after them is left. -/
theorem run_imports (depth : Nat) (lines : List ImportLine) (count : Nat) (parts : List Part)
    (hlimit : (lines.flatMap ImportLine.text ++ rest).length ≤ context.limit)
    (hbefore : state.Before context.limit ⟨lines.flatMap ImportLine.text ++ rest, offset⟩) :
    ∃ next, (repeatFrom (moduleStep (grammar (depth + 1))) (count + lines.length) parts).run
        context state = (repeatFrom (moduleStep (grammar (depth + 1))) count
          (parts ++ ImportLine.items lines offset)).run context next ∧
      next.Before context.limit
        ⟨rest, offset + Text.byteSize (lines.flatMap ImportLine.text)⟩ := by
  induction lines generalizing state offset parts with
  | nil => exact ⟨state, by rw [ImportLine.items, List.append_nil]; rfl, hbefore⟩
  | cons line lines ih =>
      rw [List.flatMap_cons, List.append_assoc] at hlimit hbefore
      obtain ⟨after, hstarts, hscans⟩ := scans_importLine line _ hlimit offset
      have hsees := hbefore.sees (.cons hstarts hscans)
      rw [List.length_append] at hlimit
      have hsome := line.length_text_pos
      obtain ⟨between, hitem, hbetween⟩ := run_importItem (grammar depth)
        (by omega : 0 < context.limit) (not_reserved_of_isBindable line.name.2) hsees
      have hsize : offset + Text.byteSize line.text =
          offset + Text.byteSize line.gap.1 + Text.byteSize line.body := by
        rw [ImportLine.text, Text.byteSize_append, Nat.add_assoc]
      rw [hbefore.start_eq hstarts] at hitem
      dsimp only at hitem
      rw [Nat.max_eq_right (by omega), hsize] at hitem
      have hbody : (grammar (depth + 1)).item.run context state =
          .ok (line.item offset, between) :=
        run_itemBody_import (grammar depth) rfl hsees hitem
      have htoken : state.token ≠ .eof := by
        rw [hsees.token_eq]
        simp
      obtain ⟨next, hrest, hnext⟩ := ih (parts ++ [line.item offset]) (by omega) hbetween
      refine ⟨next, ?_, ?_⟩
      · rw [List.length_cons, ← Nat.add_assoc,
          run_repeatFrom_inl (run_moduleStep htoken hbody parts), hrest, List.append_assoc]
        rfl
      · rw [List.flatMap_cons, Text.byteSize_append, ← Nat.add_assoc]
        exact hnext

end Parser

/-! ### Scripts as a whole -/

/-- Neither a byte-order mark nor the name of an interpreter stands at the start of the text. -/
def StartsPlainly (text : Text) : Prop := ∀ char ∈ text.head?, char.toNat ≠ 0xFEFF ∧ char ≠ '#'

theorem StartsPlainly.gap {text : Text} (htext : StartsPlainly text) (gap : Gap) :
    StartsPlainly (gap.1 ++ text) := by
  obtain ⟨gap, hgap⟩ := gap
  cases gap with
  | nil => exact htext
  | cons char gap =>
      rintro _ ⟨⟩
      obtain ⟨⟨hspace, hmark⟩, -⟩ := List.forall_mem_cons.mp hgap
      refine ⟨hmark, ?_⟩
      rintro rfl
      cases hspace

theorem Phrases.startsPlainly_body (phrases : Phrases) (role : Role) :
    StartsPlainly (phrases.body role) := by
  cases phrases with
  | nil => exact fun char hchar => by cases hchar
  | string gap literal rest =>
      rintro _ ⟨⟩
      rcases literal.isQuote with hquote | hquote <;> rw [hquote] <;> decide
  | call gap callee arguments rest =>
      have hname := isWordText_of_isBindable (Bool.and_eq_true_iff.mp callee.2).1
      obtain ⟨first, more, hchars, hstart, -, hspace⟩ := hname.start
      rw [body, hchars]
      rintro _ ⟨⟩
      refine ⟨fun hmark => ?_, ?_⟩
      · simp [isSpace, hmark] at hspace
      · rintro rfl
        revert hstart
        decide +kernel

theorem Script.startsPlainly_text (script : Script) : StartsPlainly script.text := by
  unfold text head
  cases script.imports with
  | nil => exact (script.statements.startsPlainly_body _).gap _
  | cons line lines =>
      rw [List.flatMap_cons, ImportLine.text, List.append_assoc, List.append_assoc]
      refine StartsPlainly.gap ?_ _
      rintro _ ⟨⟩
      decide

theorem StartsPlainly.withoutMark {text : Text} (htext : StartsPlainly text) :
    withoutMark text = text := by
  refine if_neg fun hmark => ?_
  obtain ⟨char, hchar, hcode⟩ := Option.map_eq_some_iff.mp hmark
  exact (htext char hchar).1 hcode

theorem StartsPlainly.before {text : Text} (htext : StartsPlainly text) (limit : Nat) :
    (State.scanFrom limit (skipInterpreterLine text) 0 (.empty _)).Before limit ⟨text, 0⟩ := by
  have hcursor : skipInterpreterLine text = ⟨text, 0⟩ := by
    unfold skipInterpreterLine
    split
    · exact absurd rfl (htext '#' rfl).2
    · rfl
  rw [hcursor]
  exact ⟨_, rfl⟩

/-- Every script is read as the module that it spells. -/
theorem Script.parse_text (script : Script) (dialect : Dialect) :
    parse dialect script.text = .ok script.module := by
  have hplain := script.startsPlainly_text
  have hlines : script.imports.length ≤ script.head.length :=
    ImportLine.length_le_length_flatMap script.imports
  have hlength : script.text.length = script.head.length +
      (script.statements.gap.1 ++ script.statements.body .statements).length :=
    List.length_append
  have hbody : (script.statements.gap.1 ++ script.statements.body .statements).length =
      script.statements.gap.1.length + (script.statements.body .statements).length :=
    List.length_append
  obtain ⟨count, hcount⟩ : ∃ count, script.text.length + 1 + 1 = count + script.imports.length :=
    ⟨script.text.length + 2 - script.imports.length, by omega⟩
  let context : Context := { dialect, limit := script.text.length + 1 }
  have hbefore := hplain.before context.limit
  obtain ⟨between, himports, hbetween⟩ := Parser.run_imports
    (8 * script.text.length + 7) script.imports count [] (Nat.le_succ _) hbefore
  obtain ⟨last, hstatements⟩ := Parser.run_statements (8 * script.text.length + 8)
    script.statements ([] ++ ImportLine.items script.imports 0)
    (by change _ ≤ script.text.length + 1; omega) (by omega : _ < count) (by omega) hbetween
  rw [Nat.zero_add] at hstatements
  have hread : readModule dialect script.text = .ok (script.module.items, last) := by
    rw [readModule, hplain.withoutMark, Parser.moduleItems_eq_loop, Parser.loop, Parser.context,
      Parser.run_inspect_bind]
    change (Parser.repeatFrom _ (script.text.length + 1 + 1) []).run _ _ = _
    rw [hcount]
    exact himports.trans hstatements
  rw [parse, hread]

end Untranslated.Syntax
