import Untranslated.Proofs.Criterion
import Untranslated.Proofs.Exchange
import Untranslated.Proofs.ImportStatement

/-!
# Exchanging literals in scripts

The exchange of stray literals for calls turns a script into another script: a
literal becomes a call with the literal as its argument, and a missing import
becomes one more line.  What is done to the text of the script and what is done to
its outline agree, so the parser goes along with the exchange in every script.
-/

namespace Untranslated.Syntax

/-! ### The outline of a script -/

namespace Phrases

/-- A phrase as it is found among others: a statement is held by an item of the module. -/
def enclose (role : Role) (range : Range) (outline : Outline) : Outline :=
  match role with
  | .arguments => outline
  | .statements =>
      let whole : Range := ⟨range.start, range.stop + 1⟩
      .branch .other whole (.branch .other whole outline)

/-- The outline of phrases of which the first starts at an offset. -/
def outline (role : Role) : Phrases → Nat → Outline
  | nil _, _ => .nil
  | string _ literal rest, start =>
      let stop := start + Text.byteSize literal.spelling
      let next := stop + Text.byteSize (rest.mark role) + Text.byteSize rest.gap.1
      enclose role ⟨start, stop⟩ (.leaf (.string literal.value) ⟨start, stop⟩ literal.spelling) ++
        rest.outline role next
  | call _ callee arguments rest, start =>
      let inner := start + Text.byteSize callee.1.toList
      let first := inner + 1 + Text.byteSize arguments.gap.1
      let stop := first + Text.byteSize (arguments.body .arguments) + 1
      let next := stop + Text.byteSize (rest.mark role) + Text.byteSize rest.gap.1
      enclose role ⟨start, stop⟩ (.node (.call (some callee.1) []) ⟨start, stop⟩ []
          (.leaf .other ⟨start, inner⟩ []) (arguments.outline .arguments first) .nil) ++
        rest.outline role next

/-- The outline of what is read from phrases in a text. -/
def outlines (role : Role) (text : Text) (entries : List (Range × Expr)) : Outline :=
  match role with
  | .arguments => Expr.outlines text (entries.map (·.2))
  | .statements => Part.outlines text (entries.map statement)

theorem outlines_cons (role : Role) (text : Text) (entry : Range × Expr)
    (entries : List (Range × Expr)) :
    outlines role text (entry :: entries) =
      enclose role entry.1 (entry.2.outline text) ++ outlines role text entries := by
  cases role with
  | arguments => rfl
  | statements =>
      simp only [outlines, enclose, List.map_cons, statement, Part.outlines, Part.outline,
        Outline.append_nil]

/-- What is read from phrases has their outline. -/
theorem outlines_reads (phrases : Phrases) (role : Role) {text : Text} (front : Text) {back : Text}
    (htext : text = front ++ (phrases.body role ++ back)) :
    outlines role text (phrases.reads role (Text.byteSize front)) =
      phrases.outline role (Text.byteSize front) := by
  induction phrases generalizing role front back with
  | nil => cases role <;> rfl
  | string gap literal rest ih =>
      have hrest := ih role (front ++ (literal.spelling ++ (rest.mark role ++ rest.gap.1)))
        (by simpa [body] using htext)
      have hslice : text.slice? ⟨Text.byteSize front,
          Text.byteSize front + Text.byteSize literal.spelling⟩ = some literal.spelling :=
        Text.slice?_eq_some_iff.mpr ⟨front, _, by simpa [body] using htext, rfl, rfl⟩
      simp only [Text.byteSize_append, ← Nat.add_assoc] at hrest
      simp only [reads, outline, outlines_cons, hrest, Expr.outline, hslice, Option.getD_some]
  | call gap callee arguments rest ihArguments ih =>
      have hsizes : '('.utf8Size = 1 ∧ ')'.utf8Size = 1 := ⟨rfl, rfl⟩
      have harguments := ihArguments .arguments
        (front ++ (callee.1.toList ++ '(' :: arguments.gap.1)) (by simpa [body] using htext)
      have hrest := ih role (front ++ (callee.1.toList ++ '(' :: (arguments.gap.1 ++
        (arguments.body .arguments ++ ')' :: (rest.mark role ++ rest.gap.1)))))
        (by simpa [body] using htext)
      simp only [Text.byteSize_append, Text.byteSize_cons, hsizes, ← Nat.add_assoc]
        at harguments hrest
      simp only [reads, outline, outlines_cons, hrest, Expr.outline, ← harguments]
      rfl

end Phrases

/-! ### Exchanging literals -/

/-- The standing of a literal that is passed to one of the functions, or is not. -/
structure Passes (passed : Bool) (standing : Standing) : Prop where
  wrapped : standing.wrapped = passed
  inAttribute : standing.inAttribute = false

namespace QuotedString

variable (literal : QuotedString) (options : RuleOptions) (passed : Bool) (start : Nat)

/-- The literal is in the target script and not passed to one of the functions. -/
def isStray : Bool := options.targetScript.isMatch literal.spelling && !passed

def site : Site :=
  ⟨.expression, ⟨start, start + Text.byteSize literal.spelling⟩, literal.spelling, passed⟩

theorem visibleEnds_spelling : literal.spelling.VisibleEnds := by
  have hquote : isBlank literal.quote = false := by
    rcases literal.isQuote with hquote | hquote <;> rw [hquote] <;> decide
  rintro char (hhead | hlast)
  · cases hhead
    exact hquote
  · rw [spelling, List.getLast?_concat] at hlast
    cases hlast
    exact hquote

theorem trimmed_site : (literal.site passed start).trimmed = literal.spelling :=
  literal.visibleEnds_spelling.trim_eq

theorem isStray_site :
    (literal.site passed start).isStray options = literal.isStray options passed := by
  rw [Site.isStray, trimmed_site]
  rfl

theorem edit_site (name : String) : (literal.site passed start).edit name =
    ⟨⟨start, start + Text.byteSize literal.spelling⟩,
      name.toList ++ '(' :: (literal.spelling ++ [')'])⟩ := by
  have hblanks : Text.leadingBlanks literal.spelling = [] :=
    List.takeWhile_cons_of_neg (by simp [literal.visibleEnds_spelling literal.quote (Or.inl rfl)])
  have hrange : (literal.site passed start).trimmedRange =
      ⟨start, start + Text.byteSize literal.spelling⟩ := by
    rw [Site.trimmedRange, trimmed_site]
    simp only [site, hblanks]
    rfl
  rw [Site.edit, hrange, Site.value, trimmed_site]
  simp [site, Placement.wrap, Placement.wrapper, Placement.escape]

theorem callOfSite_site (name : String) :
    Outline.callOfSite name (literal.site passed start) = Outline.callOf name literal.spelling := by
  have hvalue : (literal.site passed start).value = literal.spelling :=
    literal.trimmed_site passed start
  simp only [Outline.callOfSite, hvalue]
  rfl

theorem site?_of_passes {passed : Bool} {standing : Standing} (hstanding : Passes passed standing) :
    Outline.site? (.string literal.value) ⟨start, start + Text.byteSize literal.spelling⟩
      literal.spelling standing = some (literal.site passed start) := by
  rw [Outline.site?, hstanding.wrapped, hstanding.inAttribute]
  rfl

theorem sites_leaf {passed : Bool} {standing : Standing} (hstanding : Passes passed standing)
    (names : List String) :
    (Outline.leaf (.string literal.value) ⟨start, start + Text.byteSize literal.spelling⟩
        literal.spelling).sites names (fun _ => standing) 0 = [literal.site passed start] := by
  rw [Outline.leaf, Outline.sites, literal.site?_of_passes start hstanding]
  rfl

theorem exchange_leaf {options : RuleOptions} {passed : Bool} {standing : Standing}
    (hstanding : Passes passed standing) (names : List String) (name : String) :
    (Outline.leaf (.string literal.value) ⟨start, start + Text.byteSize literal.spelling⟩
        literal.spelling).exchange options names name (fun _ => standing) 0 =
      if literal.isStray options passed then Outline.callOf name literal.spelling
      else .leaf (.string literal.value) ⟨start, start + Text.byteSize literal.spelling⟩
        literal.spelling := by
  rw [Outline.leaf, Outline.exchange, literal.site?_of_passes start hstanding, Option.filter_some,
    literal.isStray_site, ← literal.callOfSite_site passed start]
  cases literal.isStray options passed with
  | true => exact Outline.append_nil _
  | false => rfl

end QuotedString

namespace Phrases

/-- The phrases with their stray literals exchanged for calls of a function.  It is said whether the
phrases themselves are passed to one of the functions. -/
def exchange (options : RuleOptions) (names : List String) (name : Callee) :
    Bool → Phrases → Phrases
  | _, nil gap => nil gap
  | passed, string gap literal rest =>
      let rest := rest.exchange options names name passed
      if literal.isStray options passed then
        call gap name (string noGap literal (nil noGap)) rest
      else string gap literal rest
  | passed, call gap callee arguments rest =>
      call gap callee (arguments.exchange options names name (names.contains callee.1))
        (rest.exchange options names name passed)

/-- The standing of what phrases enclose. -/
def Role.inside (role : Role) (standing : Standing) : Standing :=
  match role with
  | .arguments => standing
  | .statements => (standing.ofHeld .other).ofHeld .other

theorem site?_other (range : Range) (raw : Text) (standing : Standing) :
    Outline.site? .other range raw standing = none := rfl

section Enclosed

variable (role : Role) (range : Range) (kind : NodeKind) (own : Range) (raw : Text)
  (held arguments rest : Outline) (standing : Nat → Standing) (index : Nat)

theorem sites_enclose (names : List String) :
    (enclose role range (.node kind own raw held arguments .nil) ++ rest).sites names standing
        index =
      (Outline.node kind own raw held arguments .nil).sites names
          (fun _ => role.inside (standing index)) 0 ++
        rest.sites names standing (index + 1) := by
  cases role with
  | arguments =>
      simp only [enclose, Outline.node_append, Outline.nil_append, Outline.sites, Role.inside,
        List.append_nil, List.append_assoc]
  | statements =>
      simp only [enclose, Outline.branch, Outline.node_append, Outline.nil_append, Outline.sites,
        Role.inside, List.append_nil, site?_other, Option.toList_none, List.nil_append]

theorem exchange_enclose (options : RuleOptions) (names : List String) (name : String) :
    (enclose role range (.node kind own raw held arguments .nil) ++ rest).exchange options names
        name standing index =
      enclose role range ((Outline.node kind own raw held arguments .nil).exchange options names
          name (fun _ => role.inside (standing index)) 0) ++
        rest.exchange options names name standing (index + 1) := by
  cases role with
  | arguments =>
      simp only [enclose, Outline.node_append, Outline.nil_append, Outline.exchange, Role.inside]
      split <;> simp
  | statements =>
      simp only [enclose, Outline.branch, Outline.node_append, Outline.nil_append, Outline.exchange,
        Role.inside, site?_other, Option.filter_none]

theorem bare_enclose (other : Range) {outline others : Outline}
    (hsame : outline.bare = others.bare) :
    (enclose role range outline).bare = (enclose role other others).bare := by
  cases role with
  | arguments => exact hsame
  | statements => simp only [enclose, Outline.branch, Outline.bare, hsame]

end Enclosed

variable (options : RuleOptions) (names : List String) (name : Callee)

theorem gap_exchange (passed : Bool) (phrases : Phrases) :
    (phrases.exchange options names name passed).gap = phrases.gap := by
  cases phrases with
  | nil => rfl
  | string gap literal rest =>
      rw [exchange]
      split <;> rfl
  | call => rfl

theorem mark_exchange (passed : Bool) (phrases : Phrases) (role : Role) :
    (phrases.exchange options names name passed).mark role = phrases.mark role := by
  cases role with
  | statements => rfl
  | arguments =>
      cases phrases with
      | nil => rfl
      | string gap literal rest =>
          rw [exchange]
          split <;> rfl
      | call => rfl

/-- The arguments of a call are passed to one of the functions if it is one. -/
theorem passes_ofArgument (callee : String) (standing : Standing) (index : Nat) :
    Passes (names.contains callee)
      (Role.arguments.inside (standing.ofArgument names (.call (some callee) []) index)) :=
  ⟨rfl, rfl⟩

/-- The literals in a call are those among its arguments. -/
theorem sites_call (callee : String) (range inner : Range) (arguments : Outline)
    (standing : Standing) :
    (Outline.node (.call (some callee) []) range [] (.leaf .other inner []) arguments .nil).sites
        names (fun _ => standing) 0 =
      arguments.sites names (standing.ofArgument names (.call (some callee) [])) 0 :=
  List.append_nil _

theorem passes_statement : Passes false (Role.statements.inside {}) := ⟨rfl, rfl⟩

/-- The exchange in the outline of phrases is the outline of the phrases after the exchange. -/
theorem bare_exchange_outline (phrases : Phrases) (role : Role) {passed : Bool}
    (standing : Nat → Standing) (hstanding : ∀ index, Passes passed (role.inside (standing index)))
    (index start start' : Nat) :
    ((phrases.outline role start).exchange options names name.1 standing index).bare =
      ((phrases.exchange options names name passed).outline role start').bare := by
  induction phrases generalizing role passed standing index start start' with
  | nil => rfl
  | string gap literal rest ih =>
      rw [outline, exchange, Outline.leaf, exchange_enclose, ← Outline.leaf,
        literal.exchange_leaf start (hstanding index), Outline.bare_append]
      cases hstray : literal.isStray options passed with
      | true | false =>
          simp only [if_true, Bool.false_eq_true, if_false, outline, Outline.bare_append]
          congr 1
          · exact bare_enclose _ _ _ rfl
          · exact ih role standing hstanding ..
  | call gap callee arguments rest ihArguments ih =>
      have hargument := passes_ofArgument names callee.1 (role.inside (standing index))
      rw [outline, exchange, exchange_enclose, Outline.bare_append, outline, Outline.bare_append]
      congr 1
      · refine bare_enclose _ _ _ ?_
        simp only [Outline.exchange, Outline.site?, Option.filter_none, Outline.bare, Outline.leaf]
        congr 1
        exact ihArguments .arguments _ hargument ..
      · exact ih role standing hstanding ..

/-- The text of a call that a literal is exchanged for. -/
theorem body_call_string (role : Role) (gap : Gap) (literal : QuotedString) (rest : Phrases) :
    (call gap name (string noGap literal (nil noGap)) rest).body role =
      name.1.toList ++ '(' :: (literal.spelling ++
        ')' :: (rest.mark role ++ (rest.gap.1 ++ rest.body role))) := by
  have hinner : (string noGap literal (nil noGap)).body .arguments = literal.spelling :=
    List.append_nil _
  rw [body, hinner]
  rfl

/-- The edits of the stray literals turn the text of phrases into the text after the exchange. -/
theorem rewrites_exchange (phrases : Phrases) (role : Role) {passed : Bool}
    (standing : Nat → Standing) (hstanding : ∀ index, Passes passed (role.inside (standing index)))
    (index start : Nat) {back result : Text} {edits : List Edit}
    (hback : back.Rewrites (start + Text.byteSize (phrases.body role)) edits result) :
    (phrases.body role ++ back).Rewrites start
      ((((phrases.outline role start).sites names standing index).filter
        (·.isStray options)).map (Site.edit name.1) ++ edits)
      ((phrases.exchange options names name passed).body role ++ result) := by
  induction phrases generalizing role passed standing index start back result edits with
  | nil => exact hback
  | string gap literal rest ih =>
      rw [body, Text.byteSize_append, Text.byteSize_append, Text.byteSize_append] at hback
      simp only [← Nat.add_assoc] at hback
      have hrest :=
        ((ih role standing hstanding (index + 1) _ hback).keep rest.gap.1).keep (rest.mark role)
      rw [outline, Outline.leaf, sites_enclose, ← Outline.leaf,
        literal.sites_leaf start (hstanding index), body, exchange]
      cases hstray : literal.isStray options passed with
      | true =>
          have hchange := hrest.change literal.spelling
            (name.1.toList ++ '(' :: (literal.spelling ++ [')']))
          rw [← literal.edit_site passed start] at hchange
          simpa [body_call_string, gap_exchange, mark_exchange, literal.isStray_site, hstray]
            using hchange
      | false =>
          have hkeep := hrest.keep literal.spelling
          simpa [body, gap_exchange, mark_exchange, literal.isStray_site, hstray] using hkeep
  | call gap callee arguments rest ihArguments ih =>
      have hargument := passes_ofArgument names callee.1 (role.inside (standing index))
      have hsizes : '('.utf8Size = 1 ∧ ')'.utf8Size = 1 := ⟨rfl, rfl⟩
      simp only [body, Text.byteSize_append, Text.byteSize_cons, hsizes, ← Nat.add_assoc] at hback
      have hrest :=
        ((ih role standing hstanding (index + 1) _ hback).keep rest.gap.1).keep (rest.mark role)
      have harguments := ((ihArguments .arguments _ hargument 0 _ (hrest.keep [')'])).keep
        arguments.gap.1).keep ['(']
      have hcall := harguments.keep callee.1.toList
      rw [outline, sites_enclose, sites_call, body, exchange, body]
      simpa [gap_exchange, mark_exchange] using hcall

end Phrases

/-! ### Imports -/

theorem Part.outlines_append (text : Text) (parts others : List Part) :
    Part.outlines text (parts ++ others) =
      Part.outlines text parts ++ Part.outlines text others := by
  induction parts with
  | nil => rfl
  | cons part parts ih =>
    rw [List.cons_append, Part.outlines, Part.outlines, ih, Outline.append_assoc]

namespace ImportLine

/-- The outline of imports one after the other. -/
def outline : List ImportLine → Nat → Outline
  | [], _ => .nil
  | line :: lines, offset =>
      let start := offset + Text.byteSize line.gap.1
      .leaf (.imports line.declaration) ⟨start, start + Text.byteSize line.body⟩ [] ++
        outline lines (offset + Text.byteSize line.text)

theorem outlines_items (text : Text) (lines : List ImportLine) (offset : Nat) :
    Part.outlines text (items lines offset) = outline lines offset := by
  induction lines generalizing offset with
  | nil => rfl
  | cons line lines ih =>
      rw [items, Part.outlines, ih]
      rfl

variable (lines : List ImportLine) (offset : Nat)

theorem imports_outline : (outline lines offset).imports.map (·.2) = lines.map declaration := by
  induction lines generalizing offset with
  | nil => rfl
  | cons line lines ih => exact congrArg (line.declaration :: ·) (ih _)

/-- The last import ends where the imports end. -/
theorem getLast?_imports (hlines : lines ≠ []) :
    ∃ last, (outline lines offset).imports.getLast? = some last ∧
      last.1.stop = offset + Text.byteSize (lines.flatMap text) := by
  induction lines generalizing offset with
  | nil => exact absurd rfl hlines
  | cons line lines ih =>
      rw [List.flatMap_cons, Text.byteSize_append, ← Nat.add_assoc]
      cases lines with
      | nil =>
          refine ⟨_, rfl, ?_⟩
          rw [text, Text.byteSize_append, ← Nat.add_assoc, List.flatMap_nil, Text.byteSize_nil,
            Nat.add_zero]
          rfl
      | cons next lines =>
          obtain ⟨last, hlast, hstop⟩ := ih (offset + Text.byteSize line.text) (by simp)
          refine ⟨last, ?_, hstop⟩
          rw [outline, Outline.imports_append, List.getLast?_append, hlast, Option.some_or]

theorem bare_outline_concat (line : ImportLine) :
    (outline (lines ++ [line]) offset).bare = (outline lines offset).bare ++
      .leaf (.imports line.declaration) (.at' 0) [] := by
  induction lines generalizing offset with
  | nil => rfl
  | cons first lines ih =>
      exact congrArg (Outline.node (.imports first.declaration) (.at' 0) [] .nil .nil) (ih _)

variable (others : Outline) (names : List String) (standing : Nat → Standing) (index : Nat)

theorem sites_outline_append :
    (outline lines offset ++ others).sites names standing index =
      others.sites names standing (index + lines.length) := by
  induction lines generalizing offset index with
  | nil => rfl
  | cons line lines ih =>
      rw [List.length_cons, Nat.add_comm lines.length, ← Nat.add_assoc, ← ih]
      rfl

theorem exchange_outline_append (options : RuleOptions) (name : String) :
    (outline lines offset ++ others).exchange options names name standing index =
      outline lines offset ++
        others.exchange options names name standing (index + lines.length) := by
  induction lines generalizing offset index with
  | nil => rfl
  | cons line lines ih =>
      rw [List.length_cons, Nat.add_comm lines.length, ← Nat.add_assoc]
      exact congrArg (Outline.node _ _ _ _ _) (ih ..)

/-- What is added after the last import stands between the imports and what comes after them. -/
theorem insertAfterImports_outline_append (hlines : lines ≠ []) (hothers : others.imports = [])
    (added : Outline) :
    (outline lines offset ++ others).insertAfterImports added =
      outline lines offset ++ (added ++ others) := by
  induction lines generalizing offset with
  | nil => exact absurd rfl hlines
  | cons line lines ih =>
      cases lines with
      | nil => exact congrArg (Outline.node _ _ _ _ _) (if_pos (List.isEmpty_iff.mpr hothers))
      | cons next lines =>
          exact congrArg (Outline.node _ _ _ _ _)
            ((if_neg Bool.false_ne_true).trans (ih _ (List.cons_ne_nil next lines)))

end ImportLine

/-! ### Scripts -/

namespace Phrases

theorem imports_outline (phrases : Phrases) (start : Nat) :
    (phrases.outline .statements start).imports = [] := by
  induction phrases generalizing start with
  | nil => rfl
  | string gap literal rest ih => exact ih _
  | call gap callee arguments rest _ ih => exact ih _

/-- The phrases with other white space before the first. -/
def withGap (gap : Gap) : Phrases → Phrases
  | nil _ => nil gap
  | string _ literal rest => string gap literal rest
  | call _ callee arguments rest => call gap callee arguments rest

variable (gap : Gap) (phrases : Phrases) (role : Role)

theorem gap_withGap : (phrases.withGap gap).gap = gap := by
  cases phrases <;> rfl

theorem body_withGap : (phrases.withGap gap).body role = phrases.body role := by
  cases phrases <;> rfl

theorem outline_withGap (start : Nat) :
    (phrases.withGap gap).outline role start = phrases.outline role start := by
  cases phrases <;> rfl

end Phrases

namespace Script

/-- The outline of a script. -/
def outline (script : Script) : Outline :=
  ImportLine.outline script.imports 0 ++ script.statements.outline .statements
    (Text.byteSize script.head + Text.byteSize script.statements.gap.1)

theorem outline_module (script : Script) : script.module.outline script.text = script.outline := by
  have htext : script.text = script.head ++ script.statements.gap.1 ++
      (script.statements.body .statements ++ []) := by
    simp [text]
  have hstatements := script.statements.outlines_reads .statements _ htext
  rw [Text.byteSize_append] at hstatements
  rw [Module.outline, module, Part.outlines_append, ImportLine.outlines_items, outline,
    ← hstatements]
  rfl

variable (script : Script) (options : RuleOptions) (names : List String) (name : Callee)

theorem imports_outline : script.outline.imports.map (·.2) =
    script.imports.map ImportLine.declaration := by
  rw [outline, Outline.imports_append, Phrases.imports_outline, List.append_nil,
    ImportLine.imports_outline]

/-- The script with its stray literals exchanged for calls. -/
def exchange : Script :=
  ⟨script.imports, script.statements.exchange options names name false⟩

theorem bare_exchange : (script.outline.exchange options names name.1 (fun _ => {}) 0).bare =
    (script.exchange options names name).outline.bare := by
  rw [outline, ImportLine.exchange_outline_append, Outline.bare_append,
    Phrases.bare_exchange_outline options names name script.statements .statements
      _ (fun _ => Phrases.passes_statement) _ _ _, ← Outline.bare_append]
  rfl

/-- The edits of the stray literals, in the statements. -/
theorem rewrites_statements :
    (script.statements.body .statements).Rewrites
      (Text.byteSize script.head + Text.byteSize script.statements.gap.1)
      ((script.outline.strays options names).map (Site.edit name.1))
      ((script.exchange options names name).statements.body .statements) := by
  have hrewrites := script.statements.rewrites_exchange options names name .statements
    (fun _ => {}) (fun _ => Phrases.passes_statement) script.imports.length
    (Text.byteSize script.head + Text.byteSize script.statements.gap.1) (.done [] _)
  rw [List.append_nil, List.append_nil, List.append_nil] at hrewrites
  rw [Outline.strays, outline, ImportLine.sites_outline_append, Nat.zero_add]
  exact hrewrites

/-- The edits of the stray literals, in a script that is given no import. -/
theorem rewrites_exchange :
    script.text.Rewrites 0 ((script.outline.strays options names).map (Site.edit name.1))
      (script.exchange options names name).text := by
  have hrewrites := script.rewrites_statements options names name
  rw [← Nat.zero_add (Text.byteSize script.head)] at hrewrites
  have htext := (hrewrites.keep script.statements.gap.1).keep script.head
  rw [text, text, exchange, Phrases.gap_exchange]
  exact htext

/-- A line of its own. -/
def lineFeed : Gap := ⟨['\n'], by decide⟩

/-- A line of its own, with an empty one before it. -/
def blankLine : Gap := ⟨['\n', '\n'], by decide⟩

/-- The script with one more import: after the last one, or before everything else. -/
def addImport (line : Gap → ImportLine) : Script :=
  match script.imports with
  | [] => ⟨[line script.statements.gap], script.statements.withGap blankLine⟩
  | first :: rest => ⟨first :: rest ++ [line lineFeed], script.statements⟩

theorem bare_addImport {line : Gap → ImportLine} {declaration : ImportDeclaration}
    (hline : ∀ gap, (line gap).declaration = declaration) :
    ((script.outline.exchange options names name.1 (fun _ => {}) 0).addImport declaration).bare =
      ((script.exchange options names name).addImport line).outline.bare := by
  have hstatements := script.statements.bare_exchange_outline options names name .statements
    (fun _ => {}) fun _ => Phrases.passes_statement
  have hadded : ∀ gap, (Outline.leaf (.imports declaration) (.at' 0) []).bare =
      .leaf (.imports (line gap).declaration) (.at' 0) [] := by
    intro gap
    rw [hline]
    rfl
  have hnone : ∀ index start, ((script.statements.outline .statements start).exchange options names
      name.1 (fun _ => {}) index).imports = [] := by
    intro index start
    rw [Outline.imports_exchange, Phrases.imports_outline]
  rw [Outline.addImport, outline, ImportLine.exchange_outline_append, Outline.imports_append, hnone,
    List.append_nil]
  cases himports : script.imports with
  | nil =>
      have hempty : (ImportLine.outline [] 0).imports.isEmpty = true := rfl
      rw [if_pos hempty, Outline.bare_append,
        hadded (script.exchange options names name).statements.gap]
      simp only [addImport, exchange, himports, outline, Phrases.outline_withGap,
        Outline.bare_append]
      exact congrArg (_ ++ ·) (hstatements ..)
  | cons first rest =>
      have hsome : (ImportLine.outline (first :: rest) 0).imports.isEmpty = false := rfl
      rw [hsome, if_neg Bool.false_ne_true, ImportLine.insertAfterImports_outline_append _ _ _
        (List.cons_ne_nil first rest) (hnone ..), Outline.bare_append, Outline.bare_append,
        hadded lineFeed]
      simp only [addImport, exchange, himports, outline, Outline.bare_append]
      rw [ImportLine.bare_outline_concat, Outline.append_assoc, hstatements]

section AddImport

variable {script options names} {codes : List Nat}
  (hname : isBindable options.wrapperFunction = true)
  (hmodule : StringText options.translationModule.toList codes)

include hname hmodule

/-- The insertion of an import after others. -/
theorem rewrites_addImport_of_ne_nil (himports : script.imports ≠ []) :
    script.text.Rewrites 0 ((script.outline.importEdit? options).toList ++
        (script.outline.strays options names).map (Site.edit name.1))
      ((script.exchange options names name).addImport
        (options.importLine hname hmodule)).text := by
  obtain ⟨⟨range, declaration⟩, hlast, hstop⟩ :=
    ImportLine.getLast?_imports script.imports 0 himports
  have hedit : script.outline.importEdit? options =
      some ⟨⟨Text.byteSize script.head, Text.byteSize script.head + Text.byteSize []⟩,
        '\n' :: options.importStatement.toList⟩ := by
    have himports : script.outline.imports.getLast? = some (range, declaration) := by
      rw [outline, Outline.imports_append, Phrases.imports_outline, List.append_nil, hlast]
    have hstop : range.stop = Text.byteSize script.head := hstop.trans (Nat.zero_add _)
    unfold Outline.importEdit?
    rw [himports, ← hstop]
    rfl
  have hstatements := script.rewrites_statements options names name
  have hinserted := (hstatements.keep script.statements.gap.1).change []
    ('\n' :: options.importStatement.toList)
  rw [← Nat.zero_add (Text.byteSize script.head)] at hinserted
  have htext := hinserted.keep script.head
  rw [Nat.zero_add] at htext
  have hfixed : ((script.exchange options names name).addImport
      (options.importLine hname hmodule)).text = script.head ++
        ('\n' :: options.importStatement.toList ++ (script.statements.gap.1 ++
          (script.exchange options names name).statements.body .statements)) := by
    cases hlines : script.imports with
    | nil => exact absurd hlines himports
    | cons first rest =>
        rw [← RuleOptions.body_importLine hname hmodule lineFeed]
        simp only [addImport, exchange, hlines, text, head, Phrases.gap_exchange,
          List.flatMap_append, List.flatMap_singleton, List.append_assoc]
        rfl
  rw [hedit, hfixed]
  exact htext

/-- The insertion of the first import. -/
theorem rewrites_addImport_of_eq_nil (himports : script.imports = []) {others : List String}
    (hstrays : script.outline.strays options others ≠ []) :
    script.text.Rewrites 0 ((script.outline.importEdit? options).toList ++
        (script.outline.strays options names).map (Site.edit name.1))
      ((script.exchange options names name).addImport
        (options.importLine hname hmodule)).text := by
  have hhead : script.head = [] := by
    rw [head, himports]
    rfl
  have hedit : script.outline.importEdit? options =
      some ⟨⟨Text.byteSize script.statements.gap.1,
        Text.byteSize script.statements.gap.1 + Text.byteSize []⟩,
        options.importStatement.toList ++ ['\n', '\n']⟩ := by
    have houtline : script.outline = script.statements.outline .statements
        (Text.byteSize script.statements.gap.1) := by
      rw [outline, hhead, himports, Text.byteSize_nil, Nat.zero_add]
      rfl
    rw [houtline] at hstrays ⊢
    unfold Outline.importEdit?
    rw [Phrases.imports_outline]
    cases hstatements : script.statements with
    | nil gap =>
        rw [hstatements] at hstrays
        exact absurd rfl hstrays
    | string | call => rfl
  have hstatements := script.rewrites_statements options names name
  rw [hhead, Text.byteSize_nil, Nat.zero_add] at hstatements
  have hinserted := hstatements.change [] (options.importStatement.toList ++ ['\n', '\n'])
  rw [← Nat.zero_add (Text.byteSize script.statements.gap.1)] at hinserted
  have htext := hinserted.keep script.statements.gap.1
  rw [Nat.zero_add] at htext
  have hfixed : ((script.exchange options names name).addImport
      (options.importLine hname hmodule)).text = script.statements.gap.1 ++
        (options.importStatement.toList ++ ['\n', '\n'] ++
          (script.exchange options names name).statements.body .statements) := by
    rw [← RuleOptions.body_importLine hname hmodule script.statements.gap]
    simp only [addImport, exchange, himports, text, head, Phrases.gap_exchange,
      Phrases.gap_withGap, Phrases.body_withGap, List.flatMap_singleton, List.append_assoc]
    exact List.append_assoc ..
  rw [hedit, hfixed, text, hhead]
  exact htext

end AddImport

/-- The names that a script makes known are names that it imports. -/
theorem exists_import_of_mem_names {options : RuleOptions} {name : String}
    (hname : name ∈ script.outline.names options) :
    ∃ line ∈ script.imports, line.name.1 = name := by
  rw [Outline.names, imports_outline, importedNames, mem_distinct, List.mem_flatMap] at hname
  obtain ⟨declaration, hdeclaration, hname⟩ := hname
  obtain ⟨line, hline, rfl⟩ := List.mem_map.mp (List.mem_of_mem_filter hdeclaration)
  refine ⟨line, hline, ?_⟩
  simpa [ImportLine.declaration, eq_comm] using hname

/-- What the exchange may write into the script can be read: the names by which the functions are
called, and the module path between its quotes. -/
structure Exchangeable : Prop where
  wrapperFunction : isCallable options.wrapperFunction = true
  translationModule : options.translationModule.toList.all (IsPlain ·) = true
  imports : ∀ line ∈ script.imports, isCallable line.name.1 = true

variable {script options}

/-- The exchange turns a script into a script. -/
theorem Exchangeable.exists_exchanged (hscript : script.Exchangeable options) :
    ∃ exchanged : Script, exchangedText options script.text script.module = exchanged.text ∧
      exchanged.outline.bare = (script.outline.fixed options).bare := by
  have hbindable : isBindable options.wrapperFunction = true :=
    (Bool.and_eq_true_iff.mp hscript.wrapperFunction).1
  have hquoted := stringText_of_isPlain hscript.translationModule
  have hdeclaration : ∀ gap, (options.importLine hbindable hquoted gap).declaration =
      options.declaration := by
    intro gap
    rw [ImportLine.declaration, QuotedString.value]
    simp only [RuleOptions.importLine, QuotedString.single, decodeLossy_map_toNat,
      String.ofList_toList]
    rfl
  cases hnames : script.outline.names options with
  | nil =>
      by_cases hstrays : script.outline.strays options [] = []
      · refine ⟨script, exchangedText_of_rewrites ?_, ?_⟩
        · rw [outline_module, Outline.replacements, hnames, hstrays]
          exact .done _ _
        · rw [Outline.fixed, hnames, hstrays]
          rfl
      · let callee : Callee := ⟨options.wrapperFunction, hscript.wrapperFunction⟩
        have hsome : (script.outline.strays options []).isEmpty = false :=
          List.isEmpty_eq_false_iff.mpr hstrays
        refine ⟨(script.exchange options [options.wrapperFunction] callee).addImport
          (options.importLine hbindable hquoted), exchangedText_of_rewrites ?_, ?_⟩
        · rw [outline_module, Outline.replacements, hnames]
          simp only [hsome, Bool.false_eq_true, if_false]
          by_cases hlines : script.imports = []
          · exact rewrites_addImport_of_eq_nil callee hbindable hquoted hlines hstrays
          · exact rewrites_addImport_of_ne_nil callee hbindable hquoted hlines
        · rw [Outline.fixed, hnames]
          simp only [hsome, Bool.false_eq_true, if_false]
          exact (script.bare_addImport options [options.wrapperFunction] callee
            hdeclaration).symm
  | cons name names =>
      obtain ⟨line, hline, hcallee⟩ := script.exists_import_of_mem_names
        (hnames ▸ List.mem_cons_self)
      let callee : Callee := ⟨name, hcallee ▸ hscript.imports line hline⟩
      refine ⟨script.exchange options (name :: names) callee, exchangedText_of_rewrites ?_, ?_⟩
      · rw [outline_module, Outline.replacements, hnames]
        exact script.rewrites_exchange options (name :: names) callee
      · rw [Outline.fixed, hnames]
        exact (script.bare_exchange options (name :: names) callee).symm

/-- The parser goes along with the exchange in a script, and can read what the exchange leaves. -/
theorem Exchangeable.follows_parse (hscript : script.Exchangeable options) (dialect : Dialect) :
    Follows (parse dialect) options script.text ∧
      ∃ exchanged, parse dialect (exchangedText options script.text script.module) =
        .ok exchanged := by
  obtain ⟨exchanged, htext, hbare⟩ := hscript.exists_exchanged
  have hread : parse dialect (exchangedText options script.text script.module) =
      .ok exchanged.module := by
    rw [htext, exchanged.parse_text]
  refine ⟨follows_of_read (script.parse_text dialect) hread ?_, _, hread⟩
  rw [htext, exchanged.outline_module, script.outline_module, hbare]

end Script

end Untranslated.Syntax
