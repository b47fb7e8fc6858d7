import Untranslated.Proofs.Detection
import Untranslated.Proofs.Faithfulness
import Untranslated.Proofs.Lossless
import Untranslated.Proofs.ScriptExchange

/-!
# Fixing once is enough

The fixes of a file are the exchange of its stray literals for calls, and nothing
is stray in a file after the exchange.  So the fixed text is clean, provided that
the parser goes along: that it reads the text after the exchange as the syntax
after the exchange, and that the ranges it gives are right.  The ranges are right in
every text without a byte-order mark, and in scripts the parser goes along.  Where a
literal stands that no call can stand in for, it does not, and the fixed text need
not even be a program.
-/

namespace Untranslated

open Syntax

namespace Tree

variable {tree : Tree} {options : RuleOptions} {names : List String}

/-- What is untranslated in the tree, as sites. -/
theorem map_site_untranslated (tree : Tree) (options : RuleOptions)
    (names : List String) :
    (tree.literals.filter (tree.isUntranslated options names)).map
        (tree.site names) =
      (tree.literals.map (tree.site names)).filter (·.isStray options) := by
  rw [List.filter_map]
  rfl

theorem isWrapped_nil (tree : Tree) (id : Nat) : tree.isWrapped id [] = false := by
  have hargument : ∀ id, tree.isArgument id [] = false := by
    intro id
    unfold isArgument
    split <;> simp
  have hsecond : ∀ id, tree.isSecondArgument id [] = false := by
    intro id
    unfold isSecondArgument
    split <;> simp
  rw [isWrapped, hargument, Bool.false_or, isContext]
  split
  · rfl
  · split
    · split
      · rfl
      · rw [hsecond, Bool.and_false]
    · rfl

/-- What is untranslated and not exempt is what is untranslated by the effective
names. -/
theorem isUntranslated_effectiveNames (tree : Tree) (options : RuleOptions)
    (literal : Literal) :
    tree.isUntranslated options (tree.effectiveNames options) literal =
      (tree.isUntranslated options (tree.wrapperNames options.modulePattern) literal &&
        !tree.isWrapped literal.anchor (tree.effectiveNames options)) := by
  unfold effectiveNames
  cases tree.wrapperNames options.modulePattern with
  | nil => simp only [isUntranslated, isWrapped_nil, Bool.not_false, Bool.and_true]
  | cons name names =>
      simp only [isUntranslated, Bool.and_assoc, Bool.and_self]

/-- The replacement of an untranslated literal is that of its site. -/
theorem wrap?_eq_edit (htree : tree.Faithful) {literal : Literal}
    (hliteral : literal ∈ tree.literals) (htrimmed : literal.trimmed ≠ [])
    (hwrapped : tree.isWrapped literal.anchor (tree.effectiveNames options) = false) :
    tree.wrap? options literal = some ((tree.site names literal).edit
      (tree.effectiveName options)) := by
  obtain ⟨node, hnode, -, -, hrange⟩ :=
    htree.trimmedRange?_eq_some (literal?_of_mem_literals hliteral) htrimmed
  have hsite : (tree.site names literal).range = node.range := by
    rw [site, hnode]
    rfl
  rw [wrap?, hwrapped, hrange]
  simp only [Bool.false_eq_true, if_false, Option.map_some, Site.edit,
    Site.trimmedRange, hsite]
  rfl

/-- The replacements of a faithful tree, as those of its sites. -/
theorem filterMap_wrap? (htree : tree.Faithful) (options : RuleOptions) :
    (tree.untranslated options).filterMap (tree.wrap? options) =
      ((tree.literals.filter (tree.isUntranslated options
        (tree.effectiveNames options))).map
          (tree.site (tree.effectiveNames options))).map
            (Site.edit (tree.effectiveName options)) := by
  rw [untranslated, List.filterMap_filter, List.map_map, ← List.filterMap_eq_map,
    List.filterMap_filter]
  apply List.filterMap_congr
  intro literal hliteral
  rw [isUntranslated_effectiveNames]
  cases huntranslated : tree.isUntranslated options
      (tree.wrapperNames options.modulePattern) literal with
  | false => simp
  | true =>
      cases hwrapped : tree.isWrapped literal.anchor
          (tree.effectiveNames options) with
      | true => simp [wrap?, hwrapped]
      | false =>
          have htrimmed : literal.trimmed ≠ [] :=
            trimmed_ne_nil_of_mem_untranslated
              (List.mem_filter.mpr ⟨hliteral, huntranslated⟩)
          rw [if_pos rfl, if_pos (by rfl)]
          exact wrap?_eq_edit htree hliteral htrimmed hwrapped

section OfModule

variable (text : Text) (program : Module)

/-- What is untranslated in a module's tree is what is stray in its outline. -/
theorem map_site_untranslated_ofModule (options : RuleOptions) (names : List String) :
    ((ofModule text program).literals.filter
        ((ofModule text program).isUntranslated options names)).map
          ((ofModule text program).site names) =
      (program.outline text).strays options names := by
  rw [map_site_untranslated, map_site_literals_ofModule]
  rfl

/-- A file has findings if something is stray in it. -/
theorem untranslated_ofModule_eq_nil_iff (options : RuleOptions) :
    (ofModule text program).untranslated options = [] ↔
      (program.outline text).strays options ((program.outline text).names options) =
        [] := by
  rw [← map_site_untranslated_ofModule, List.map_eq_nil_iff, ← wrapperNames_ofModule]
  rfl

theorem importEdit?_ofModule (options : RuleOptions) :
    (ofModule text program).importEdit? options =
      (program.outline text).importEdit? options := by
  have hholds := holds_ofModule text program
  have hbody := toList_body_ofModule text program
  unfold importEdit? Outline.importEdit?
  rw [imports_ofModule, ← Array.getElem?_toList, hbody]
  cases (program.outline text).imports.getLast? with
  | some last => rfl
  | none =>
      cases houtline : program.outline text with
      | nil => rfl
      | node kind range raw held arguments rest =>
          rw [houtline] at hholds
          have hfirst := hholds.own
          simp only [Outline.ids, List.getElem?_cons_zero, Option.bind_some, hfirst,
            Option.map_some]

/-- What the findings of a module ask for is what its outline calls for. -/
theorem flatten_edits_ofModule (options : RuleOptions)
    (htree : (ofModule text program).Faithful) :
    ((ofModule text program).edits options).flatten =
      (program.outline text).replacements options := by
  have hnames := wrapperNames_ofModule text program options
  have hstrays := map_site_untranslated_ofModule text program options
  rw [flatten_edits, addedImport, importEdit?_ofModule, Outline.replacements]
  cases houtline : (program.outline text).names options with
  | nil =>
      rw [houtline] at hnames
      have heffective : (ofModule text program).effectiveNames options =
          [options.wrapperFunction] := by
        rw [effectiveNames, hnames]
      have huntranslated := untranslated_ofModule_eq_nil_iff text program options
      rw [houtline] at huntranslated
      by_cases hclean : (program.outline text).strays options [] = []
      · have huntranslated := huntranslated.mpr hclean
        have hlacks : ¬(ofModule text program).LacksImport options :=
          fun hlacks => hlacks.2 huntranslated
        rw [if_neg hlacks, huntranslated, hclean]
        rfl
      · have hlacks : (ofModule text program).LacksImport options :=
          ⟨hnames, fun hnil => hclean (huntranslated.mp hnil)⟩
        have hfalse : ((program.outline text).strays options []).isEmpty = false :=
          List.isEmpty_eq_false_iff.mpr hclean
        rw [if_pos hlacks, filterMap_wrap? htree, hstrays, effectiveName, heffective]
        simp only [hfalse]
        rfl
  | cons name names =>
      rw [houtline] at hnames
      have heffective : (ofModule text program).effectiveNames options =
          name :: names := by
        rw [effectiveNames, hnames]
      have hlacks : ¬(ofModule text program).LacksImport options := by
        rintro ⟨hnil, -⟩
        rw [hnames] at hnil
        cases hnil
      rw [if_neg hlacks, filterMap_wrap? htree, hstrays, effectiveName, heffective]
      rfl

end OfModule

end Tree

namespace Tree

section OfModule

variable (text : Text) (program : Module) (options : RuleOptions)

/-- Fixing a file makes the exchange. -/
theorem applyFixes_check_ofModule (htree : (ofModule text program).Faithful) :
    (text.applyFixes (Finding.fixes ((ofModule text program).check options true))).text =
      exchangedText options text program := by
  have hsplice := Text.spliceFrom?_applyFixes text
    (Finding.fixes ((ofModule text program).check options true))
  have hacceptance := htree.ofFixes_check options
  rw [text_ofModule, flatten_edits_ofModule text program options htree] at hacceptance
  have hsorted : (text.applyFixes (Finding.fixes
      ((ofModule text program).check options true))).edits =
      ((program.outline text).replacements options).mergeSort
        fun left right => left.range.before right.range := by
    simp only [Text.applyFixes, hacceptance]
  rw [hsorted] at hsplice
  rw [exchangedText, hsplice, Option.getD_some]

end OfModule

/-- A parser that goes along reads the fixed text, if at all, as a file in which
nothing is to be translated. -/
theorem untranslated_of_follows {read : Text → Except SyntaxError Module}
    {options : RuleOptions} {source : Text} {program exchanged : Module}
    (hmodule : options.modulePattern.isMatch options.translationModule.toList = true)
    (hread : read source = .ok program)
    (hexchanged : read (exchangedText options source program) = .ok exchanged)
    (hfollows : Follows read options source) :
    (ofModule (exchangedText options source program) exchanged).untranslated options =
      [] := by
  have hsame := hfollows program (by rw [hread]; rfl) exchanged
    (by rw [hexchanged]; rfl)
  have hnames : (exchanged.outline (exchangedText options source program)).names
      options = ((program.outline source).fixed options).names options := by
    rw [Outline.names, Outline.names, ← Outline.imports_bare, hsame,
      Outline.imports_bare]
  rw [untranslated_ofModule_eq_nil_iff, hnames, ← Outline.strays_bare_eq_nil_iff, hsame,
    Outline.strays_bare_eq_nil_iff]
  exact Outline.strays_fixed hmodule (program.proper_outline source)

theorem check_of_untranslated {tree : Tree} {options : RuleOptions}
    (hnone : tree.untranslated options = []) (withFixes : Bool) :
    tree.check options withFixes = [] := by
  cases withFixes <;> simp [check, hnone]

/-- Fixing a file once leaves a program in which there is nothing to be fixed. -/
def FixesConverge (read : Text → Except SyntaxError Module) (options : RuleOptions)
    (source : Text) (program : Module) : Prop :=
  let findings := (ofModule source program).check options true
  let fixed := (source.applyFixes (Finding.fixes findings)).text
  ∃ again, read fixed = .ok again ∧
    (ofModule fixed again).check options false = [] ∧
    (fixed.applyFixes (Finding.fixes
      ((ofModule fixed again).check options true))).text = fixed

theorem fixesConverge_iff_of_follows {read : Text → Except SyntaxError Module}
    {options : RuleOptions}
    (hmodule : options.modulePattern.isMatch options.translationModule.toList = true)
    {source : Text} {program : Module} (hread : read source = .ok program)
    (hfaithful : (ofModule source program).Faithful)
    (hfollows : Follows read options source) :
    FixesConverge read options source program ↔
      ∃ exchanged, read (exchangedText options source program) = .ok exchanged := by
  simp only [FixesConverge, applyFixes_check_ofModule source program options hfaithful]
  constructor
  · rintro ⟨again, hagain, -⟩
    exact ⟨again, hagain⟩
  · rintro ⟨exchanged, hexchanged⟩
    have hnone := untranslated_of_follows hmodule hread hexchanged hfollows
    refine ⟨exchanged, hexchanged, check_of_untranslated hnone false, ?_⟩
    rw [check_of_untranslated hnone true]
    simp [Finding.fixes, Text.applyFixes, Acceptance.ofFixes, Text.replaceAll?]

/-- Whatever the parser is, as long as its ranges are right and it goes along with
the exchange, fixing a file once leaves nothing to be fixed exactly if the text
after the exchange is still a program.  The parser of modules has its ranges right in
every text without a byte-order mark.  In a script it goes along with the exchange,
and the text after the exchange is a program, so fixing once is enough. -/
theorem fixes_converge_iff (options : RuleOptions)
    (hmodule : options.modulePattern.isMatch options.translationModule.toList = true) :
    (∀ (read : Text → Except SyntaxError Module) (source : Text) (program : Module),
      read source = .ok program → (ofModule source program).Faithful →
      Follows read options source →
      (FixesConverge read options source program ↔
        ∃ exchanged, read (exchangedText options source program) = .ok exchanged)) ∧
    (∀ (dialect : Dialect) (source : Text) (program : Module),
      Syntax.parse dialect source = .ok program → withoutMark source = source →
      Follows (Syntax.parse dialect) options source →
      (FixesConverge (Syntax.parse dialect) options source program ↔
        ∃ exchanged, Syntax.parse dialect (exchangedText options source program) =
          .ok exchanged)) ∧
    ∀ (dialect : Dialect) (script : Script), script.Exchangeable options →
      Syntax.parse dialect script.text = .ok script.module ∧
        FixesConverge (Syntax.parse dialect) options script.text script.module := by
  refine ⟨?_, ?_, ?_⟩
  · intro read source program hread hfaithful hfollows
    exact fixesConverge_iff_of_follows hmodule hread hfaithful hfollows
  · intro dialect source program hread hmark hfollows
    exact fixesConverge_iff_of_follows hmodule hread (faithful_ofModule hread hmark) hfollows
  · intro dialect script hscript
    have hread := script.parse_text dialect
    have hfaithful := faithful_ofModule hread script.startsPlainly_text.withoutMark
    obtain ⟨hfollows, hexchanged⟩ := hscript.follows_parse dialect
    exact ⟨hread, (fixesConverge_iff_of_follows hmodule hread hfaithful hfollows).mpr hexchanged⟩

/-- A file with a literal in each of the four places. -/
def fourPlaces : Text := "f('да', <b c=\"нет\"> ой </b>, `ку`)".toList

def fourPlacesFixed : Text :=
  ("import \x7b i18n \x7d from './i18n';\n\nf(i18n('да'), " ++
    "<b c=\x7bi18n(\"нет\")\x7d> \x7bi18n('ой')\x7d </b>, `$\x7bi18n('ку')\x7d`)").toList

theorem fourPlaces_evaluated :
    let program := readOf "a.tsx" fourPlaces
    let replacements := (program.outline fourPlaces).replacements .cyrillic
    (Syntax.parse (Dialect.ofPath "a.tsx") fourPlaces).toOption.isSome = true ∧
      (replacements.Pairwise fun left right => left.range.before right.range) ∧
      fourPlaces.spliceFrom? 0 replacements = some fourPlacesFixed ∧
      (ofModule fourPlaces program).Faithful ∧
      ((ofModule fourPlaces program).check .cyrillic true).length = 4 := by
  decide +kernel

theorem fourPlacesFixed_evaluated :
    (Syntax.parse (Dialect.ofPath "a.tsx") fourPlacesFixed).toOption.isSome = true ∧
      ((readOf "a.tsx" fourPlacesFixed).outline fourPlacesFixed).bare =
        (((readOf "a.tsx" fourPlaces).outline fourPlaces).fixed .cyrillic).bare := by
  decide +kernel

theorem isPlain_greeting :
    "привет".toList.all (IsPlain ·) = true ∧ "мир".toList.all (IsPlain ·) = true := by
  decide +kernel

/-- A script that passes two literals to a function. -/
def greeting : Script where
  imports := []
  statements :=
    .call noGap ⟨"show", by decide +kernel⟩
      (.string noGap (.single (stringText_of_isPlain isPlain_greeting.1))
        (.string ⟨[' '], isGap_space⟩ (.single (stringText_of_isPlain isPlain_greeting.2))
          (.nil noGap)))
      (.nil Script.lineFeed)

theorem fixes_converge_fourPlaces :
    let read := Syntax.parse (Dialect.ofPath "a.tsx")
    let findings := (ofModule fourPlaces (readOf "a.tsx" fourPlaces)).check
      .cyrillic true
    let fixed := (fourPlaces.applyFixes (Finding.fixes findings)).text
    (findings.length = 4 ∧ ∃ again, read fixed = .ok again ∧
      (ofModule fixed again).check .cyrillic false = [] ∧
      (fixed.applyFixes (Finding.fixes
        ((ofModule fixed again).check .cyrillic true))).text = fixed) ∧
    greeting.text = "show('привет', 'мир');\n".toList ∧
      FixesConverge read .cyrillic greeting.text greeting.module := by
  obtain ⟨hparsed, hsorted, hsplice, hfaithful, hlength⟩ := fourPlaces_evaluated
  obtain ⟨hparsedAgain, hsame⟩ := fourPlacesFixed_evaluated
  have hread := parse_eq_readOf hparsed
  have htext := exchangedText_of_sorted hsorted hsplice
  have hfixed : Syntax.parse (Dialect.ofPath "a.tsx")
      (exchangedText .cyrillic fourPlaces (readOf "a.tsx" fourPlaces)) =
      .ok (readOf "a.tsx" fourPlacesFixed) := by
    rw [htext]
    exact parse_eq_readOf hparsedAgain
  have hfollows : Follows (Syntax.parse (Dialect.ofPath "a.tsx")) .cyrillic
      fourPlaces := by
    apply follows_of_read hread hfixed
    rw [htext]
    exact hsame
  obtain ⟨hgeneral, -, hscripts⟩ := fixes_converge_iff .cyrillic (by decide +kernel)
  refine ⟨⟨hlength, (hgeneral _ fourPlaces _ hread hfaithful hfollows).mpr
    ⟨readOf "a.tsx" fourPlacesFixed, hfixed⟩⟩, by decide +kernel, ?_⟩
  exact (hscripts _ greeting
    ⟨by decide +kernel, by decide +kernel, by simp [greeting]⟩).2

/-- A literal that names a member of a type. -/
def typeMember : Text := "type A = \x7b 'ключ': 1 \x7d".toList

def typeMemberFixed : Text :=
  "import \x7b i18n \x7d from './i18n';\n\ntype A = \x7b i18n('ключ'): 1 \x7d".toList

theorem typeMember_evaluated :
    let program := readOf "a.ts" typeMember
    let replacements := (program.outline typeMember).replacements .cyrillic
    (Syntax.parse (Dialect.ofPath "a.ts") typeMember).toOption.isSome = true ∧
      (replacements.Pairwise fun left right => left.range.before right.range) ∧
      typeMember.spliceFrom? 0 replacements = some typeMemberFixed ∧
      (ofModule typeMember program).Faithful := by
  decide +kernel

/-- No call can stand in for the name of a type's member: the fixed text is no
program. -/
theorem typeMember_fixed_unreadable :
    let read := Syntax.parse (Dialect.ofPath "a.ts")
    let program := readOf "a.ts" typeMember
    let findings := (ofModule typeMember program).check .cyrillic true
    let fixed := (typeMember.applyFixes (Finding.fixes findings)).text
    read typeMember = .ok program ∧ (ofModule typeMember program).Faithful ∧
      fixed = typeMemberFixed ∧ ¬∃ again, read fixed = .ok again := by
  obtain ⟨hparsed, hsorted, hsplice, hfaithful⟩ := typeMember_evaluated
  have hfixed := exchangedText_of_sorted hsorted hsplice
  have hunreadable : (Syntax.parse (Dialect.ofPath "a.ts")
      typeMemberFixed).toOption = none := by
    rw [← Option.isNone_iff_eq_none]
    decide +kernel
  simp only [applyFixes_check_ofModule typeMember _ .cyrillic hfaithful, hfixed]
  refine ⟨parse_eq_readOf hparsed, hfaithful, trivial, ?_⟩
  rintro ⟨again, hagain⟩
  rw [hagain] at hunreadable
  cases hunreadable

end Tree

end Untranslated
