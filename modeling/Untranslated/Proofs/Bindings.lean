import Untranslated.Proofs.Convergence
import Untranslated.Proofs.ImportKept

/-!
# The names that imports bind

The import that a fix adds binds one more name in the file.  Whether it is added
depends on the names that count as the translation function, which are the exports
that the file names of a matching module.  Whether the new name is free depends on all
the names that its imports bind: a default, a whole module or an export of any other
module is looked past.  This module proves that a name is bound a second time exactly
if an import that is looked past has bound it, and that the fixed file then imports a
name twice.
-/

namespace Untranslated

open Syntax

/-- The local names that a declaration binds. -/
def Syntax.ImportDeclaration.names (declaration : ImportDeclaration) : List String :=
  declaration.specifiers.map (·.name)

namespace Tree

variable {tree : Tree} {options : RuleOptions}

/-- The local names that the imports of a file bind, each as often as it is bound. -/
def boundNames (tree : Tree) : List String :=
  tree.imports.flatMap (·.2.names)

/-- Some fix adds the import. -/
def InsertsImport (tree : Tree) (options : RuleOptions) : Prop :=
  ∃ finding ∈ tree.check options true,
    ∃ edit ∈ finding.edits, tree.AddsImport options edit

/-- An import binds the name of the translation function and does not count, because it
names no export or because its module does not match. -/
def OverlooksBinding (tree : Tree) (options : RuleOptions) : Prop :=
  ∃ entry ∈ tree.imports, ∃ specifier ∈ entry.2.specifiers,
    specifier.name = options.wrapperFunction ∧
      (specifier.namedExport? = none ∨
        options.modulePattern.isMatch entry.2.source.toList = false)

theorem mem_boundNames_iff {name : String} :
    name ∈ tree.boundNames ↔
      ∃ entry ∈ tree.imports, ∃ specifier ∈ entry.2.specifiers,
        specifier.name = name := by
  simp only [boundNames, ImportDeclaration.names, List.mem_flatMap, List.mem_map]

/-- The import is added where it is lacking, if there is a place for it. -/
theorem insertsImport_iff : tree.InsertsImport options ↔ tree.addedImport options ≠ [] := by
  constructor
  · rintro ⟨finding, hfinding, edit, hedit, hadds⟩
    exact List.ne_nil_of_mem
      (mem_addedImport_of_mem_edits hfinding hedit hadds.isInsertion).1
  · intro hadded
    obtain ⟨edit, hedit⟩ := List.exists_mem_of_ne_nil _ hadded
    have hlacks : tree.LacksImport options := by
      by_contra hlacks
      exact hadded (if_neg hlacks)
    obtain ⟨literal, literals, hliterals⟩ := List.exists_cons_of_ne_nil hlacks.2
    refine ⟨tree.firstFinding options literal, ?_, edit, ?_, ?_⟩
    · rw [check_eq_cons hliterals]
      exact List.mem_cons_self
    · rw [firstFinding, edits_finding]
      exact List.mem_append_left _ hedit
    · exact importEdit?_eq_some_iff.mp (mem_addedImport hedit)

theorem InsertsImport.lacksImport (hinserts : tree.InsertsImport options) :
    tree.LacksImport options := by
  by_contra hlacks
  exact insertsImport_iff.mp hinserts (if_neg hlacks)

theorem Grown.insertsImport_iff (htree : tree.Grown) :
    tree.InsertsImport options ↔ tree.LacksImport options := by
  constructor
  · exact InsertsImport.lacksImport
  · intro hlacks
    obtain ⟨literal, hmem⟩ := List.exists_mem_of_ne_nil _ hlacks.2
    obtain ⟨insertion, hadded, -⟩ := htree.addedImport_of_nil hlacks.1 hmem
    rw [Tree.insertsImport_iff, hadded]
    exact List.cons_ne_nil _ _

/-- Where no name counts, every import of a matching module that names an export would
have given one. -/
theorem namedExport?_eq_none {entry : Range × ImportDeclaration} {specifier : ImportSpecifier}
    (hnames : tree.wrapperNames options.modulePattern = []) (hentry : entry ∈ tree.imports)
    (hspecifier : specifier ∈ entry.2.specifiers)
    (hmatch : options.modulePattern.isMatch entry.2.source.toList = true) :
    specifier.namedExport? = none := by
  have hnone := distinct_eq_nil hnames
  rw [List.flatMap_eq_nil_iff] at hnone
  have hown := hnone entry.2 (List.mem_filter.mpr ⟨List.mem_map_of_mem hentry, hmatch⟩)
  exact List.filterMap_eq_nil_iff.mp hown specifier hspecifier

/-- When the import is added, what binds its name already is looked past. -/
theorem InsertsImport.mem_boundNames_iff (hinserts : tree.InsertsImport options) :
    options.wrapperFunction ∈ tree.boundNames ↔ tree.OverlooksBinding options := by
  rw [Tree.mem_boundNames_iff]
  constructor
  · rintro ⟨entry, hentry, specifier, hspecifier, hname⟩
    refine ⟨entry, hentry, specifier, hspecifier, hname, ?_⟩
    cases hmatch : options.modulePattern.isMatch entry.2.source.toList with
    | false => exact .inr rfl
    | true =>
        exact .inl (namedExport?_eq_none hinserts.lacksImport.1 hentry hspecifier hmatch)
  · rintro ⟨entry, hentry, specifier, hspecifier, hname, -⟩
    exact ⟨entry, hentry, specifier, hspecifier, hname⟩

end Tree

/-- The declarations of a fixed file: one more, where none of its names counted and
something was stray. -/
theorem Outline.imports_fixed (options : RuleOptions) (outline : Outline) :
    (outline.fixed options).imports.map (·.2) = outline.imports.map (·.2) ++
      if outline.names options = [] ∧ outline.strays options [] ≠ [] then
        [options.declaration]
      else [] := by
  unfold fixed
  cases hnames : outline.names options with
  | cons name names => simp [imports_exchange]
  | nil =>
      by_cases hstrays : outline.strays options [] = []
      · simp [hstrays]
      · simp [hstrays, imports_addImport, imports_exchange]

namespace Tree

section OfModule

variable (text : Text) (program : Module) (options : RuleOptions)

theorem boundNames_ofModule :
    (ofModule text program).boundNames =
      ((program.outline text).imports.map (·.2)).flatMap (·.names) := by
  rw [boundNames, imports_ofModule, List.flatMap_map]

theorem lacksImport_ofModule_iff :
    (ofModule text program).LacksImport options ↔
      (program.outline text).names options = [] ∧
        (program.outline text).strays options [] ≠ [] := by
  rw [LacksImport, wrapperNames_ofModule]
  apply and_congr_right
  intro hnames
  rw [Ne, untranslated_ofModule_eq_nil_iff, hnames]

end OfModule

variable {read : Text → Except SyntaxError Module} {options : RuleOptions} {source : Text}
  {program again : Module}

/-- A parser that goes along reads in the fixed text the names that were bound before,
and after them the one of the import that is added. -/
theorem boundNames_fixed (hread : read source = .ok program)
    (hfaithful : (ofModule source program).Faithful)
    (hfollows : Follows read options source) :
    let tree := ofModule source program
    let fixed := (source.applyFixes (Finding.fixes (tree.check options true))).text
    read fixed = .ok again →
      (ofModule fixed again).boundNames = tree.boundNames ++
        if tree.LacksImport options then [options.wrapperFunction] else [] := by
  intro tree fixed hagain
  have hfixed : fixed = exchangedText options source program :=
    applyFixes_check_ofModule source program options hfaithful
  rw [hfixed] at hagain ⊢
  have hsame := hfollows program (by rw [hread]; rfl) again (by rw [hagain]; rfl)
  rw [boundNames_ofModule, boundNames_ofModule, ← Outline.imports_bare, hsame,
    Outline.imports_bare, Outline.imports_fixed, List.flatMap_append]
  congr 1
  have hlacks := lacksImport_ofModule_iff source program options
  by_cases hnone : (ofModule source program).LacksImport options
  · rw [if_pos hnone, if_pos (hlacks.mp hnone)]
    rfl
  · rw [if_neg hnone, if_neg (mt hlacks.mpr hnone)]
    rfl

theorem insertsImport_fresh_iff (tree : Tree) (options : RuleOptions) :
    (tree.InsertsImport options → options.wrapperFunction ∉ tree.boundNames) ↔
      ¬(tree.InsertsImport options ∧ tree.OverlooksBinding options) := by
  rw [not_and]
  exact forall_congr' fun hinserts => not_congr hinserts.mem_boundNames_iff

/-- The fixed file imports no name twice if it did not do so before and the added import binds a
name that was free. -/
theorem nodup_boundNames_fixed_iff (hread : read source = .ok program)
    (hfaithful : (ofModule source program).Faithful)
    (hfollows : Follows read options source) :
    let tree := ofModule source program
    let fixed := (source.applyFixes (Finding.fixes (tree.check options true))).text
    read fixed = .ok again →
      ((ofModule fixed again).boundNames.Nodup ↔ tree.boundNames.Nodup ∧
        ¬(tree.InsertsImport options ∧ tree.OverlooksBinding options)) := by
  intro tree fixed hagain
  have hnames := boundNames_fixed hread hfaithful hfollows hagain
  rw [hnames, ← insertsImport_fresh_iff, (grown_ofModule source program).insertsImport_iff]
  by_cases hlacks : (ofModule source program).LacksImport options
  · rw [if_pos hlacks, List.perm_append_comm.nodup_iff, List.singleton_append, List.nodup_cons,
      and_comm, forall_prop_of_true hlacks]
  · rw [if_neg hlacks, List.append_nil, forall_prop_of_false hlacks, and_true]

/-- The import that is added binds a name that was free, unless an import that is looked
past has bound it; and the fixed file imports no name twice exactly if this did not happen
and the file did not do so itself, whatever the parser is, as long as its ranges are right
and it goes along with the exchange.  The parser of modules does so in every script. -/
theorem inserted_import_fresh_iff (options : RuleOptions) :
    (∀ tree : Tree,
      (tree.InsertsImport options → options.wrapperFunction ∉ tree.boundNames) ↔
        ¬(tree.InsertsImport options ∧ tree.OverlooksBinding options)) ∧
      (∀ (read : Text → Except SyntaxError Module) (source : Text) (program again : Module),
        let tree := ofModule source program
        let fixed := (source.applyFixes (Finding.fixes (tree.check options true))).text
        read source = .ok program → tree.Faithful → Follows read options source →
          read fixed = .ok again →
          ((ofModule fixed again).boundNames.Nodup ↔ tree.boundNames.Nodup ∧
            ¬(tree.InsertsImport options ∧ tree.OverlooksBinding options))) ∧
      ∀ (dialect : Dialect) (script : Script), script.Exchangeable options →
        let tree := ofModule script.text script.module
        let fixed := (script.text.applyFixes (Finding.fixes (tree.check options true))).text
        ∃ again, Syntax.parse dialect fixed = .ok again ∧
          ((ofModule fixed again).boundNames.Nodup ↔ tree.boundNames.Nodup ∧
            ¬(tree.InsertsImport options ∧ tree.OverlooksBinding options)) := by
  refine ⟨fun tree => insertsImport_fresh_iff tree options, ?_, ?_⟩
  · intro read source program again tree fixed hread hfaithful hfollows hagain
    exact nodup_boundNames_fixed_iff hread hfaithful hfollows hagain
  · intro dialect script hscript tree fixed
    have hread := script.parse_text dialect
    have hfaithful := faithful_ofModule hread script.startsPlainly_text.withoutMark
    obtain ⟨hfollows, again, hagain⟩ := hscript.follows_parse dialect
    rw [← applyFixes_check_ofModule script.text script.module options hfaithful] at hagain
    exact ⟨again, hagain, nodup_boundNames_fixed_iff hread hfaithful hfollows hagain⟩

/-- Imports of which none counts, with the names that they bind. -/
def uncounted : List (String × List String) :=
  [("import i18n from './i18n';", ["i18n"]),
    ("import x from './i18n';\nimport \x7b y as z \x7d from './a';", ["x", "z"])]

/-- A file with a literal after its imports. -/
def literalAfter (imports : String) : Text := (imports ++ "\nf('да')").toList

def callAfter (imports : String) : Text :=
  (imports ++ "\nimport \x7b i18n \x7d from './i18n';\nf(i18n('да'))").toList

/-- The tree of such a file. -/
def treeAfter (imports : String) : Tree :=
  ofModule (literalAfter imports) (readOf "a.ts" (literalAfter imports))

theorem uncounted_evaluated : ∀ entry ∈ uncounted,
    let source := literalAfter entry.1
    let fixed := callAfter entry.1
    let outline := (readOf "a.ts" source).outline source
    (Syntax.parse (Dialect.ofPath "a.ts") source).toOption.isSome = true ∧
      (treeAfter entry.1).Faithful ∧ (treeAfter entry.1).LacksImport .cyrillic ∧
      (treeAfter entry.1).boundNames = entry.2 ∧
      ((outline.replacements .cyrillic).Pairwise fun left right =>
        left.range.before right.range) ∧
      source.spliceFrom? 0 (outline.replacements .cyrillic) = some fixed ∧
      (Syntax.parse (Dialect.ofPath "a.ts") fixed).toOption.isSome = true ∧
      ((readOf "a.ts" fixed).outline fixed).bare = (outline.fixed .cyrillic).bare := by
  decide +kernel

/-- The parser goes along with the exchange in these files, and reads what fixing makes of
them. -/
theorem uncounted_fixed {entry : String × List String} (hentry : entry ∈ uncounted) :
    let read := Syntax.parse (Dialect.ofPath "a.ts")
    let source := literalAfter entry.1
    let fixed := (source.applyFixes
      (Finding.fixes ((treeAfter entry.1).check .cyrillic true))).text
    read source = .ok (readOf "a.ts" source) ∧ Follows read .cyrillic source ∧
      fixed = callAfter entry.1 ∧ read fixed = .ok (readOf "a.ts" fixed) := by
  intro read source fixed
  obtain ⟨hparsed, hfaithful, -, -, hsorted, hsplice, hparsedFixed, hsame⟩ :=
    uncounted_evaluated entry hentry
  have hread : read source = .ok (readOf "a.ts" source) := parse_eq_readOf hparsed
  have hexchanged := exchangedText_of_sorted hsorted hsplice
  have hfixed : fixed = callAfter entry.1 :=
    (applyFixes_check_ofModule source _ .cyrillic hfaithful).trans hexchanged
  have hagain := parse_eq_readOf hparsedFixed
  refine ⟨hread, ?_, hfixed, hfixed ▸ hagain⟩
  rw [← hexchanged] at hagain hsame
  exact follows_of_read hread hagain hsame

theorem inserted_import_fresh_uncounted :
    let imports := "import x from './i18n';\nimport \x7b y as z \x7d from './a';"
    let tree := treeAfter imports
    let fixed := ((literalAfter imports).applyFixes
      (Finding.fixes (tree.check .cyrillic true))).text
    tree.InsertsImport .cyrillic ∧ ¬tree.OverlooksBinding .cyrillic ∧
      RuleOptions.cyrillic.wrapperFunction ∉ tree.boundNames ∧
      (ofModule fixed (readOf "a.ts" fixed)).boundNames.Nodup := by
  intro imports tree fixed
  have hentry : (imports, ["x", "z"]) ∈ uncounted := by simp [uncounted, imports]
  obtain ⟨-, hfaithful, hlacks, hbound, -⟩ := uncounted_evaluated _ hentry
  obtain ⟨hread, hfollows, -, hagain⟩ := uncounted_fixed hentry
  have hinserts : tree.InsertsImport .cyrillic :=
    (grown_ofModule _ _).insertsImport_iff.mpr hlacks
  have hfree : ¬tree.OverlooksBinding .cyrillic := by
    rw [← hinserts.mem_boundNames_iff, hbound]
    decide
  have hneither : ¬(tree.InsertsImport .cyrillic ∧ tree.OverlooksBinding .cyrillic) :=
    fun hboth => hfree hboth.2
  have hnodup : tree.boundNames.Nodup := by
    rw [hbound]
    decide
  obtain ⟨hfresh, hfixed, -⟩ := inserted_import_fresh_iff .cyrillic
  exact ⟨hinserts, hfree, (hfresh tree).mpr hneither hinserts,
    (hfixed _ _ _ _ hread hfaithful hfollows hagain).mpr ⟨hnodup, hneither⟩⟩

/-- A default that is imported under the name of the translation function is looked past,
and the fixed file imports the name twice. -/
theorem default_import_rebound :
    let imports := "import i18n from './i18n';"
    let tree := treeAfter imports
    let fixed := ((literalAfter imports).applyFixes
      (Finding.fixes (tree.check .cyrillic true))).text
    tree.InsertsImport .cyrillic ∧ RuleOptions.cyrillic.wrapperFunction ∈ tree.boundNames ∧
      fixed = callAfter imports ∧
      Syntax.parse (Dialect.ofPath "a.ts") fixed = .ok (readOf "a.ts" fixed) ∧
      (ofModule fixed (readOf "a.ts" fixed)).boundNames = ["i18n", "i18n"] := by
  intro imports tree fixed
  have hentry : (imports, ["i18n"]) ∈ uncounted := by simp [uncounted, imports]
  obtain ⟨-, hfaithful, hlacks, hbound, -⟩ := uncounted_evaluated _ hentry
  obtain ⟨hread, hfollows, htext, hagain⟩ := uncounted_fixed hentry
  have hnames : (ofModule fixed (readOf "a.ts" fixed)).boundNames = tree.boundNames ++
      if tree.LacksImport .cyrillic then ["i18n"] else [] :=
    boundNames_fixed hread hfaithful hfollows hagain
  rw [if_pos hlacks] at hnames
  refine ⟨(grown_ofModule _ _).insertsImport_iff.mpr hlacks, ?_, htext, hagain, ?_⟩
  · rw [hbound]
    decide
  · rw [hnames, hbound]
    rfl

end Tree

end Untranslated
