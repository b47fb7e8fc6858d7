import Untranslated.Proofs.Growth
import Untranslated.Proofs.Lossless

/-!
# What is reported

The rule decides about a node by a chain of look-ups: which names the imports
bind, what the node is, and what stands up to three levels above it.  This module
says in terms of the nodes alone which text needs a translation, and proves that
the findings of a file are the nodes with such text, each once and in their
order.
-/

namespace Untranslated

open Syntax (ImportSpecifier)

theorem mem_distinct {name : String} {names : List String} :
    name ∈ distinct names ↔ name ∈ names := by
  have hseen : ∀ (names seen : List String),
      name ∈ names.foldl (fun seen name =>
        if seen.contains name then seen else seen ++ [name]) seen ↔
        name ∈ seen ∨ name ∈ names := by
    intro names
    induction names with
    | nil => simp
    | cons first names ih =>
        intro seen
        rw [List.foldl_cons, ih, List.mem_cons, ← or_assoc]
        apply or_congr_left
        split
        · rename_i hfirst
          constructor
          · exact Or.inl
          · rintro (hname | rfl)
            · exact hname
            · exact List.contains_iff_mem.mp hfirst
        · rw [List.mem_append, List.mem_singleton]
  rw [distinct, hseen names []]
  simp

namespace Text

/-- Something is left after trimming if not all is blank. -/
theorem trim_ne_nil_iff {text : Text} :
    trim text ≠ [] ↔ ∃ char ∈ text, isBlank char = false := by
  constructor
  · intro hne
    obtain ⟨char, hchar⟩ := List.exists_mem_of_ne_nil _ hne
    by_contra hblank
    simp only [not_exists, not_and, Bool.not_eq_false] at hblank
    exact hne (trim_eq_nil_of_isBlank hblank)
  · rintro ⟨char, hchar, hvisible⟩ hnil
    rw [← leadingBlanks_append text, hnil, List.nil_append, List.mem_append] at hchar
    have hblank : isBlank char = true := by
      rcases hchar with hleading | htrailing
      · exact isBlank_of_mem_leadingBlanks hleading
      · exact isBlank_of_mem_trailingBlanks htrailing
    rw [hvisible] at hblank
    cases hblank

end Text

namespace Tree

variable {tree : Tree} {options : RuleOptions} {names : List String} {id : Nat}

/-- The parent of the node is a call of `callee` that has it among its arguments. -/
def PassedTo (tree : Tree) (callee : String) (id : Nat) : Prop :=
  ∃ call arguments, tree.parent? id = some call ∧
    tree.kind? call = some (.call (some callee) arguments) ∧ id ∈ arguments

/-- The parent of the node is the property `context` of an object, and the object
is the second argument of a call of `callee`. -/
def ContextFor (tree : Tree) (callee : String) (id : Nat) : Prop :=
  ∃ property object call arguments,
    tree.parent? id = some property ∧
    tree.kind? property = some (.property (some "context")) ∧
    tree.parent? property = some object ∧ tree.kind? object = some .object ∧
    tree.parent? object = some call ∧
    tree.kind? call = some (.call (some callee) arguments) ∧
    arguments[1]? = some object

/-- A child of the root imports an export of a matching module, by its name, as
`name`. -/
def Binds (tree : Tree) (modulePattern : Pattern.Regex) (name : String) : Prop :=
  ∃ id declaration imported, tree.parent? id = some 0 ∧
    tree.kind? id = some (.imports declaration) ∧
    modulePattern.isMatch declaration.source.toList = true ∧
    ImportSpecifier.named name imported ∈ declaration.specifiers

/-- The node is a literal with this source text; `anchor` is the node whose
surroundings count for it. -/
inductive Shows (tree : Tree) (id : Nat) : Text → Nat → Prop
  | string {value : Text} {parent : Option Nat} {range : Range} :
      tree.node? id = some ⟨.string value, parent, range⟩ →
      Shows tree id ((Text.slice? tree.text range).getD []) id
  | markupText {value : Text} {parent : Option Nat} {range : Range} :
      tree.node? id = some ⟨.markupText value, parent, range⟩ →
      Shows tree id ((Text.slice? tree.text range).getD []) id
  | segment {raw : Text} {parent : Nat} {range : Range} :
      tree.node? id = some ⟨.segment raw, some parent, range⟩ →
      Shows tree id raw parent

/-- The node is a literal that is not blank and is in the target script, and no
function that the file imports for translating gets it, be it as an argument or as
a context. -/
def NeedsTranslation (tree : Tree) (options : RuleOptions) (id : Nat) : Prop :=
  ∃ raw anchor, tree.Shows id raw anchor ∧ (∃ char ∈ raw, isBlank char = false) ∧
    options.targetScript.isMatch raw = true ∧
    ∀ callee, tree.Binds options.modulePattern callee →
      ¬tree.PassedTo callee anchor ∧ ¬tree.ContextFor callee anchor

/-- A test of the call that a node is below: the callee is one of the functions,
and the arguments pass. -/
theorem call_test_iff (tree : Tree) (id : Nat) (names : List String)
    (test : List Nat → Bool) :
    (match (tree.parent? id).bind tree.kind? with
      | some (.call (some callee) arguments) => names.contains callee && test arguments
      | _ => false) = true ↔
      ∃ callee ∈ names, ∃ call arguments, tree.parent? id = some call ∧
        tree.kind? call = some (.call (some callee) arguments) ∧
        test arguments = true := by
  cases hparent : tree.parent? id with
  | none => simp
  | some call =>
      rw [Option.bind_some]
      constructor
      · intro hcall
        split at hcall
        · rename_i callee arguments hkind
          rw [Bool.and_eq_true, List.contains_iff_mem] at hcall
          exact ⟨callee, hcall.1, call, arguments, rfl, hkind, hcall.2⟩
        · cases hcall
      · rintro ⟨callee, hcallee, found, arguments, hfound, hkind, htest⟩
        cases hfound
        rw [hkind]
        simp [hcallee, htest]

theorem isArgument_iff :
    tree.isArgument id names = true ↔ ∃ callee ∈ names, tree.PassedTo callee id := by
  have htest := call_test_iff tree id names fun arguments => arguments.contains id
  simp only [List.contains_iff_mem] at htest
  exact htest

theorem isSecondArgument_iff :
    tree.isSecondArgument id names = true ↔ ∃ callee ∈ names, ∃ call arguments,
      tree.parent? id = some call ∧
        tree.kind? call = some (.call (some callee) arguments) ∧
        arguments[1]? = some id := by
  have htest := call_test_iff tree id names fun arguments => arguments[1]? == some id
  simp only [beq_iff_eq] at htest
  exact htest

theorem isContext_iff :
    tree.isContext id names = true ↔ ∃ callee ∈ names, tree.ContextFor callee id := by
  unfold isContext ContextFor
  constructor
  · intro hcontext
    split at hcontext
    · cases hcontext
    · rename_i property hproperty
      split at hcontext
      · rename_i hkey
        split at hcontext
        · cases hcontext
        · rename_i object hobject
          rw [Bool.and_eq_true, decide_eq_true_eq, isSecondArgument_iff] at hcontext
          obtain ⟨hkind, callee, hcallee, call, arguments, hcall, hkindCall, hsecond⟩ :=
            hcontext
          exact ⟨callee, hcallee, property, object, call, arguments, hproperty, hkey,
            hobject, hkind, hcall, hkindCall, hsecond⟩
      · cases hcontext
  · rintro ⟨callee, hcallee, property, object, call, arguments, hproperty, hkey,
      hobject, hkind, hcall, hkindCall, hsecond⟩
    simp only [hproperty, hkey, if_true, hobject, hkind, decide_true, Bool.true_and]
    exact isSecondArgument_iff.mpr
      ⟨callee, hcallee, call, arguments, hcall, hkindCall, hsecond⟩

/-- What it means that a node is passed to one of the functions. -/
theorem isWrapped_iff : tree.isWrapped id names = true ↔
    ∃ callee ∈ names, tree.PassedTo callee id ∨ tree.ContextFor callee id := by
  rw [isWrapped, Bool.or_eq_true, isArgument_iff, isContext_iff]
  constructor
  · rintro (⟨callee, hcallee, hpassed⟩ | ⟨callee, hcallee, hcontext⟩)
    · exact ⟨callee, hcallee, Or.inl hpassed⟩
    · exact ⟨callee, hcallee, Or.inr hcontext⟩
  · rintro ⟨callee, hcallee, hpassed | hcontext⟩
    · exact Or.inl ⟨callee, hcallee, hpassed⟩
    · exact Or.inr ⟨callee, hcallee, hcontext⟩

/-- The import that a node is, with its range. -/
def importAt? (tree : Tree) (id : Nat) : Option (Range × Syntax.ImportDeclaration) :=
  match tree.node? id with
  | some ⟨.imports declaration, _, range⟩ => some (range, declaration)
  | _ => none

theorem imports_eq_filterMap (tree : Tree) :
    tree.imports = tree.body.toList.filterMap tree.importAt? := rfl

theorem importAt?_eq_some_iff {range : Range} {declaration : Syntax.ImportDeclaration} :
    tree.importAt? id = some (range, declaration) ↔
      ∃ parent, tree.node? id = some ⟨.imports declaration, parent, range⟩ := by
  unfold importAt?
  constructor
  · intro himport
    split at himport
    · rename_i found parent place hnode
      cases himport
      exact ⟨parent, hnode⟩
    · cases himport
  · rintro ⟨parent, hnode⟩
    rw [hnode]

/-- The names that a file knows are the ones that the children of the root bind. -/
theorem Rooted.mem_wrapperNames_iff (htree : tree.Rooted) {name : String} :
    name ∈ tree.wrapperNames options.modulePattern ↔
      tree.Binds options.modulePattern name := by
  rw [wrapperNames, mem_distinct, List.mem_flatMap]
  constructor
  · rintro ⟨declaration, hdeclaration, hname⟩
    rw [List.mem_filter, List.mem_map] at hdeclaration
    obtain ⟨⟨⟨range, found⟩, himport, rfl⟩, hsource⟩ := hdeclaration
    obtain ⟨id, hid, hfound⟩ := List.mem_filterMap.mp himport
    obtain ⟨parent, hnode⟩ := importAt?_eq_some_iff.mp hfound
    obtain ⟨specifier, hspecifier, hnamed⟩ := List.mem_filterMap.mp hname
    cases specifier with
    | named bound imported =>
        cases hnamed
        exact ⟨id, found, imported, (htree.body id).mp hid, by rw [kind?, hnode]; rfl,
          hsource, hspecifier⟩
    | default bound => cases hnamed
    | wholeModule bound => cases hnamed
  · rintro ⟨id, declaration, imported, hparent, hkind, hsource, hspecifier⟩
    obtain ⟨⟨kind, parent, range⟩, hnode, rfl⟩ := Option.map_eq_some_iff.mp hkind
    have himport : (range, declaration) ∈ tree.imports :=
      List.mem_filterMap.mpr ⟨id, (htree.body id).mpr hparent,
        importAt?_eq_some_iff.mpr ⟨parent, hnode⟩⟩
    refine ⟨declaration, List.mem_filter.mpr ⟨?_, hsource⟩, ?_⟩
    · exact List.mem_map.mpr ⟨(range, declaration), himport, rfl⟩
    · exact List.mem_filterMap.mpr ⟨.named name imported, hspecifier, rfl⟩

/-- A node shows the text of the literal that it is. -/
theorem shows_of_literal? {literal : Literal} (hliteral : tree.literal? id = some literal) :
    tree.Shows id literal.raw literal.anchor := by
  unfold literal? at hliteral
  split at hliteral
  · cases hliteral
  · rename_i node hnode
    obtain ⟨kind, parent, range⟩ := node
    cases kind with
    | string value =>
        cases hliteral
        exact .string hnode
    | markupText value =>
        cases hliteral
        exact .markupText hnode
    | segment raw =>
        obtain ⟨template, hparent, rfl⟩ := Option.map_eq_some_iff.mp hliteral
        cases hparent
        exact .segment hnode
    | _ => cases hliteral

theorem literal?_of_shows {raw : Text} {anchor : Nat} (hshows : tree.Shows id raw anchor) :
    ∃ placement, tree.literal? id = some ⟨id, placement, raw, anchor⟩ := by
  unfold literal?
  cases hshows with
  | string hnode => exact ⟨_, by rw [hnode]; rfl⟩
  | markupText hnode => exact ⟨_, by rw [hnode]; rfl⟩
  | segment hnode => exact ⟨_, by rw [hnode]; rfl⟩

/-- A literal is untranslated if its node needs a translation. -/
theorem Rooted.isUntranslated_iff (htree : tree.Rooted) {literal : Literal}
    (hliteral : tree.literal? id = some literal) :
    tree.isUntranslated options (tree.wrapperNames options.modulePattern) literal = true ↔
      tree.NeedsTranslation options id := by
  have hwrapped : tree.isWrapped literal.anchor
      (tree.wrapperNames options.modulePattern) = false ↔
        ∀ callee, tree.Binds options.modulePattern callee →
          ¬tree.PassedTo callee literal.anchor ∧
            ¬tree.ContextFor callee literal.anchor := by
    rw [← Bool.not_eq_true, isWrapped_iff]
    simp only [htree.mem_wrapperNames_iff, not_exists, not_and, not_or]
  rw [isUntranslated, Bool.and_eq_true, Bool.and_eq_true, Bool.not_eq_true',
    Bool.not_eq_true', List.isEmpty_eq_false_iff, Literal.trimmed, Text.trim_ne_nil_iff,
    hwrapped]
  constructor
  · rintro ⟨⟨hvisible, hscript⟩, hcalls⟩
    exact ⟨literal.raw, literal.anchor, shows_of_literal? hliteral, hvisible, hscript,
      hcalls⟩
  · rintro ⟨raw, anchor, hshows, hvisible, hscript, hcalls⟩
    obtain ⟨placement, hfound⟩ := literal?_of_shows hshows
    rw [hliteral] at hfound
    cases hfound
    exact ⟨⟨hvisible, hscript⟩, hcalls⟩

theorem mem_literals_iff {literal : Literal} :
    literal ∈ tree.literals ↔ tree.literal? literal.node = some literal := by
  constructor
  · exact literal?_of_mem_literals
  · intro hliteral
    obtain ⟨-, node, hnode, -⟩ := literal?_eq_some hliteral
    have hsize : literal.node < tree.nodes.size :=
      (Array.getElem?_eq_some_iff.mp hnode).1
    exact List.mem_filterMap.mpr ⟨literal.node, List.mem_range.mpr hsize, hliteral⟩

/-- Literals are found in the order of their nodes. -/
theorem pairwise_untranslated (tree : Tree) (options : RuleOptions) :
    (tree.untranslated options).Pairwise fun literal other =>
      literal.node < other.node := by
  apply List.Pairwise.filter
  refine List.Pairwise.filterMap tree.literal? ?_ List.pairwise_lt_range
  intro id other hid literal hliteral otherLiteral hother
  rwa [(literal?_eq_some hliteral).1, (literal?_eq_some hother).1]

/-- What is reported about, whether fixes are asked for or not. -/
theorem map_node_check (tree : Tree) (options : RuleOptions) (withFixes : Bool) :
    (tree.check options withFixes).map Finding.node =
      (tree.untranslated options).map Literal.node := by
  rw [map_check tree options withFixes Finding.node fun _ _ => rfl]
  rfl

/-- Detection is exact: in every tree that can be built, the nodes of the findings
are those that need a translation, each once and in their order. -/
theorem check_finds_needsTranslation (tree : Tree) (htree : tree.Built)
    (options : RuleOptions) (withFixes : Bool) :
    let found := (tree.check options withFixes).map Finding.node
    found.Pairwise (· < ·) ∧
      ∀ id, id ∈ found ↔ tree.NeedsTranslation options id := by
  have hrooted := htree.rooted
  simp only [map_node_check]
  constructor
  · exact List.pairwise_map.mpr (pairwise_untranslated tree options)
  · intro id
    rw [List.mem_map]
    constructor
    · rintro ⟨literal, hmem, rfl⟩
      exact (hrooted.isUntranslated_iff (literal?_of_mem_untranslated hmem)).mp
        (List.mem_filter.mp hmem).2
    · rintro ⟨raw, anchor, hshows, hneeds⟩
      obtain ⟨placement, hliteral⟩ := literal?_of_shows hshows
      have huntranslated := (hrooted.isUntranslated_iff hliteral).mpr
        ⟨raw, anchor, hshows, hneeds⟩
      exact ⟨⟨id, placement, raw, anchor⟩,
        List.mem_filter.mpr ⟨mem_literals_iff.mpr hliteral, huntranslated⟩, rfl⟩

/-- A file in which only the last literal is not passed on. -/
def contextTree : Tree :=
  ((parse "sample.ts" ("import \x7b t \x7d from './i18n';\n" ++
    "t('да', \x7b context: 'нет' \x7d, `ой`);" ++
    "f(' ', \x7b context: 'ну' \x7d)").toList).toOption).getD (ofText [])

theorem check_finds_contextTree :
    let found := (contextTree.check .cyrillic false).map Finding.node
    contextTree.Built ∧ found = [19] ∧ found.Pairwise (· < ·) ∧
      ∀ id, id ∈ found ↔ contextTree.NeedsTranslation .cyrillic id :=
  have hbuilt : contextTree.Built := (grown_parse _ _).built
  ⟨hbuilt, by decide +kernel,
    check_finds_needsTranslation contextTree hbuilt .cyrillic false⟩

end Tree

end Untranslated
