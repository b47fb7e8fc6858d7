import Mathlib.Data.List.Basic
import Untranslated.Proofs.Splicing
import Untranslated.Proofs.Trimming
import Untranslated.Rule.Finding

/-!
# What the findings ask for

The fixes of a file's findings, taken together: at most one insertion, which
adds the import, and one replacement by a call for every literal that is still
untranslated once the new name is known.  The lemmas here say this about an
arbitrary tree; where a replacement finds its literal is for the text to settle.
-/

namespace Untranslated

/-- Settings that look for Cyrillic text and recognise modules whose path ends
in `i18n`. -/
def RuleOptions.cyrillic : RuleOptions where
  modulePattern := "i18n".toList.foldr
    (fun char rest => .sequence (.one (.char char)) rest) (.assert .textEnd)
  wrapperFunction := "i18n"
  translationModule := "./i18n"
  targetScript := .one (.set [(0x400, 0x4FF)])

/-- The kinds of node that hold text a program shows. -/
def NodeKind.isLiteral : NodeKind → Bool
  | .string _ | .markupText _ | .segment _ => true
  | _ => false

namespace Tree

variable {tree : Tree} {options : RuleOptions} {literal : Literal}

/-- The names under which the fixed file knows the translation function: those
that it imports, or else the one that the new import binds. -/
def effectiveNames (tree : Tree) (options : RuleOptions) : List String :=
  match tree.wrapperNames options.modulePattern with
  | [] => [options.wrapperFunction]
  | names => names

/-- The name that new calls use. -/
def effectiveName (tree : Tree) (options : RuleOptions) : String :=
  (tree.effectiveNames options).headD options.wrapperFunction

/-- The replacement that puts a literal into a call, unless one of the effective
names already has it as an argument. -/
def wrap? (tree : Tree) (options : RuleOptions) (literal : Literal) :
    Option Edit :=
  if tree.isWrapped literal.anchor (tree.effectiveNames options) then none
  else (tree.trimmedRange? literal).map fun range =>
    ⟨range, literal.placement.wrap (tree.effectiveName options) literal.value⟩

/-- The replacements for the untranslated literals, in their order. -/
def wraps (tree : Tree) (options : RuleOptions) : List (List Edit) :=
  (tree.untranslated options).map fun literal => (tree.wrap? options literal).toList

/-- Something is to be translated and the file knows no name for it. -/
def LacksImport (tree : Tree) (options : RuleOptions) : Prop :=
  tree.wrapperNames options.modulePattern = [] ∧ tree.untranslated options ≠ []

instance (tree : Tree) (options : RuleOptions) :
    Decidable (tree.LacksImport options) :=
  inferInstanceAs (Decidable (_ ∧ ¬_))

/-- The insertion of the import, where it is lacking. -/
def addedImport (tree : Tree) (options : RuleOptions) : List Edit :=
  if tree.LacksImport options then (tree.importEdit? options).toList else []

/-- The edits of the findings are the replacements of their literals; the first
finding also adds the import, where that is lacking. -/
theorem edits_cases (tree : Tree) (options : RuleOptions) :
    (¬tree.LacksImport options ∧ tree.edits options = tree.wraps options) ∨
      tree.LacksImport options ∧
        ∃ first rest, tree.wraps options = first :: rest ∧
          tree.edits options =
            ((tree.importEdit? options).toList ++ first) :: rest := by
  have hwrap : ∀ name names, tree.effectiveNames options = name :: names →
      (fun literal => (tree.wrapEdit? name names literal).toList) =
        fun literal => (tree.wrap? options literal).toList := by
    intro name names heffective
    funext literal
    simp only [wrapEdit?, wrap?, effectiveName, heffective, List.headD_cons]
  unfold edits
  cases hnames : tree.wrapperNames options.modulePattern with
  | cons name names =>
      left
      have heffective : tree.effectiveNames options = name :: names := by
        rw [effectiveNames, hnames]
      simp only [hwrap name names heffective, wraps, LacksImport, hnames]
      exact ⟨fun hlacks => List.cons_ne_nil _ _ hlacks.1, trivial⟩
  | nil =>
      have heffective :
          tree.effectiveNames options = [options.wrapperFunction] := by
        rw [effectiveNames, hnames]
      simp only [hwrap options.wrapperFunction [] heffective]
      cases hliterals : tree.untranslated options with
      | nil =>
          left
          simp [LacksImport, wraps, hliterals]
      | cons literal literals =>
          right
          exact ⟨⟨hnames, by simp [hliterals]⟩, _, _, by rw [wraps, hliterals]; rfl,
            by rfl⟩

theorem length_edits (tree : Tree) (options : RuleOptions) :
    (tree.edits options).length = (tree.untranslated options).length := by
  have hwraps : (tree.wraps options).length =
      (tree.untranslated options).length := by
    rw [wraps, List.length_map]
  rcases edits_cases tree options with ⟨-, hedits⟩ | ⟨-, first, rest, hcons, hedits⟩
  · rw [hedits, hwraps]
  · rw [hedits, ← hwraps, hcons]
    rfl

/-- All edits together: the import, where it is lacking, and then the
replacements. -/
theorem flatten_edits (tree : Tree) (options : RuleOptions) :
    (tree.edits options).flatten = tree.addedImport options ++
      (tree.untranslated options).filterMap (tree.wrap? options) := by
  have hflatten : (tree.wraps options).flatten =
      (tree.untranslated options).filterMap (tree.wrap? options) := by
    rw [wraps, ← List.flatMap_def, List.filterMap_eq_flatMap_toList]
  rcases edits_cases tree options with
    ⟨hlacks, hedits⟩ | ⟨hlacks, first, rest, hcons, hedits⟩
  · rw [addedImport, if_neg hlacks, hedits, hflatten, List.nil_append]
  · rw [addedImport, if_pos hlacks, hedits, ← hflatten, hcons, List.flatten_cons,
      List.flatten_cons, List.append_assoc]

theorem mem_addedImport {edit : Edit} (hedit : edit ∈ tree.addedImport options) :
    tree.importEdit? options = some edit := by
  unfold addedImport at hedit
  split at hedit
  · exact Option.mem_toList.mp hedit
  · cases hedit

theorem isInsertion_of_mem_addedImport {edit : Edit}
    (hedit : edit ∈ tree.addedImport options) : edit.isInsertion = true := by
  have himport := mem_addedImport hedit
  unfold importEdit? at himport
  split at himport
  · cases himport
    simp [Edit.isInsertion, Edit.insertAt, Range.isEmpty, Range.at']
  · obtain ⟨first, -, rfl⟩ := Option.map_eq_some_iff.mp himport
    simp [Edit.isInsertion, Edit.insertAt, Range.isEmpty, Range.at']

/-- Pairing literals with their edits keeps exactly the edits that do
something as fixes. -/
theorem fixes_zipWith_finding (tree : Tree) (literals : List Literal)
    (edits : List (List Edit)) (hlength : literals.length = edits.length) :
    Finding.fixes (List.zipWith tree.finding literals edits) =
      (edits.filter (!·.isEmpty)).map Fix.mk := by
  induction literals generalizing edits with
  | nil =>
      cases edits with
      | nil => rfl
      | cons first rest => cases hlength
  | cons literal literals ih =>
      cases edits with
      | nil => cases hlength
      | cons first rest =>
          have hrest := ih rest (Nat.succ.inj hlength)
          rw [Finding.fixes] at hrest ⊢
          rw [List.zipWith_cons_cons, List.filterMap_cons, hrest]
          cases first <;> simp [finding]

theorem fixes_check (tree : Tree) (options : RuleOptions) :
    Finding.fixes (tree.check options true) =
      ((tree.edits options).filter (!·.isEmpty)).map Fix.mk := by
  rw [check, if_pos rfl]
  exact fixes_zipWith_finding tree _ _ (length_edits tree options).symm

/-- The edits of all fixes are the edits of all findings. -/
theorem flatMap_edits_fixes_check (tree : Tree) (options : RuleOptions) :
    (Finding.fixes (tree.check options true)).flatMap Fix.edits =
      (tree.edits options).flatten := by
  rw [fixes_check, List.flatMap_map]
  induction tree.edits options with
  | nil => rfl
  | cons first rest ih => cases first <;> simp_all

/-- What does not depend on the fixes is the same of every finding, whether fixes are asked for or
not. -/
theorem map_check {α : Type} (tree : Tree) (options : RuleOptions) (withFixes : Bool)
    (view : Finding → α)
    (hview : ∀ literal edits, view (tree.finding literal edits) = view (tree.finding literal [])) :
    (tree.check options withFixes).map view =
      (tree.untranslated options).map fun literal => view (tree.finding literal []) := by
  cases withFixes with
  | false =>
      rw [check, if_neg Bool.false_ne_true, List.map_map]
      rfl
  | true =>
      have hlength : (tree.untranslated options).length ≤ (tree.edits options).length :=
        Nat.le_of_eq (length_edits tree options).symm
      rw [check, if_pos rfl, ← List.map_uncurry_zip_eq_zipWith, List.map_map]
      calc
        _ = ((tree.untranslated options).zip (tree.edits options)).map
              ((fun literal => view (tree.finding literal [])) ∘ Prod.fst) :=
          List.map_congr_left fun pair _ => hview pair.1 pair.2
        _ = (tree.untranslated options).map fun literal => view (tree.finding literal []) := by
          rw [← List.map_map, List.map_fst_zip hlength]

/-- An occurrence that is found in the text of a node lies in that node. -/
theorem findIn?_eq_some {id : Nat} {needle : Text} {range : Range}
    (hneedle : needle ≠ []) (hfind : tree.findIn? id needle = some range) :
    ∃ node, tree.node? id = some node ∧ node.range.start ≤ range.start ∧
      range.stop ≤ node.range.stop ∧
      Text.slice? tree.text range = some needle := by
  obtain ⟨node, hnode, hrange⟩ := Option.bind_eq_some_iff.mp hfind
  obtain ⟨offset, hoffset, rfl⟩ := Option.map_eq_some_iff.mp hrange
  obtain ⟨before, after, htext, hbefore⟩ := Text.find?_eq_append hoffset
  refine ⟨node, hnode, ?_⟩
  unfold textOf at htext
  cases hslice : Text.slice? tree.text node.range with
  | none => simp [hslice, hneedle] at htext
  | some found =>
      rw [hslice, Option.getD_some] at htext
      have hsize := Text.byteSize_of_slice? hslice
      have hinner : Text.slice? found ⟨offset, offset + Text.byteSize needle⟩ =
          some needle :=
        Text.slice?_eq_some_iff.mpr ⟨before, after, htext, hbefore, by
          rw [hbefore]⟩
      have houter := Text.slice?_of_slice? hslice hinner
      rw [htext, Text.byteSize_append, Text.byteSize_append, hbefore] at hsize
      simp only
      refine ⟨Nat.le_add_right _ _, by omega, ?_⟩
      rwa [Nat.add_assoc]

/-- The range of a literal selects its trimmed text, in whichever node it was
found. -/
theorem slice?_trimmedRange? {range : Range} (htrimmed : literal.trimmed ≠ [])
    (hrange : tree.trimmedRange? literal = some range) :
    Text.slice? tree.text range = some literal.trimmed := by
  have hfound : ∃ id, tree.findIn? id literal.trimmed = some range := by
    unfold trimmedRange? at hrange
    split at hrange
    · rcases Option.or_eq_some_iff.mp hrange with hown | ⟨-, htemplate⟩
      · exact ⟨literal.node, hown⟩
      · exact ⟨literal.anchor, htemplate⟩
    · exact ⟨literal.node, hrange⟩
  obtain ⟨id, hid⟩ := hfound
  obtain ⟨node, -, -, -, hslice⟩ := findIn?_eq_some htrimmed hid
  exact hslice

theorem trimmed_ne_nil_of_mem_untranslated
    (hmem : literal ∈ tree.untranslated options) : literal.trimmed ≠ [] := by
  have huntranslated := (List.mem_filter.mp hmem).2
  simp only [isUntranslated, Bool.and_eq_true, Bool.not_eq_true',
    List.isEmpty_eq_false_iff] at huntranslated
  exact huntranslated.1.1

end Tree

end Untranslated
