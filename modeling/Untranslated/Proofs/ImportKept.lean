import Untranslated.Proofs.Acceptance
import Untranslated.Proofs.Faithfulness
import Untranslated.Proofs.ImportInsertion

/-!
# Calls and their import

Fixes are accepted or skipped one by one, but in a file that knows no translation
function the calls of all of them rely on the import, which only the first one
brings.  So calls may be left without their import: when the first fix does not
fit the text and another does.  This module proves that nothing else can go wrong,
and that nothing does in a tree whose literals stand where it says they stand.  The
tree of a file without a byte-order mark is one.
-/

namespace Untranslated

namespace Acceptance

variable {text : Text}

/-- Every accepted edit belongs to a fix that fits the text and is accepted whole. -/
theorem exists_fix_of_mem_ofFixes {fixes : List Fix} {edit : Edit}
    (hedit : edit ∈ (ofFixes text fixes).edits) :
    ∃ fix ∈ fixes, edit ∈ fix.edits ∧ Edit.Compatible text fix.edits ∧
      ∀ other ∈ fix.edits, other ∈ (ofFixes text fixes).edits := by
  have hcompatible := ofFixes_compatible text fixes
  rw [Text.edits_ofFixes] at hedit hcompatible ⊢
  obtain ⟨fix, hfix, hown⟩ := List.mem_flatMap.mp hedit
  refine ⟨fix, (Text.acceptedAfter_sublist [] fixes).subset hfix, hown, ?_,
    fun other hother => List.mem_flatMap.mpr ⟨fix, hfix, hother⟩⟩
  obtain ⟨before, after, haccepted⟩ := List.append_of_mem hfix
  rw [haccepted, List.flatMap_append, List.flatMap_cons] at hcompatible
  exact hcompatible.append_right.append_left

/-- A fix that fits after the fixes before it is accepted, whatever follows. -/
theorem mem_ofFixes_of_compatible (before after : List Fix) {fix : Fix}
    (hfits : Edit.Compatible text ((ofFixes text before).edits ++ fix.edits))
    {edit : Edit} (hedit : edit ∈ fix.edits) :
    edit ∈ (ofFixes text (before ++ fix :: after)).edits := by
  rw [List.append_cons, Text.edits_ofFixes_append, ofFixes_concat,
    consider_of_compatible hfits]
  exact List.mem_append_left _ (List.mem_append_right _ hedit)

/-- If a fix fits the text by itself, something is accepted. -/
theorem exists_mem_ofFixes {fixes : List Fix} {fix : Fix} (hfix : fix ∈ fixes)
    (hcompatible : Edit.Compatible text fix.edits) (hne : fix.edits ≠ []) :
    ∃ edit, edit ∈ (ofFixes text fixes).edits := by
  obtain ⟨before, after, rfl⟩ := List.append_of_mem hfix
  by_cases hbefore : (ofFixes text before).edits = []
  · obtain ⟨edit, hedit⟩ := List.exists_mem_of_ne_nil _ hne
    refine ⟨edit, mem_ofFixes_of_compatible before after ?_ hedit⟩
    rwa [hbefore, List.nil_append]
  · obtain ⟨edit, hedit⟩ := List.exists_mem_of_ne_nil _ hbefore
    refine ⟨edit, ?_⟩
    rw [Text.edits_ofFixes_append]
    exact List.mem_append_left _ hedit

end Acceptance

theorem Text.mem_applyFixes_edits_iff {text : Text} {fixes : List Fix} {edit : Edit} :
    edit ∈ (text.applyFixes fixes).edits ↔ edit ∈ (Acceptance.ofFixes text fixes).edits :=
  (List.mergeSort_perm _ _).mem_iff

namespace Finding

theorem mem_fixes_iff {findings : List Finding} {fix : Fix} :
    fix ∈ fixes findings ↔ ∃ finding ∈ findings, finding.fix = some fix :=
  List.mem_filterMap

theorem edits_of_fix {finding : Finding} {fix : Fix} (hfix : finding.fix = some fix) :
    finding.edits = fix.edits := by
  rw [edits, hfix]
  rfl

end Finding

namespace Tree

variable {tree : Tree} {options : RuleOptions} {finding : Finding}

/-- Where something is exchanged for a call, the import is there too. -/
def KeepsImport (tree : Tree) (options : RuleOptions) : Prop :=
  let outcome := tree.text.applyFixes (Finding.fixes (tree.check options true))
  (∃ edit ∈ outcome.edits, edit.isInsertion = false) →
    ∃ edit ∈ outcome.edits, tree.AddsImport options edit

/-- The fix of the first finding brings the import, and it fits the text. -/
def CarrierFits (tree : Tree) (options : RuleOptions) : Prop :=
  ∃ first insertion more, (tree.check options true).head? = some first ∧
    first.fix = some ⟨insertion :: more⟩ ∧ tree.AddsImport options insertion ∧
    Edit.Compatible tree.text (insertion :: more)

/-- A finding has the import only if it is the first; what it has besides is at most
a call. -/
theorem edits_of_mem_check (hfinding : finding ∈ tree.check options true) :
    ∃ literal ∈ tree.untranslated options,
      finding.edits = (tree.wrap? options literal).toList ∨
        finding.edits =
            tree.addedImport options ++ (tree.wrap? options literal).toList ∧
          (tree.check options true).head? = some finding := by
  obtain ⟨literal, hmem, hcases⟩ := mem_check_cases hfinding
  refine ⟨literal, hmem, ?_⟩
  rcases hcases with ⟨rfl, hfirst⟩ | ⟨rfl, -⟩
  · exact Or.inr ⟨edits_finding _ _ _, hfirst⟩
  · exact Or.inl (edits_finding _ _ _)

/-- Only the first finding inserts something, and that is the import that is lacking. -/
theorem mem_addedImport_of_mem_edits (hfinding : finding ∈ tree.check options true)
    {edit : Edit} (hedit : edit ∈ finding.edits) (hinsertion : edit.isInsertion = true) :
    edit ∈ tree.addedImport options ∧ (tree.check options true).head? = some finding ∧
      ∃ more, finding.edits = tree.addedImport options ++ more := by
  obtain ⟨literal, hmem, hedits⟩ := edits_of_mem_check hfinding
  have hcall : edit ∉ (tree.wrap? options literal).toList := by
    intro hcall
    rw [isInsertion_of_mem_wrap? hmem hcall] at hinsertion
    cases hinsertion
  rcases hedits with hedits | ⟨hedits, hfirst⟩
  · rw [hedits] at hedit
    exact absurd hedit hcall
  · refine ⟨?_, hfirst, _, hedits⟩
    rw [hedits] at hedit
    exact (List.mem_append.mp hedit).resolve_right hcall

theorem addsImport_of_mem_edits (hfinding : finding ∈ tree.check options true)
    {edit : Edit} (hedit : edit ∈ finding.edits) (hinsertion : edit.isInsertion = true) :
    tree.AddsImport options edit ∧ (tree.check options true).head? = some finding ∧
      ∃ more, finding.edits = edit :: more := by
  obtain ⟨hadded, hfirst, more, hedits⟩ :=
    mem_addedImport_of_mem_edits hfinding hedit hinsertion
  have himport := mem_addedImport hadded
  refine ⟨importEdit?_eq_some_iff.mp himport, hfirst, more, ?_⟩
  unfold addedImport at hedits hadded
  split at hadded
  · rename_i hlacks
    rw [hedits, if_pos hlacks, himport]
    rfl
  · cases hadded

/-- A call by itself always fits the text. -/
theorem compatible_wrap? {literal : Literal} (hmem : literal ∈ tree.untranslated options) :
    Edit.Compatible tree.text (tree.wrap? options literal).toList := by
  have htrimmed := trimmed_ne_nil_of_mem_untranslated hmem
  cases hwrap : tree.wrap? options literal with
  | none => exact .nil tree.text
  | some edit =>
      refine ⟨?_, List.pairwise_singleton _ _⟩
      intro found hfound
      rw [Option.toList_some, List.mem_singleton] at hfound
      rw [hfound]
      unfold wrap? at hwrap
      split at hwrap
      · cases hwrap
      · obtain ⟨range, hrange, rfl⟩ := Option.map_eq_some_iff.mp hwrap
        exact ⟨literal.trimmed, slice?_trimmedRange? htrimmed hrange⟩

/-- A fix without the import is a call, which fits the text by itself. -/
theorem compatible_of_mem_fixes {fix : Fix}
    (hfix : fix ∈ Finding.fixes (tree.check options true))
    (hnone : ∀ edit ∈ fix.edits, ¬tree.AddsImport options edit) :
    Edit.Compatible tree.text fix.edits ∧ fix.edits ≠ [] := by
  constructor
  · obtain ⟨finding, hfinding, hsome⟩ := Finding.mem_fixes_iff.mp hfix
    obtain ⟨literal, hmem, hedits⟩ := edits_of_mem_check hfinding
    rw [Finding.edits_of_fix hsome] at hedits
    rcases hedits with hedits | ⟨hedits, -⟩
    · rw [hedits]
      exact compatible_wrap? hmem
    · have hadded : tree.addedImport options = [] := by
        rw [List.eq_nil_iff_forall_not_mem]
        intro edit hedit
        apply hnone edit
        · rw [hedits]
          exact List.mem_append_left _ hedit
        · exact importEdit?_eq_some_iff.mp (mem_addedImport hedit)
      rw [hedits, hadded, List.nil_append]
      exact compatible_wrap? hmem
  · rw [fixes_check] at hfix
    obtain ⟨edits, hedits, rfl⟩ := List.mem_map.mp hfix
    have hsome := (List.mem_filter.mp hedits).2
    simpa using hsome

/-- The import is accepted exactly if the fix that brings it fits the text. -/
theorem exists_addsImport_iff (tree : Tree) (options : RuleOptions) :
    (∃ edit ∈ (Acceptance.ofFixes tree.text
        (Finding.fixes (tree.check options true))).edits, tree.AddsImport options edit) ↔
      tree.CarrierFits options := by
  constructor
  · rintro ⟨edit, hedit, hadds⟩
    obtain ⟨fix, hfix, hown, hcompatible, -⟩ := Acceptance.exists_fix_of_mem_ofFixes hedit
    obtain ⟨finding, hfinding, hsome⟩ := Finding.mem_fixes_iff.mp hfix
    have hedits := Finding.edits_of_fix hsome
    rw [← hedits] at hown hcompatible
    obtain ⟨-, hfirst, more, hmore⟩ :=
      addsImport_of_mem_edits hfinding hown hadds.isInsertion
    refine ⟨finding, edit, more, hfirst, ?_, hadds, by rwa [← hmore]⟩
    rw [hsome, ← hmore, hedits]
  · rintro ⟨first, insertion, more, hfirst, hfix, hadds, hcompatible⟩
    obtain ⟨rest, hcheck⟩ := List.head?_eq_some_iff.mp hfirst
    refine ⟨insertion, ?_, hadds⟩
    rw [hcheck, Finding.fixes, List.filterMap_cons_some hfix]
    exact Acceptance.mem_ofFixes_of_compatible [] _ hcompatible List.mem_cons_self

/-- What may go wrong with the import: the fix that brings it does not fit the text,
and another fix does without. -/
theorem keepsImport_iff_carrierFits (tree : Tree) (options : RuleOptions) :
    tree.KeepsImport options ↔ tree.CarrierFits options ∨
      ∀ fix ∈ Finding.fixes (tree.check options true),
        ∃ edit ∈ fix.edits, tree.AddsImport options edit := by
  simp only [KeepsImport, Text.mem_applyFixes_edits_iff, exists_addsImport_iff]
  constructor
  · intro hkeeps
    by_cases hall : ∀ fix ∈ Finding.fixes (tree.check options true),
        ∃ edit ∈ fix.edits, tree.AddsImport options edit
    · exact Or.inr hall
    · left
      simp only [not_forall, not_exists, not_and] at hall
      obtain ⟨fix, hfix, hnone⟩ := hall
      obtain ⟨hcompatible, hne⟩ := compatible_of_mem_fixes hfix hnone
      obtain ⟨edit, hedit⟩ := Acceptance.exists_mem_ofFixes hfix hcompatible hne
      cases hinsertion : edit.isInsertion with
      | false => exact hkeeps ⟨edit, hedit, hinsertion⟩
      | true =>
          obtain ⟨own, hown, hmem, -⟩ := Acceptance.exists_fix_of_mem_ofFixes hedit
          obtain ⟨finding, hfinding, hsome⟩ := Finding.mem_fixes_iff.mp hown
          rw [← Finding.edits_of_fix hsome] at hmem
          exact (exists_addsImport_iff tree options).mp
            ⟨edit, hedit, (addsImport_of_mem_edits hfinding hmem hinsertion).1⟩
  · rintro (hfits | hall) ⟨edit, hedit, -⟩
    · exact hfits
    · obtain ⟨fix, hfix, -, -, haccepted⟩ := Acceptance.exists_fix_of_mem_ofFixes hedit
      obtain ⟨insertion, hinsertion, hadds⟩ := hall fix hfix
      exact (exists_addsImport_iff tree options).mp
        ⟨insertion, haccepted insertion hinsertion, hadds⟩

/-- In a faithful tree that has grown, the fix that brings the import fits. -/
theorem Faithful.carrierFits (hfaithful : tree.Faithful) (hgrown : tree.Grown)
    (hnames : tree.wrapperNames options.modulePattern = [])
    (hliterals : tree.untranslated options ≠ []) : tree.CarrierFits options := by
  obtain ⟨literal, literals, hcons⟩ := List.exists_cons_of_ne_nil hliterals
  have hmem : literal ∈ tree.untranslated options := by simp [hcons]
  obtain ⟨insertion, hadded, hadds⟩ := hgrown.addedImport_of_nil hnames hmem
  refine ⟨tree.firstFinding options literal, insertion,
    (tree.wrap? options literal).toList, ?_, ?_, hadds, ?_⟩
  · rw [check_eq_cons hcons]
    rfl
  · rw [firstFinding, hadded]
    rfl
  · -- All edits together fit the text, and those of the first fix come first.
    have hall := hfaithful.edits_compatible options
    rw [flatten_edits, hadded, hcons, List.filterMap_eq_flatMap_toList, List.flatMap_cons,
      ← List.append_assoc] at hall
    exact hall.append_left

theorem Faithful.keepsImport (hfaithful : tree.Faithful) (hgrown : tree.Grown)
    (hnames : tree.wrapperNames options.modulePattern = []) : tree.KeepsImport options := by
  rw [keepsImport_iff_carrierFits]
  by_cases hliterals : tree.untranslated options = []
  · right
    intro fix hfix
    obtain ⟨finding, hfinding, -⟩ := Finding.mem_fixes_iff.mp hfix
    obtain ⟨literal, hmem, -⟩ := edits_of_mem_check hfinding
    rw [hliterals] at hmem
    cases hmem
  · exact Or.inl (hfaithful.carrierFits hgrown hnames hliterals)

/-- Calls keep their import exactly if the fix that brings it fits the text, or no
other fix does without; and they keep it in every faithful tree that has grown, such
as the tree of a file without a byte-order mark. -/
theorem calls_keep_import (tree : Tree) (options : RuleOptions) :
    (tree.KeepsImport options ↔ tree.CarrierFits options ∨
      ∀ fix ∈ Finding.fixes (tree.check options true),
        ∃ edit ∈ fix.edits, tree.AddsImport options edit) ∧
      (tree.wrapperNames options.modulePattern = [] → tree.Grown → tree.Faithful →
        tree.KeepsImport options) ∧
      ∀ path text, parse path text = .ok tree → Syntax.withoutMark text = text →
        tree.wrapperNames options.modulePattern = [] → tree.KeepsImport options := by
  refine ⟨keepsImport_iff_carrierFits tree options,
    fun hnames hgrown hfaithful => hfaithful.keepsImport hgrown hnames, ?_⟩
  intro path text hparse hmark hnames
  obtain ⟨-, hgrown, hfaithful⟩ := faithful_of_parse hparse hmark
  exact hfaithful.keepsImport hgrown hnames

theorem calls_keep_import_sampleTree :
    sampleTree.wrapperNames RuleOptions.cyrillic.modulePattern = [] ∧ sampleTree.Grown ∧
      sampleTree.Faithful ∧ sampleTree.KeepsImport .cyrillic := by
  have hgrown : sampleTree.Grown := grown_parse _ _
  obtain ⟨hnames, hfaithful, -⟩ := sampleTree_evaluated
  exact ⟨hnames, hgrown, hfaithful,
    (calls_keep_import sampleTree .cyrillic).2.1 hnames hgrown hfaithful⟩

/-- A file that begins with a byte order mark.  The mark is not counted in the ranges,
so that the import would have to go into the middle of a character. -/
def markedTree : Tree :=
  (parse "a.ts" (Char.ofNat 0xFEFF ::
    "import x from './й';\nf(`да   `, `нет   `)".toList)).toOption.getD (ofText [])

theorem edits_ofFixes_markedTree :
    (Acceptance.ofFixes markedTree.text
      (Finding.fixes (markedTree.check .cyrillic true))).edits =
      [⟨⟨39, 45⟩, "$\x7bi18n('нет')\x7d".toList⟩] := by
  decide +kernel

/-- The call in the second template is made, and the import it needs is dropped. -/
theorem markedTree_loses_import :
    markedTree.wrapperNames RuleOptions.cyrillic.modulePattern = [] ∧
      ¬markedTree.KeepsImport .cyrillic := by
  refine ⟨by decide +kernel, ?_⟩
  simp only [KeepsImport, Text.mem_applyFixes_edits_iff, edits_ofFixes_markedTree,
    List.mem_singleton, exists_eq_left]
  intro hkeeps
  have hinsertion := (hkeeps rfl).isInsertion
  cases hinsertion

end Tree

end Untranslated
