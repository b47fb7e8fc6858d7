import Mathlib.Data.List.Induction
import Mathlib.Data.List.Perm.Subperm
import Mathlib.Data.Prod.Lex
import Untranslated.Proofs.Splicing

/-!
# Which fixes are accepted

Fixes are taken one after the other, and each of them as a whole or not at all.  This
module says which are taken without the list of edits that is kept on the way: a fix
is accepted if its edits fit the text and are clear of one another and of all edits of
the fixes accepted before it.  So what is accepted stays accepted when more fixes
follow, and fixes of which none is skipped may come in any order.
-/

namespace Untranslated

namespace Edit

/-- What edits are sorted by: where they start, then where they end. -/
def key (edit : Edit) : Nat ×ₗ Nat := toLex (edit.range.start, edit.range.stop)

/-- No two edits that go together have the same place, so that their order leaves
nothing open. -/
theorem Compatible.pairwise_key_lt {text : Text} {edits : List Edit}
    (hedits : Compatible text edits) :
    (edits.mergeSort fun left right => left.range.before right.range).Pairwise
      fun edit next => edit.key < next.key := by
  have hsorted := hedits.perm (List.mergeSort_perm edits fun left right =>
    left.range.before right.range).symm
  refine (hedits.inOrder_mergeSort.and hsorted.clear).imp_of_mem ?_
  rintro edit next hedit hnext ⟨⟨hstop, hstart⟩, hclear⟩
  have horder := hsorted.start_le_stop hedit
  have hnextOrder := hsorted.start_le_stop hnext
  rw [Range.overlaps_eq_false_iff] at hclear
  simp only [isInsertion, Range.isEmpty, beq_iff_eq] at hstart
  rw [key, key, Prod.Lex.toLex_lt_toLex]
  split at hclear <;> omega

/-- Edits that are sorted by where they stand are determined by what they are. -/
theorem eq_of_perm_of_pairwise_key_lt {edits others : List Edit}
    (hperm : edits.Perm others)
    (hedits : edits.Pairwise fun edit next => edit.key < next.key)
    (hothers : others.Pairwise fun edit next => edit.key < next.key) :
    edits = others := by
  apply hperm.eq_of_pairwise _ hedits hothers
  intro edit other _ _ hlt hgt
  exact absurd hgt (lt_asymm hlt)

end Edit

/-- No edit of the list overlaps another one of it. -/
def Edit.Apart (edits : List Edit) : Prop :=
  ∀ (index other : Nat) (edit found : Edit), index ≠ other → edits[index]? = some edit →
    edits[other]? = some found → edit.range.overlaps found.range = false

/-- Edits are apart if each is clear of the later ones. -/
theorem Edit.apart_iff_pairwise {edits : List Edit} :
    Apart edits ↔
      edits.Pairwise fun edit found => edit.range.overlaps found.range = false := by
  rw [List.pairwise_iff_getElem]
  constructor
  · intro hapart index other hindex hother hlt
    exact hapart index other _ _ (Nat.ne_of_lt hlt) (List.getElem?_eq_getElem hindex)
      (List.getElem?_eq_getElem hother)
  · intro hclear index other edit found hne hedit hfound
    obtain ⟨hindex, rfl⟩ := List.getElem?_eq_some_iff.mp hedit
    obtain ⟨hother, rfl⟩ := List.getElem?_eq_some_iff.mp hfound
    rcases Nat.lt_or_gt_of_ne hne with hlt | hgt
    · exact hclear index other hindex hother hlt
    · rw [Range.overlaps_comm]
      exact hclear other index hother hindex hgt

/-- The fix goes with the edits that are taken already: each of its edits fits the
text and is clear of every other edit of the fix and of everything taken. -/
structure Fix.Fits (text : Text) (taken : List Edit) (fix : Fix) : Prop where
  sliced : ∀ edit ∈ fix.edits, ∃ old, text.slice? edit.range = some old
  apart : Edit.Apart fix.edits
  clear : ∀ edit ∈ fix.edits, ∀ found ∈ taken, edit.range.overlaps found.range = false

/-- A fix goes with edits that go together if all of them go together. -/
theorem Fix.fits_iff {text : Text} {taken : List Edit} {fix : Fix}
    (htaken : Edit.Compatible text taken) :
    fix.Fits text taken ↔ Edit.Compatible text (taken ++ fix.edits) := by
  constructor
  · intro hfits
    refine ⟨?_, List.pairwise_append.mpr
      ⟨htaken.clear, Edit.apart_iff_pairwise.mp hfits.apart, ?_⟩⟩
    · intro edit hedit
      rcases List.mem_append.mp hedit with hbefore | hown
      · exact htaken.sliced edit hbefore
      · exact hfits.sliced edit hown
    · intro found hfound edit hedit
      rw [Range.overlaps_comm]
      exact hfits.clear edit hedit found hfound
  · intro hall
    refine ⟨hall.append_right.sliced,
      Edit.apart_iff_pairwise.mpr hall.append_right.clear, ?_⟩
    intro edit hedit found hfound
    rw [Range.overlaps_comm]
    exact (List.pairwise_append.mp hall.clear).2.2 found hfound edit hedit

namespace Acceptance

variable {text : Text}

/-- What becomes of a fix: an empty one changes nothing, one that fits is taken whole,
and any other is skipped whole. -/
theorem consider_cases {acceptance : Acceptance} (fix : Fix)
    (hedits : Edit.Compatible text acceptance.edits) :
    (fix.edits = [] ∧ acceptance.consider text fix = acceptance) ∨
      (fix.edits ≠ [] ∧ fix.Fits text acceptance.edits ∧
        acceptance.consider text fix =
          ⟨acceptance.edits ++ fix.edits, acceptance.applied + 1, acceptance.skipped⟩) ∨
      (fix.edits ≠ [] ∧ ¬fix.Fits text acceptance.edits ∧
        acceptance.consider text fix =
          ⟨acceptance.edits, acceptance.applied, acceptance.skipped + 1⟩) := by
  rw [Fix.fits_iff hedits, hedits.append_iff, consider, Fix.isEmpty]
  by_cases hempty : fix.edits = []
  · simp [hempty]
  · by_cases hfit : Edit.allFit text acceptance.edits fix.edits = true
    · simp [hempty, hfit]
    · simp [hempty, hfit]

theorem ofFixes_concat (fixes : List Fix) (fix : Fix) :
    ofFixes text (fixes ++ [fix]) = (ofFixes text fixes).consider text fix :=
  List.foldl_append

end Acceptance

namespace Text

variable {text : Text} {fixes : List Fix} {fix : Fix}

/-- Whether a fix is accepted after others: with it one more fix is applied. -/
def accepts (text : Text) (before : List Fix) (fix : Fix) : Bool :=
  (text.applyFixes (before ++ [fix])).applied == (text.applyFixes before).applied + 1

/-- The fixes that are accepted when others come before them. -/
def acceptedAfter (text : Text) (before : List Fix) : List Fix → List Fix
  | [] => []
  | fix :: fixes =>
      let rest := acceptedAfter text (before ++ [fix]) fixes
      if text.accepts before fix then fix :: rest else rest

/-- The fixes that are accepted, in their order. -/
def accepted (text : Text) (fixes : List Fix) : List Fix := text.acceptedAfter [] fixes

theorem acceptedAfter_append (before fixes more : List Fix) :
    text.acceptedAfter before (fixes ++ more) =
      text.acceptedAfter before fixes ++ text.acceptedAfter (before ++ fixes) more := by
  induction fixes generalizing before with
  | nil => simp [acceptedAfter]
  | cons fix fixes ih =>
      simp only [List.cons_append, acceptedAfter, ih, List.append_assoc, List.nil_append]
      split <;> rfl

theorem accepted_append (fixes more : List Fix) :
    text.accepted (fixes ++ more) =
      text.accepted fixes ++ text.acceptedAfter fixes more :=
  acceptedAfter_append [] fixes more

theorem acceptedAfter_sublist (before fixes : List Fix) :
    (text.acceptedAfter before fixes).Sublist fixes := by
  induction fixes generalizing before with
  | nil => exact List.Sublist.refl []
  | cons fix fixes ih =>
      rw [acceptedAfter]
      split
      · exact (ih _).cons_cons fix
      · exact (ih _).cons fix

theorem accepts_iff :
    text.accepts fixes fix = true ↔
      fix.edits ≠ [] ∧ fix.Fits text (Acceptance.ofFixes text fixes).edits := by
  simp only [accepts, applyFixes, Acceptance.ofFixes_concat, beq_iff_eq]
  rcases Acceptance.consider_cases fix (Acceptance.ofFixes_compatible text fixes) with
    ⟨hempty, hconsider⟩ | ⟨hne, hfits, hconsider⟩ | ⟨hne, hfits, hconsider⟩
  · simp [hconsider, hempty]
  · simp [hconsider, hne, hfits]
  · simp [hconsider, hfits]

/-- What one more fix adds to the accepted fixes and to the two counts. -/
theorem ofFixes_concat_eq (text : Text) (fixes : List Fix) (fix : Fix) :
    Acceptance.ofFixes text (fixes ++ [fix]) =
      if text.accepts fixes fix then
        ⟨(Acceptance.ofFixes text fixes).edits ++ fix.edits,
          (Acceptance.ofFixes text fixes).applied + 1,
          (Acceptance.ofFixes text fixes).skipped⟩
      else
        ⟨(Acceptance.ofFixes text fixes).edits, (Acceptance.ofFixes text fixes).applied,
          (Acceptance.ofFixes text fixes).skipped + if fix.isEmpty then 0 else 1⟩ := by
  rw [Acceptance.ofFixes_concat]
  rcases Acceptance.consider_cases fix (Acceptance.ofFixes_compatible text fixes) with
    ⟨hempty, hconsider⟩ | ⟨hne, hfits, hconsider⟩ | ⟨hne, hfits, hconsider⟩
  · rw [if_neg fun haccepts => (accepts_iff.mp haccepts).1 hempty, hconsider]
    simp [Fix.isEmpty, hempty]
  · rw [if_pos (accepts_iff.mpr ⟨hne, hfits⟩), hconsider]
  · rw [if_neg fun haccepts => hfits (accepts_iff.mp haccepts).2, hconsider]
    simp [Fix.isEmpty, hne]

/-- The edits that are kept on the way are those of the accepted fixes, and every fix
that is not empty is counted once. -/
theorem ofFixes_eq (text : Text) (fixes : List Fix) :
    (Acceptance.ofFixes text fixes).edits = (text.accepted fixes).flatMap Fix.edits ∧
      (Acceptance.ofFixes text fixes).applied = (text.accepted fixes).length ∧
      (Acceptance.ofFixes text fixes).applied + (Acceptance.ofFixes text fixes).skipped =
        fixes.countP (!·.isEmpty) := by
  -- The run goes from the first fix to the last, so the last one is split off.
  induction fixes using List.reverseRecOn with
  | nil => exact ⟨rfl, rfl, rfl⟩
  | append_singleton fixes fix ih =>
      obtain ⟨hedits, happlied, hcount⟩ := ih
      rw [ofFixes_concat_eq, accepted_append, List.countP_append, ← hcount]
      by_cases haccepts : text.accepts fixes fix = true
      · have hne : fix.isEmpty = false :=
          List.isEmpty_eq_false_iff.mpr (accepts_iff.mp haccepts).1
        simp only [acceptedAfter, haccepts, if_true, hne, hedits, happlied]
        refine ⟨by simp, by simp, ?_⟩
        simp only [List.countP_cons, List.countP_nil, hne, Bool.not_false, if_true]
        omega
      · simp only [acceptedAfter, haccepts, hedits, happlied]
        refine ⟨by simp, by simp, ?_⟩
        cases hempty : fix.isEmpty <;> simp [hempty, Nat.add_assoc]

theorem edits_ofFixes (text : Text) (fixes : List Fix) :
    (Acceptance.ofFixes text fixes).edits = (text.accepted fixes).flatMap Fix.edits :=
  (ofFixes_eq text fixes).1

theorem edits_ofFixes_append (text : Text) (fixes more : List Fix) :
    (Acceptance.ofFixes text (fixes ++ more)).edits =
      (Acceptance.ofFixes text fixes).edits ++
        (text.acceptedAfter fixes more).flatMap Fix.edits := by
  rw [edits_ofFixes, edits_ofFixes, accepted_append, List.flatMap_append]

theorem applyFixes_edits_perm (text : Text) (fixes : List Fix) :
    (text.applyFixes fixes).edits.Perm ((text.accepted fixes).flatMap Fix.edits) := by
  rw [← edits_ofFixes]
  exact List.mergeSort_perm _ _

theorem applyFixes_edits_pairwise (text : Text) (fixes : List Fix) :
    (text.applyFixes fixes).edits.Pairwise fun edit next => edit.key < next.key :=
  (Acceptance.ofFixes_compatible text fixes).pairwise_key_lt

/-- The edits that are accepted stay when more fixes follow. -/
theorem applyFixes_edits_sublist (text : Text) (fixes more : List Fix) :
    (text.applyFixes fixes).edits.Sublist (text.applyFixes (fixes ++ more)).edits := by
  have hkept : (Acceptance.ofFixes text fixes).edits.Sublist
      (Acceptance.ofFixes text (fixes ++ more)).edits := by
    rw [edits_ofFixes_append]
    exact List.sublist_append_left _ _
  have hsubperm : (text.applyFixes fixes).edits.Subperm
      (text.applyFixes (fixes ++ more)).edits :=
    (List.mergeSort_perm _ _).subperm.trans
      (hkept.subperm.trans (List.mergeSort_perm _ _).symm.subperm)
  obtain ⟨kept, hperm, hsublist⟩ := hsubperm
  have hsorted := (applyFixes_edits_pairwise text (fixes ++ more)).sublist hsublist
  rwa [Edit.eq_of_perm_of_pairwise_key_lt hperm hsorted
    (applyFixes_edits_pairwise text fixes)] at hsublist

/-- Fixes are accepted whole and greedily.  The edits of the outcome are those of the
accepted fixes, strictly in the order of where they start and then of where they end;
a fix is accepted after others exactly if it is not empty and goes with the edits of
those accepted among them; every fix that is not empty is counted as applied or as
skipped; and fixes that follow take nothing away. -/
theorem applyFixes_greedy (text : Text) (fixes : List Fix) :
    let outcome := text.applyFixes fixes
    let taken := (text.accepted fixes).flatMap Fix.edits
    outcome.edits.Perm taken ∧
      outcome.edits.Pairwise (fun edit next => edit.key < next.key) ∧
      (∀ fix, text.accepts fixes fix = true ↔ fix.edits ≠ [] ∧ fix.Fits text taken) ∧
      outcome.applied = (text.accepted fixes).length ∧
      outcome.applied + outcome.skipped = fixes.countP (!·.isEmpty) ∧
      ∀ more, text.accepted fixes <+: text.accepted (fixes ++ more) ∧
        outcome.edits.Sublist (text.applyFixes (fixes ++ more)).edits := by
  obtain ⟨hedits, happlied, hcount⟩ := ofFixes_eq text fixes
  refine ⟨applyFixes_edits_perm text fixes, applyFixes_edits_pairwise text fixes, ?_,
    happlied, hcount, ?_⟩
  · intro fix
    rw [accepts_iff, hedits]
  · intro more
    rw [accepted_append]
    exact ⟨List.prefix_append _ _, applyFixes_edits_sublist text fixes more⟩

/-- Nothing is skipped exactly if all edits of all fixes go together. -/
theorem skipped_eq_zero_iff :
    (text.applyFixes fixes).skipped = 0 ↔
      Edit.Compatible text (fixes.flatMap Fix.edits) := by
  constructor
  · intro hskipped
    have hall : (Acceptance.ofFixes text fixes).edits = fixes.flatMap Fix.edits := by
      change (Acceptance.ofFixes text fixes).skipped = 0 at hskipped
      induction fixes using List.reverseRecOn with
      | nil => rfl
      | append_singleton fixes fix ih =>
          rw [ofFixes_concat_eq] at hskipped ⊢
          rw [List.flatMap_append, List.flatMap_singleton]
          by_cases haccepts : text.accepts fixes fix = true
          · rw [if_pos haccepts] at hskipped ⊢
            rw [← ih hskipped]
          · rw [if_neg haccepts] at hskipped ⊢
            obtain ⟨hbefore, hempty⟩ := Nat.add_eq_zero_iff.mp hskipped
            have hnil : fix.edits = [] := by
              by_contra hne
              simp [Fix.isEmpty, hne] at hempty
            rw [ih hbefore, hnil, List.append_nil]
    rw [← hall]
    exact Acceptance.ofFixes_compatible text fixes
  · intro hedits
    simp only [applyFixes, Acceptance.ofFixes_of_compatible hedits]

/-- Fixes of which none is skipped may come in any order: none is skipped then either,
and the outcome is the same in text, edits and counts. -/
theorem applyFixes_of_perm (text : Text) {fixes others : List Fix}
    (hskipped : (text.applyFixes fixes).skipped = 0) (hperm : fixes.Perm others) :
    (text.applyFixes others).skipped = 0 ∧
      text.applyFixes others = text.applyFixes fixes := by
  have hedits := skipped_eq_zero_iff.mp hskipped
  have hflat := hperm.flatMap_right Fix.edits
  have hothers := hedits.perm hflat
  have hsorted := Edit.eq_of_perm_of_pairwise_key_lt
    (((List.mergeSort_perm _ _).trans hflat.symm).trans (List.mergeSort_perm _ _).symm)
    hothers.pairwise_key_lt hedits.pairwise_key_lt
  have hsame : text.applyFixes others = text.applyFixes fixes := by
    simp only [applyFixes, Acceptance.ofFixes_of_compatible hothers,
      Acceptance.ofFixes_of_compatible hedits, hsorted, hperm.countP_eq]
  exact ⟨skipped_eq_zero_iff.mpr hothers, hsame⟩

/-- A replacement, an insertion where it starts, a fix without edits, and one whose
edits are not in order. -/
def adjoiningFixes : List Fix :=
  [⟨[⟨⟨0, 1⟩, ['X']⟩]⟩, ⟨[.insertAt 0 ['>']]⟩, ⟨[]⟩,
    ⟨[⟨⟨3, 5⟩, "нет".toList⟩, .insertAt 1 ['-']]⟩]

theorem applyFixes_of_perm_adjoiningFixes :
    let text : Text := "aбвг".toList
    (text.applyFixes adjoiningFixes).skipped = 0 ∧
      adjoiningFixes.Perm adjoiningFixes.reverse ∧
      (text.applyFixes adjoiningFixes.reverse).skipped = 0 ∧
      text.applyFixes adjoiningFixes.reverse = text.applyFixes adjoiningFixes := by
  intro text
  have hskipped : (text.applyFixes adjoiningFixes).skipped = 0 := by decide +kernel
  have hperm : adjoiningFixes.Perm adjoiningFixes.reverse :=
    (List.reverse_perm adjoiningFixes).symm
  exact ⟨hskipped, hperm, applyFixes_of_perm text hskipped hperm⟩

end Text

end Untranslated
