import Untranslated.Edit.Apply
import Untranslated.Proofs.Slices

/-!
# Splicing edits into a text

The accepted edits of a list of fixes are made from the last to the first, each
in the text that the later ones left behind, although all of them refer to the
text before any edit.  This module proves that nothing is lost in that way of
working: the edits fit the text and are clear of one another, in their order
each ends before the next one starts, every replacement along the way finds its
range, and the result is the text read once from left to right with each range
exchanged for its replacement.
-/

namespace Untranslated

namespace Range

/-- Ranges are clear of each other when one ends before the other starts; two
empty ones must not even be at one place. -/
theorem overlaps_eq_false_iff (left right : Range) :
    left.overlaps right = false ↔
      if left.start = left.stop ∧ right.start = right.stop then
        left.start ≠ right.start
      else right.stop ≤ left.start ∨ left.stop ≤ right.start := by
  simp only [overlaps, isEmpty, Bool.and_eq_true, beq_iff_eq]
  split
  · simp
  · rw [Bool.and_eq_false_iff, decide_eq_false_iff_not, decide_eq_false_iff_not,
      Nat.not_lt, Nat.not_lt]

theorem overlaps_comm (left right : Range) :
    left.overlaps right = right.overlaps left := by
  have hclear : left.overlaps right = false ↔ right.overlaps left = false := by
    rw [overlaps_eq_false_iff, overlaps_eq_false_iff]
    split <;> split <;> omega
  cases hright : right.overlaps left with
  | false => exact hclear.mpr hright
  | true =>
      apply Bool.of_not_eq_false
      intro hleft
      rw [hclear.mp hleft] at hright
      cases hright

theorem before_trans (left middle right : Range)
    (hleft : left.before middle) (hright : middle.before right) :
    left.before right := by
  simp only [before, Bool.or_eq_true, Bool.and_eq_true, decide_eq_true_eq,
    beq_iff_eq] at *
  omega

theorem before_total (left right : Range) :
    (left.before right || right.before left) = true := by
  simp only [before, Bool.or_eq_true, Bool.and_eq_true, decide_eq_true_eq,
    beq_iff_eq]
  omega

/-- A range that comes before another and is clear of it ends before the other
starts.  When both start at one place, the first is the empty one: this is why
ranges are ordered by their ends too. -/
theorem stop_le_start_of_before {left right : Range}
    (hleft : left.start ≤ left.stop) (hright : right.start ≤ right.stop)
    (hbefore : left.before right) (hclear : left.overlaps right = false) :
    left.stop ≤ right.start := by
  rw [overlaps_eq_false_iff] at hclear
  simp only [before, Bool.or_eq_true, Bool.and_eq_true, decide_eq_true_eq,
    beq_iff_eq] at hbefore
  split at hclear <;> omega

end Range

namespace Edit

/-- Edits that fit the text and of which no two have a byte in common. -/
structure Compatible (text : Text) (edits : List Edit) : Prop where
  sliced : ∀ edit ∈ edits, ∃ old, Text.slice? text edit.range = some old
  clear : edits.Pairwise fun edit other =>
    edit.range.overlaps other.range = false

/-- Edits in the order in which a text is read: each ends before the next one
starts, and of two that start at one place the first is an insertion. -/
def InOrder (edits : List Edit) : Prop :=
  edits.Pairwise fun edit next =>
    edit.range.stop ≤ next.range.start ∧
      (edit.range.start = next.range.start → edit.isInsertion)

namespace Compatible

variable {text : Text} {edits others : List Edit}

theorem nil (text : Text) : Compatible text [] :=
  ⟨by simp, List.Pairwise.nil⟩

theorem perm (hperm : edits.Perm others) (hedits : Compatible text edits) :
    Compatible text others where
  sliced := fun edit hmem => hedits.sliced edit (hperm.mem_iff.mpr hmem)
  clear := hedits.clear.perm hperm fun {left right} hclear => by
    rw [Range.overlaps_comm]
    exact hclear

theorem start_le_stop (hedits : Compatible text edits) {edit : Edit}
    (hmem : edit ∈ edits) : edit.range.start ≤ edit.range.stop := by
  obtain ⟨old, hold⟩ := hedits.sliced edit hmem
  have hsize := Text.byteSize_of_slice? hold
  omega

theorem append_left (hedits : Compatible text (edits ++ others)) :
    Compatible text edits where
  sliced := fun edit hmem => hedits.sliced edit (List.mem_append_left others hmem)
  clear := (List.pairwise_append.mp hedits.clear).1

theorem append_right (hedits : Compatible text (edits ++ others)) :
    Compatible text others where
  sliced := fun edit hmem => hedits.sliced edit (List.mem_append_right edits hmem)
  clear := (List.pairwise_append.mp hedits.clear).2.1

/-- The check that is made before a fix is taken, in terms of all the edits
that would be taken then. -/
theorem append_iff (hedits : Compatible text edits) :
    Compatible text (edits ++ others) ↔ allFit text edits others = true := by
  induction others generalizing edits with
  | nil => simpa [allFit] using hedits
  | cons edit rest ih =>
      simp only [allFit, Bool.and_eq_true, Bool.not_eq_true', List.any_eq_false,
        Option.isSome_iff_exists, Bool.not_eq_true]
      constructor
      · intro hall
        have hsliced := hall.sliced edit (by simp)
        have hclear : ∀ other ∈ edits,
            other.range.overlaps edit.range = false := by
          intro other hother
          exact (List.pairwise_append.mp hall.clear).2.2 other hother edit
            (by simp)
        rw [List.append_cons] at hall
        exact ⟨⟨hsliced, hclear⟩, (ih hall.append_left).mp hall⟩
      · rintro ⟨⟨hsliced, hclear⟩, hrest⟩
        have hfront : Compatible text (edits ++ [edit]) := by
          refine ⟨?_, List.pairwise_append.mpr ⟨hedits.clear, by simp, ?_⟩⟩
          · simp only [List.mem_append, List.mem_singleton]
            rintro found (hfound | rfl)
            · exact hedits.sliced found hfound
            · exact hsliced
          · simpa using hclear
        rw [List.append_cons]
        exact (ih hfront).mpr hrest

/-- Sorting compatible edits by their ranges puts them in reading order. -/
theorem inOrder_mergeSort (hedits : Compatible text edits) :
    InOrder (edits.mergeSort fun left right => left.range.before right.range) := by
  have hperm := List.mergeSort_perm edits
    fun left right : Edit => left.range.before right.range
  have hsorted : (edits.mergeSort fun left right =>
      left.range.before right.range).Pairwise fun left right =>
        left.range.before right.range = true :=
    List.pairwise_mergeSort
      (fun left middle right =>
        Range.before_trans left.range middle.range right.range)
      (fun left right => Range.before_total left.range right.range) edits
  have hcompatible := hedits.perm hperm.symm
  refine (hsorted.and hcompatible.clear).imp_of_mem ?_
  rintro left right hleft hright ⟨hbefore, hclear⟩
  have hleftOrder := hcompatible.start_le_stop hleft
  have hrightOrder := hcompatible.start_le_stop hright
  have hstop :=
    Range.stop_le_start_of_before hleftOrder hrightOrder hbefore hclear
  refine ⟨hstop, fun hstart => ?_⟩
  simp only [isInsertion, Range.isEmpty, beq_iff_eq]
  omega

end Compatible

end Edit

namespace Acceptance

variable {text : Text}

/-- Considering one more fix keeps the accepted edits compatible. -/
theorem consider_compatible {acceptance : Acceptance} (fix : Fix)
    (hedits : Edit.Compatible text acceptance.edits) :
    Edit.Compatible text (acceptance.consider text fix).edits := by
  unfold consider
  split
  · exact hedits
  · split
    · rename_i hfit
      exact hedits.append_iff.mpr hfit
    · exact hedits

theorem foldl_consider_compatible (fixes : List Fix) {acceptance : Acceptance}
    (hedits : Edit.Compatible text acceptance.edits) :
    Edit.Compatible text (fixes.foldl (consider text) acceptance).edits := by
  induction fixes generalizing acceptance with
  | nil => exact hedits
  | cons fix fixes ih => exact ih (consider_compatible fix hedits)

theorem ofFixes_compatible (text : Text) (fixes : List Fix) :
    Edit.Compatible text (ofFixes text fixes).edits :=
  foldl_consider_compatible fixes (Edit.Compatible.nil text)

theorem mem_of_mem_consider {acceptance : Acceptance} {fix : Fix} {edit : Edit}
    (hedit : edit ∈ (acceptance.consider text fix).edits) :
    edit ∈ acceptance.edits ++ fix.edits := by
  unfold consider at hedit
  split at hedit
  · exact List.mem_append_left _ hedit
  · split at hedit
    · exact hedit
    · exact List.mem_append_left _ hedit

/-- No edit is accepted that no fix asks for. -/
theorem mem_of_mem_foldl_consider {fixes : List Fix} {acceptance : Acceptance}
    {edit : Edit} (hedit : edit ∈ (fixes.foldl (consider text) acceptance).edits) :
    edit ∈ acceptance.edits ++ fixes.flatMap Fix.edits := by
  induction fixes generalizing acceptance with
  | nil => simpa using hedit
  | cons fix fixes ih =>
      rw [List.flatMap_cons, ← List.append_assoc]
      rcases List.mem_append.mp (ih hedit) with hfirst | hrest
      · exact List.mem_append_left _ (mem_of_mem_consider hfirst)
      · exact List.mem_append_right _ hrest

/-- A fix whose edits go with those accepted so far is accepted, or empty. -/
theorem consider_of_compatible {acceptance : Acceptance} {fix : Fix}
    (hedits : Edit.Compatible text (acceptance.edits ++ fix.edits)) :
    acceptance.consider text fix =
      { acceptance with
        edits := acceptance.edits ++ fix.edits
        applied := acceptance.applied + if fix.isEmpty then 0 else 1 } := by
  have hfit := hedits.append_left.append_iff.mp hedits
  by_cases hempty : fix.isEmpty = true
  · have hnil : fix.edits = [] := List.isEmpty_iff.mp hempty
    simp [consider, hempty, hnil]
  · simp [consider, hempty, hfit]

theorem foldl_consider_of_compatible {fixes : List Fix} {acceptance : Acceptance}
    (hedits : Edit.Compatible text
      (acceptance.edits ++ fixes.flatMap Fix.edits)) :
    fixes.foldl (consider text) acceptance =
      { acceptance with
        edits := acceptance.edits ++ fixes.flatMap Fix.edits
        applied := acceptance.applied + fixes.countP (!·.isEmpty) } := by
  induction fixes generalizing acceptance with
  | nil => simp
  | cons fix fixes ih =>
      rw [List.flatMap_cons, ← List.append_assoc] at hedits
      rw [List.foldl_cons, consider_of_compatible hedits.append_left, ih hedits,
        List.flatMap_cons, List.countP_cons]
      cases fix.isEmpty <;> simp [Nat.add_assoc, Nat.add_comm 1]

/-- Fixes that all go together are all accepted. -/
theorem ofFixes_of_compatible {fixes : List Fix}
    (hedits : Edit.Compatible text (fixes.flatMap Fix.edits)) :
    ofFixes text fixes =
      ⟨fixes.flatMap Fix.edits, fixes.countP (!·.isEmpty), 0⟩ := by
  have hstart : Edit.Compatible text
      (({} : Acceptance).edits ++ fixes.flatMap Fix.edits) := hedits
  rw [ofFixes, foldl_consider_of_compatible hstart]
  simp

end Acceptance

namespace Text

/-- The text from an offset on, read once from left to right: what lies between
the edits is kept and each range is exchanged for its replacement. -/
def spliceFrom? (text : Text) : Nat → List Edit → Option Text
  | offset, [] => slice? text ⟨offset, byteSize text⟩
  | offset, edit :: edits => do
      let kept ← slice? text ⟨offset, edit.range.start⟩
      let rest ← spliceFrom? text edit.range.stop edits
      return kept ++ edit.replacement ++ rest

/-- One replacement in a text whose front is still as it was. -/
theorem replace?_append {edit : Edit} (front old rest : Text)
    (hstart : byteSize front = edit.range.start)
    (hstop : byteSize front + byteSize old = edit.range.stop) :
    replace? (front ++ old ++ rest) edit =
      some (front ++ edit.replacement ++ rest) := by
  have horder : edit.range.start ≤ edit.range.stop := by omega
  have htake : takeBytes? (front ++ old ++ rest) edit.range.start = some front := by
    rw [← hstart, List.append_assoc]
    exact takeBytes?_byteSize front (old ++ rest)
  have hdrop : dropBytes? (front ++ old ++ rest) edit.range.stop = some rest := by
    rw [← hstop, ← byteSize_append]
    exact dropBytes?_byteSize (front ++ old) rest
  rw [replace?, if_pos horder, htake, hdrop]
  rfl

/-- The invariant of the backward loop: up to the place where the first of the
edits made so far starts, the text is as it was, and from there on it is already
spliced. -/
theorem replaceAll?_eq_append {text : Text} {edits : List Edit}
    (hsliced : ∀ edit ∈ edits, ∃ old, slice? text edit.range = some old)
    (horder : Edit.InOrder edits) (front back : Text)
    (htext : text = front ++ back)
    (hfront : ∀ edit ∈ edits, byteSize front ≤ edit.range.start) :
    ∃ spliced, spliceFrom? text (byteSize front) edits = some spliced ∧
      replaceAll? text edits = some (front ++ spliced) := by
  induction edits generalizing front back with
  | nil =>
      refine ⟨back, ?_, by simp [replaceAll?, htext]⟩
      rw [spliceFrom?, slice?_eq_some_iff]
      exact ⟨front, [], by simp [htext], rfl, by simp [htext]⟩
  | cons edit rest ih =>
      obtain ⟨old, hold⟩ := hsliced edit (by simp)
      obtain ⟨before, after, htext', hstart, hstop⟩ :=
        slice?_eq_some_iff.mp hold
      have hle : byteSize front ≤ byteSize before := by
        rw [hstart]
        exact hfront edit (by simp)
      obtain ⟨kept, rfl, -⟩ :=
        exists_append_of_byteSize_le (htext.symm.trans htext') hle
      have hrest : ∀ next ∈ rest,
          byteSize (front ++ kept ++ old) ≤ next.range.start := by
        intro next hnext
        rw [byteSize_append, hstop]
        exact ((List.pairwise_cons.mp horder).1 next hnext).1
      obtain ⟨spliced, hsplice, hreplace⟩ :=
        ih (fun next hnext => hsliced next (by simp [hnext]))
          (List.pairwise_cons.mp horder).2 (front ++ kept ++ old) after
          (by simp [htext']) hrest
      have hkept : slice? text ⟨byteSize front, edit.range.start⟩ = some kept :=
        slice?_eq_some_iff.mpr ⟨front, old ++ after, by simp [htext'], rfl, by
          rw [← hstart, byteSize_append]⟩
      rw [byteSize_append, hstop] at hsplice
      refine ⟨kept ++ edit.replacement ++ spliced, ?_, ?_⟩
      · simp [spliceFrom?, hkept, hsplice]
      · rw [replaceAll?, hreplace, Option.bind_some,
          replace?_append (front ++ kept) old spliced hstart hstop]
        simp

/-- Making compatible edits that are in order succeeds at every step, and gives
what splicing them gives. -/
theorem replaceAll?_eq_splice {text : Text} {edits : List Edit}
    (hsliced : ∀ edit ∈ edits, ∃ old, slice? text edit.range = some old)
    (horder : Edit.InOrder edits) :
    ∃ spliced, spliceFrom? text 0 edits = some spliced ∧
      replaceAll? text edits = some spliced := by
  simpa using replaceAll?_eq_append hsliced horder [] text rfl (by simp)

theorem applyFixes_edits_compatible (text : Text) (fixes : List Fix) :
    Edit.Compatible text (text.applyFixes fixes).edits :=
  (Acceptance.ofFixes_compatible text fixes).perm
    (List.mergeSort_perm _ _).symm

theorem applyFixes_edits_inOrder (text : Text) (fixes : List Fix) :
    Edit.InOrder (text.applyFixes fixes).edits :=
  (Acceptance.ofFixes_compatible text fixes).inOrder_mergeSort

theorem mem_of_mem_applyFixes_edits {text : Text} {fixes : List Fix} {edit : Edit}
    (hedit : edit ∈ (text.applyFixes fixes).edits) :
    edit ∈ fixes.flatMap Fix.edits := by
  have haccepted : edit ∈ (Acceptance.ofFixes text fixes).edits :=
    (List.mergeSort_perm _ _).mem_iff.mp hedit
  simpa using Acceptance.mem_of_mem_foldl_consider haccepted

/-- The result of applying fixes is never the fallback: every replacement on the
way finds its range. -/
theorem replaceAll?_applyFixes (text : Text) (fixes : List Fix) :
    replaceAll? text (text.applyFixes fixes).edits =
      some (text.applyFixes fixes).text := by
  obtain ⟨spliced, -, hreplace⟩ :=
    replaceAll?_eq_splice (applyFixes_edits_compatible text fixes).sliced
      (applyFixes_edits_inOrder text fixes)
  change _ = some ((replaceAll? text (text.applyFixes fixes).edits).getD text)
  rw [hreplace, Option.getD_some]

theorem spliceFrom?_applyFixes (text : Text) (fixes : List Fix) :
    spliceFrom? text 0 (text.applyFixes fixes).edits =
      some (text.applyFixes fixes).text := by
  obtain ⟨spliced, hsplice, hreplace⟩ :=
    replaceAll?_eq_splice (applyFixes_edits_compatible text fixes).sliced
      (applyFixes_edits_inOrder text fixes)
  rw [hsplice, ← hreplace, replaceAll?_applyFixes]

/-- Whatever fixes are asked for, no replacement on the way to the result is out
of place: the accepted edits are in order, and the result is the text with each
of their ranges exchanged for its replacement and everything else kept. -/
theorem applyFixes_eq_splice (text : Text) (fixes : List Fix) :
    replaceAll? text (text.applyFixes fixes).edits =
        some (text.applyFixes fixes).text ∧
      Edit.InOrder (text.applyFixes fixes).edits ∧
      spliceFrom? text 0 (text.applyFixes fixes).edits =
        some (text.applyFixes fixes).text :=
  ⟨replaceAll?_applyFixes text fixes, applyFixes_edits_inOrder text fixes,
    spliceFrom?_applyFixes text fixes⟩

/-- The text from an offset on becomes another by edits that are told as it is read: some of it is
kept, some is exchanged for something else. -/
inductive Rewrites : Text → Nat → List Edit → Text → Prop where
  | done (text : Text) (offset : Nat) : Rewrites text offset [] text
  | keep {rest result : Text} {offset : Nat} {edits : List Edit} (kept : Text)
      (hrest : Rewrites rest (offset + byteSize kept) edits result) :
      Rewrites (kept ++ rest) offset edits (kept ++ result)
  | change {rest result : Text} {offset : Nat} {edits : List Edit} (old new : Text)
      (hrest : Rewrites rest (offset + byteSize old) edits result) :
      Rewrites (old ++ rest) offset (⟨⟨offset, offset + byteSize old⟩, new⟩ :: edits)
        (new ++ result)

namespace Rewrites

variable {text result : Text} {offset : Nat} {edits : List Edit}

theorem le_start (hrewrites : Rewrites text offset edits result) :
    ∀ edit ∈ edits, offset ≤ edit.range.start ∧ edit.range.start ≤ edit.range.stop := by
  induction hrewrites with
  | done => simp
  | keep kept _ ih =>
      intro edit hedit
      obtain ⟨hstart, hstop⟩ := ih edit hedit
      exact ⟨by omega, hstop⟩
  | change old new _ ih =>
      refine List.forall_mem_cons.mpr ⟨⟨Nat.le_refl _, Nat.le_add_right ..⟩, ?_⟩
      intro edit hedit
      obtain ⟨hstart, hstop⟩ := ih edit hedit
      exact ⟨by omega, hstop⟩

/-- The edits come in the order in which they are made. -/
theorem sorted (hrewrites : Rewrites text offset edits result) :
    edits.Pairwise fun left right => left.range.before right.range := by
  induction hrewrites with
  | done => exact .nil
  | keep _ _ ih => exact ih
  | change old new hrest ih =>
      refine List.pairwise_cons.mpr ⟨fun edit hedit => ?_, ih⟩
      obtain ⟨hstart, hstop⟩ := hrest.le_start edit hedit
      simp only [Range.before, Bool.or_eq_true, Bool.and_eq_true, decide_eq_true_eq, beq_iff_eq]
      omega

/-- The result is what splicing the edits gives.  What was kept since the last edit is carried
along, as splicing copies it only when it comes to the next one. -/
theorem splice (hrewrites : Rewrites text offset edits result) (front kept : Text)
    (hoffset : byteSize front + byteSize kept = offset) :
    spliceFrom? (front ++ (kept ++ text)) (byteSize front) edits = some (kept ++ result) := by
  induction hrewrites generalizing front kept with
  | done text offset =>
      rw [spliceFrom?, slice?_eq_some_iff]
      exact ⟨front, [], by rw [List.append_nil], rfl, by rw [byteSize_append front]⟩
  | keep more hrest ih =>
      have hsplice := ih front (kept ++ more) (by rw [byteSize_append]; omega)
      rwa [List.append_assoc, List.append_assoc] at hsplice
  | @change rest result offset edits old new hrest ih =>
      have hkept : slice? (front ++ (kept ++ (old ++ rest))) ⟨byteSize front, offset⟩ = some kept :=
        slice?_eq_some_iff.mpr ⟨front, old ++ rest, rfl, rfl, hoffset⟩
      have hsplice := ih (front ++ (kept ++ old)) []
        (by simp only [byteSize_append, byteSize_nil]; omega)
      have htext : front ++ (kept ++ old) ++ ([] ++ rest) = front ++ (kept ++ (old ++ rest)) := by
        simp
      have hstop : byteSize (front ++ (kept ++ old)) = offset + byteSize old := by
        rw [byteSize_append, byteSize_append]
        omega
      rw [htext, hstop] at hsplice
      rw [spliceFrom?, hkept, hsplice]
      simp

end Rewrites

end Text

end Untranslated
