import Mathlib.Data.Prod.Lex
import Mathlib.Data.String.Basic
import Mathlib.Order.Compare
import Untranslated.Report.Layout
import Untranslated.Text.Width

/-!
# The order of a report

Issues are sorted before they are shown, by file, place, rule and message.  An issue
about a whole file has no place and counts as standing at line 0, before all others of
its file.  The order looks at a key and not at the whole issue, so it is total on keys
only; where different issues have different keys, the sorted list depends on nothing
but what is in it.  The width of the line numbers and the summary depend on that alone
in any case.
-/

namespace Untranslated

/-- Comparing by one thing and then by the next is comparing pairs. -/
theorem isLE_then_iff {α : Type} [LinearOrder α] (left right : α) (next : Ordering) :
    ((Ord.compare left right).then next).isLE = true ↔
      left < right ∨ left = right ∧ next.isLE = true := by
  rcases lt_trichotomy left right with hlt | rfl | hgt
  · simp [compare_lt_iff_lt.mpr hlt, hlt]
  · simp
  · simp [compare_gt_iff_gt.mpr hgt, not_lt_of_gt hgt, hgt.ne']

namespace Issue

/-- What issues are ordered by: file, line, column, rule and message. -/
def key (issue : Issue) : String ×ₗ Nat ×ₗ Nat ×ₗ Nat ×ₗ String :=
  toLex (issue.path, toLex (issue.position.line, toLex (issue.position.column,
    toLex (issue.rule.rank, issue.message))))

/-- Issues are compared by their keys. -/
theorem isLE_compare_iff (issue other : Issue) :
    (issue.compare other).isLE = true ↔ issue.key ≤ other.key := by
  rw [key, key, Prod.Lex.toLex_le_toLex, Prod.Lex.toLex_le_toLex, Prod.Lex.toLex_le_toLex,
    Prod.Lex.toLex_le_toLex, compare, isLE_then_iff, isLE_then_iff, isLE_then_iff,
    isLE_then_iff, Std.LawfulBCmp.isLE_iff_le]

end Issue

/-- Issues that have the same key are the same. -/
def Issue.Distinct (issues : List Issue) : Prop :=
  ∀ issue ∈ issues, ∀ other ∈ issues, issue.key = other.key → issue = other

namespace Report

variable {issues others : List Issue}

/-- Issues in the order in which they are shown. -/
def sorted (issues : List Issue) : List Issue :=
  issues.mergeSort fun issue other => (issue.compare other).isLE

/-- What is shown of one issue. -/
def block (colours : Bool) (measure : Text → Nat) (width : Nat) (issue : Issue) : String :=
  unlines (issueLines colours measure width issue)

/-- What is shown below the issues, if there are any. -/
def closing (colours : Bool) (issues : List Issue) : String :=
  if issues.isEmpty then "" else unlines [summaryLine colours issues]

/-! ### Sorting -/

theorem sorted_perm (issues : List Issue) : (sorted issues).Perm issues :=
  List.mergeSort_perm _ _

theorem pairwise_sorted (issues : List Issue) :
    (sorted issues).Pairwise fun issue next => issue.key ≤ next.key := by
  refine (List.pairwise_mergeSort ?_ ?_ issues).imp fun hle => (Issue.isLE_compare_iff _ _).mp hle
  · intro first second third hfirst hsecond
    rw [Issue.isLE_compare_iff] at hfirst hsecond ⊢
    exact le_trans hfirst hsecond
  · intro issue other
    rw [Bool.or_eq_true, Issue.isLE_compare_iff, Issue.isLE_compare_iff]
    exact le_total _ _

/-- Issues with keys of their own can be sorted in one way only. -/
theorem eq_of_perm_of_pairwise (hdistinct : Issue.Distinct issues) (hperm : others.Perm issues)
    (hothers : others.Pairwise fun issue next => issue.key ≤ next.key)
    (hissues : issues.Pairwise fun issue next => issue.key ≤ next.key) : others = issues := by
  apply hperm.eq_of_pairwise _ hothers hissues
  intro issue other hissue hother hle hge
  exact hdistinct issue (hperm.mem_iff.mp hissue) other hother (le_antisymm hle hge)

theorem sorted_of_perm (hdistinct : Issue.Distinct issues) (hperm : others.Perm issues) :
    sorted others = sorted issues := by
  have hsorted : Issue.Distinct (sorted issues) := by
    intro issue hissue other hother
    exact hdistinct issue ((sorted_perm issues).mem_iff.mp hissue) other
      ((sorted_perm issues).mem_iff.mp hother)
  have hpermSorted := ((sorted_perm others).trans hperm).trans (sorted_perm issues).symm
  exact eq_of_perm_of_pairwise hsorted hpermSorted (pairwise_sorted others)
    (pairwise_sorted issues)

/-! ### What all issues have in common -/

theorem max?_of_perm {numbers more : List Nat} (hperm : numbers.Perm more) :
    numbers.max? = more.max? := by
  cases hmax : numbers.max? with
  | none =>
      rw [List.max?_eq_none_iff] at hmax
      rw [hmax] at hperm
      rw [← hperm.nil_eq, List.max?_nil]
  | some largest =>
      rw [List.max?_eq_some_iff] at hmax
      refine (List.max?_eq_some_iff.mpr ⟨hperm.mem_iff.mp hmax.1, fun number hnumber => ?_⟩).symm
      exact hmax.2 number (hperm.mem_iff.mpr hnumber)

/-- The width of the line numbers does not depend on the order. -/
theorem lineNumberWidth_of_perm (hperm : others.Perm issues) :
    lineNumberWidth others = lineNumberWidth issues := by
  simp only [lineNumberWidth, max?_of_perm (hperm.filterMap _)]

theorem closing_of_perm (hperm : others.Perm issues) (colours : Bool) :
    closing colours others = closing colours issues := by
  have herrors := (hperm.filter (·.severity == .error)).length_eq
  simp only [closing, summaryLine, hperm.isEmpty_eq, hperm.length_eq, herrors]

/-! ### The text of a report -/

theorem unlines_append (lines more : List String) :
    unlines (lines ++ more) = unlines lines ++ unlines more := by
  rw [unlines, List.map_append, String.join_append]
  rfl

theorem unlines_flatMap (lines : Issue → List String) (issues : List Issue) :
    unlines (issues.flatMap lines) =
      String.join (issues.map fun issue => unlines (lines issue)) := by
  induction issues with
  | nil => rfl
  | cons issue issues ih =>
      rw [List.flatMap_cons, unlines_append, ih, List.map_cons, String.join_cons]

/-- A report shows the sorted issues one after the other. -/
theorem issues_eq (colours : Bool) (measure : Text → Nat) (issues : List Issue) :
    Report.issues colours measure issues =
      String.join ((sorted issues).map (block colours measure (lineNumberWidth issues))) ++
        closing colours issues := by
  by_cases hempty : issues = []
  · rw [hempty, sorted, List.mergeSort_nil]
    rfl
  · rw [← lineNumberWidth_of_perm (sorted_perm issues), ← closing_of_perm (sorted_perm issues)]
    have hsorted : (sorted issues).isEmpty = false := by
      rw [(sorted_perm issues).isEmpty_eq, List.isEmpty_eq_false_iff]
      exact hempty
    rw [Report.issues, if_neg (by simpa using hempty), closing, hsorted, if_neg Bool.false_ne_true,
      unlines_append, unlines_flatMap]
    rfl

/-- Where different issues have different keys, a report does not depend on the order in which
they come.  It is made of what is shown of each issue, in the order of their keys, all with
line numbers of one width.  This holds however texts are measured. -/
theorem issues_in_order (colours : Bool) (measure : Text → Nat) (issues : List Issue)
    (hdistinct : Issue.Distinct issues) :
    (∀ others : List Issue, others.Perm issues →
        Report.issues colours measure others = Report.issues colours measure issues) ∧
      ∃ shown : List Issue, shown.Perm issues ∧
        (shown.Pairwise fun issue next => issue.key ≤ next.key) ∧
        Report.issues colours measure issues =
          String.join (shown.map (block colours measure (lineNumberWidth issues))) ++
            closing colours issues := by
  refine ⟨fun others hperm => ?_, sorted issues, sorted_perm issues, pairwise_sorted issues,
    issues_eq colours measure issues⟩
  rw [issues_eq, issues_eq, sorted_of_perm hdistinct hperm, lineNumberWidth_of_perm hperm,
    closing_of_perm hperm]

/-- Four issues in order: one about a whole file, two at one place, and one with a longer line
number. -/
def mixedIssues : List Issue :=
  [.parseError "a.ts" "unexpected end",
    .unwrappedString ⟨"a.ts", ⟨2, 1⟩, "'да'".toList⟩ "да" "t" none,
    .unwrappedString ⟨"a.ts", ⟨2, 1⟩, "'нет'".toList⟩ "нет" "t" (some "t('нет')"),
    .unwrappedString ⟨"b.ts", ⟨10, 3⟩, "f('ой')".toList⟩ "ой" "t" none]

def mixedReport : String := unlines
  ["error: \"unexpected end\"  parse-error", "  --> a.ts", "",
    "error: \"да\"  unwrapped-string", "  --> a.ts:2:1", "   |", " 2 | 'да'", "   | ^",
    "   = note: The string `да` is not wrapped in t call", "",
    "error: \"нет\"  unwrapped-string", "  --> a.ts:2:1", "   |", " 2 | 'нет'", "   | ^",
    "   = note: The string `нет` is not wrapped in t call",
    "   = help: replace with `t('нет')`", "",
    "error: \"ой\"  unwrapped-string", "  --> b.ts:10:3", "   |", "10 | f('ой')", "   |   ^",
    "   = note: The string `ой` is not wrapped in t call", "",
    "✘ 4 problems (4 errors, 0 warnings)"]

theorem sorted_mixedIssues : sorted mixedIssues = mixedIssues :=
  List.mergeSort_of_pairwise (by decide +kernel)

theorem issues_in_order_mixedIssues : Issue.Distinct mixedIssues ∧
    Report.issues false Text.width mixedIssues.reverse = mixedReport := by
  have hdistinct : Issue.Distinct mixedIssues := by
    unfold Issue.Distinct
    decide +kernel
  refine ⟨hdistinct, ((issues_in_order false Text.width mixedIssues hdistinct).1 _
    (List.reverse_perm _)).trans ?_⟩
  rw [issues_eq, sorted_mixedIssues]
  decide +kernel

end Report

end Untranslated
