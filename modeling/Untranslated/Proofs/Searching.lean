import Mathlib.Data.List.Forall2
import Untranslated.Proofs.Findings

/-!
# Searching with and without fixes

The findings of a tree can be told as a search through its nodes, one after the
other.  The search keeps the names under which fixes know the translation
function: the first fix in a file that knows none adds an import, and the ones
after it use the name that it binds.  This is all that one node leaves for the
next, and what is reported does not depend on it.  So a search that makes fixes
and one that makes none go side by side and report the same.
-/

namespace Untranslated

/-- Two findings say the same about the same literal, whatever their fixes. -/
structure Finding.SameReport (finding other : Finding) : Prop where
  node : finding.node = other.node
  range : finding.range = other.range
  text : finding.text = other.text

/-- A search on its way through a tree. -/
structure Search where
  /-- The names under which fixes know the translation function. -/
  known : List String
  found : List Finding

namespace Search

variable (tree : Tree) (options : RuleOptions)

/-- The names that are known once a literal has its fix, and the edits of the fix.
Where no name is known the import comes first, and the literal may then turn out
to be passed to the new name already. -/
def fix (known : List String) (literal : Literal) : List String × List Edit :=
  match known with
  | name :: names => (name :: names, (tree.wrapEdit? name names literal).toList)
  | [] =>
      ([options.wrapperFunction], (tree.importEdit? options).toList ++
        (tree.wrapEdit? options.wrapperFunction [] literal).toList)

/-- Adds what there is to say about a literal. -/
def report (withFixes : Bool) (search : Search) (literal : Literal) : Search :=
  if withFixes then
    let (known, edits) := fix tree options search.known literal
    ⟨known, search.found ++ [tree.finding literal edits]⟩
  else ⟨search.known, search.found ++ [tree.finding literal []]⟩

/-- Looks at one node.  Whether it is reported depends on the names that the file
itself binds. -/
def step (withFixes : Bool) (search : Search) (id : Nat) : Search :=
  match tree.literal? id with
  | none => search
  | some literal =>
      if tree.isUntranslated options (tree.wrapperNames options.modulePattern) literal then
        report tree options withFixes search literal
      else search

/-- Looks at all nodes in order. -/
def run (withFixes : Bool) : Search :=
  (List.range tree.nodes.size).foldl (step tree options withFixes)
    ⟨tree.wrapperNames options.modulePattern, []⟩

/-! ## The search finds the findings -/

/-- Only the literals that are reported matter. -/
theorem foldl_step (withFixes : Bool) (ids : List Nat) (search : Search) :
    ids.foldl (step tree options withFixes) search =
      ((ids.filterMap tree.literal?).filter
        (tree.isUntranslated options (tree.wrapperNames options.modulePattern))).foldl
          (report tree options withFixes) search := by
  induction ids generalizing search with
  | nil => rfl
  | cons id ids ih =>
      rw [List.foldl_cons, ih, step, List.filterMap_cons]
      cases tree.literal? id with
      | none => rfl
      | some literal =>
          dsimp only
          rw [List.filter_cons]
          split
          · rw [List.foldl_cons]
          · rfl

theorem run_eq (withFixes : Bool) :
    run tree options withFixes = (tree.untranslated options).foldl
      (report tree options withFixes) ⟨tree.wrapperNames options.modulePattern, []⟩ :=
  foldl_step tree options withFixes _ _

theorem foldl_report_false (literals : List Literal) (search : Search) :
    (literals.foldl (report tree options false) search).found =
      search.found ++ literals.map (tree.finding · []) := by
  induction literals generalizing search with
  | nil => simp
  | cons literal literals ih =>
      rw [List.foldl_cons, ih]
      simp [report]

/-- Once a name is known, every fix is made with the names that are known. -/
theorem foldl_report_true (name : String) (names : List String) (literals : List Literal)
    (found : List Finding) :
    (literals.foldl (report tree options true) ⟨name :: names, found⟩).found =
      found ++ List.zipWith tree.finding literals
        (literals.map fun literal => (tree.wrapEdit? name names literal).toList) := by
  induction literals generalizing found with
  | nil => simp
  | cons literal literals ih =>
      rw [List.foldl_cons, report, if_pos rfl, fix, ih]
      simp

/-- The search finds what the tree is said to have, with the same fixes. -/
theorem found_run (withFixes : Bool) :
    (run tree options withFixes).found = tree.check options withFixes := by
  rw [run_eq, Tree.check]
  cases withFixes with
  | false =>
      rw [foldl_report_false]
      rfl
  | true =>
      rw [if_pos rfl, Tree.edits]
      cases tree.wrapperNames options.modulePattern with
      | cons name names => exact foldl_report_true tree options name names _ []
      | nil =>
          cases tree.untranslated options with
          | nil => rfl
          | cons literal literals =>
              -- The first fix adds the import; from then on its name is known.
              rw [List.foldl_cons, report, if_pos rfl, fix, foldl_report_true]
              rfl

/-! ## Two searches side by side -/

/-- Two searches have reported the same so far.  Nothing is asked of the names that
they know. -/
def Agrees (search other : Search) : Prop :=
  List.Forall₂ Finding.SameReport search.found other.found

variable {tree options} {search other : Search}

theorem Agrees.report (hagrees : search.Agrees other) (literal : Literal) :
    (report tree options true search literal).Agrees
      (report tree options false other literal) :=
  List.rel_append hagrees (.cons ⟨rfl, rfl, rfl⟩ .nil)

/-- Looking at a node with fixes and without keeps two searches in agreement. -/
theorem Agrees.step (hagrees : search.Agrees other) (id : Nat) :
    (step tree options true search id).Agrees (step tree options false other id) := by
  unfold Search.step
  split
  · exact hagrees
  · split
    · exact hagrees.report _
    · exact hagrees

theorem Agrees.foldl_step (hagrees : search.Agrees other) (ids : List Nat) :
    (ids.foldl (Search.step tree options true) search).Agrees
      (ids.foldl (Search.step tree options false) other) := by
  induction ids generalizing search other with
  | nil => exact hagrees
  | cons id ids ih => exact ih (hagrees.step id)

theorem agrees_run (tree : Tree) (options : RuleOptions) :
    (run tree options true).Agrees (run tree options false) := by
  have hstart : Agrees ⟨tree.wrapperNames options.modulePattern, []⟩
      ⟨tree.wrapperNames options.modulePattern, []⟩ := List.Forall₂.nil
  exact hstart.foldl_step _

end Search

namespace Tree

theorem fix_eq_none_of_mem_check {tree : Tree} {options : RuleOptions} {finding : Finding}
    (hfinding : finding ∈ tree.check options false) : finding.fix = none := by
  rw [check, if_neg Bool.false_ne_true] at hfinding
  obtain ⟨literal, -, rfl⟩ := List.mem_map.mp hfinding
  rfl

/-- Asking for fixes changes nothing in what is reported, in any tree: the findings
are the same ones in the same order, and those that were found without fixes have
none.  Both lists are what a search through the nodes finds, in which a fix makes a
name known to all later ones. -/
theorem check_sameReport (tree : Tree) (options : RuleOptions) :
    List.Forall₂ Finding.SameReport (tree.check options true) (tree.check options false) ∧
      (∀ finding ∈ tree.check options false, finding.fix = none) ∧
      ∀ withFixes, (Search.run tree options withFixes).found = tree.check options withFixes := by
  refine ⟨?_, fun finding => fix_eq_none_of_mem_check, Search.found_run tree options⟩
  rw [← Search.found_run, ← Search.found_run]
  exact Search.agrees_run tree options

end Tree

end Untranslated
