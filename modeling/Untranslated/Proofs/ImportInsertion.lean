import Untranslated.Proofs.Criterion

/-!
# The one import

A file that knows no translation function gets an import with its first finding,
and no other edit of any fix inserts anything.  Every call uses one name: the first
that the file imports, or else the one that the new import binds.  A finding goes
without a fix only when there is nothing to do for it, or its text is not found.
-/

namespace Untranslated

/-- The edits that a finding asks for. -/
def Finding.edits (finding : Finding) : List Edit := (finding.fix.map Fix.edits).getD []

/-- The local name of an export that is imported by name. -/
def Syntax.ImportSpecifier.namedExport? : Syntax.ImportSpecifier → Option String
  | .named name _ => some name
  | _ => none

theorem head?_distinct (names : List String) : (distinct names).head? = names.head? := by
  have hseen : ∀ (names seen : List String),
      (names.foldl (fun seen name =>
        if seen.contains name then seen else seen ++ [name]) seen).head? =
        (seen ++ names).head? := by
    intro names
    induction names with
    | nil => simp
    | cons first names ih =>
        intro seen
        rw [List.foldl_cons, ih]
        cases seen with
        | nil => simp
        | cons earlier seen => split <;> simp
  rw [distinct, hseen names [], List.nil_append]

namespace Tree

variable {tree : Tree} {options : RuleOptions} {literal : Literal} {literals : List Literal}

/-- The first name that the imports of a file, in their order, bind to an export of
a matching module. -/
def firstName? (tree : Tree) (modulePattern : Pattern.Regex) : Option String :=
  tree.imports.findSome? fun (_, declaration) =>
    if modulePattern.isMatch declaration.source.toList then
      declaration.specifiers.findSome? (·.namedExport?)
    else none

/-- The edit adds the import to the text: after the last import of the body, or
else before its first node. -/
inductive AddsImport (tree : Tree) (options : RuleOptions) : Edit → Prop
  | afterLast {before after : List Nat} {id : Nat}
      {declaration : Syntax.ImportDeclaration} {parent : Option Nat} {range : Range} :
      tree.body.toList = before ++ id :: after →
      tree.node? id = some ⟨.imports declaration, parent, range⟩ →
      (∀ other ∈ after, ∀ later, tree.kind? other ≠ some (.imports later)) →
      AddsImport tree options
        (.insertAt range.stop ('\n' :: options.importStatement.toList))
  | beforeFirst {rest : List Nat} {id : Nat} {node : Node} :
      tree.body.toList = id :: rest → tree.node? id = some node →
      (∀ other ∈ tree.body.toList, ∀ found, tree.kind? other ≠ some (.imports found)) →
      AddsImport tree options
        (.insertAt node.range.start (options.importStatement.toList ++ ['\n', '\n']))

theorem importAt?_eq_none_iff {id : Nat} :
    tree.importAt? id = none ↔ ∀ found, tree.kind? id ≠ some (.imports found) := by
  constructor
  · intro hnone found hkind
    obtain ⟨⟨kind, parent, range⟩, hnode, rfl⟩ := Option.map_eq_some_iff.mp hkind
    have hsome := importAt?_eq_some_iff.mpr ⟨parent, hnode⟩
    rw [hnone] at hsome
    cases hsome
  · intro hkind
    cases himport : tree.importAt? id with
    | none => rfl
    | some entry =>
        obtain ⟨parent, hnode⟩ := importAt?_eq_some_iff.mp himport
        exact absurd (by rw [kind?, hnode]; rfl) (hkind entry.2)

/-- The last import of a file: after it the body has no more. -/
theorem getLast?_imports_eq_some_iff {entry : Range × Syntax.ImportDeclaration} :
    tree.imports.getLast? = some entry ↔ ∃ before id after,
      tree.body.toList = before ++ id :: after ∧ tree.importAt? id = some entry ∧
        ∀ other ∈ after, tree.importAt? other = none := by
  rw [imports_eq_filterMap, List.getLast?_filterMap, List.findSome?_eq_some_iff]
  constructor
  · rintro ⟨after, id, before, hbody, himport, hafter⟩
    have hsplit : tree.body.toList = before.reverse ++ id :: after.reverse := by
      simpa using congrArg List.reverse hbody
    refine ⟨before.reverse, id, after.reverse, hsplit, himport, ?_⟩
    intro other hother
    exact hafter other (List.mem_reverse.mp hother)
  · rintro ⟨before, id, after, hbody, himport, hafter⟩
    refine ⟨after.reverse, id, before.reverse, by simp [hbody], himport, ?_⟩
    intro other hother
    exact hafter other (List.mem_reverse.mp hother)

theorem getLast?_imports_eq_none_iff :
    tree.imports.getLast? = none ↔
      ∀ other ∈ tree.body.toList, tree.importAt? other = none := by
  rw [imports_eq_filterMap, List.getLast?_eq_none_iff, List.filterMap_eq_nil_iff]

/-- What is inserted for the import is what adds it. -/
theorem importEdit?_eq_some_iff {edit : Edit} :
    tree.importEdit? options = some edit ↔ tree.AddsImport options edit := by
  unfold importEdit?
  constructor
  · intro hedit
    cases hlast : tree.imports.getLast? with
    | some entry =>
        obtain ⟨range, declaration⟩ := entry
        rw [hlast] at hedit
        cases hedit
        obtain ⟨before, id, after, hbody, himport, hafter⟩ :=
          getLast?_imports_eq_some_iff.mp hlast
        obtain ⟨parent, hnode⟩ := importAt?_eq_some_iff.mp himport
        exact .afterLast hbody hnode fun other hother =>
          importAt?_eq_none_iff.mp (hafter other hother)
    | none =>
        rw [hlast] at hedit
        obtain ⟨node, hfirst, rfl⟩ := Option.map_eq_some_iff.mp hedit
        obtain ⟨id, hid, hnode⟩ := Option.bind_eq_some_iff.mp hfirst
        rw [← Array.getElem?_toList] at hid
        obtain ⟨rest, hbody⟩ : ∃ rest, tree.body.toList = id :: rest :=
          List.head?_eq_some_iff.mp (by rw [List.head?_eq_getElem?, hid])
        exact .beforeFirst hbody hnode fun other hother =>
          importAt?_eq_none_iff.mp (getLast?_imports_eq_none_iff.mp hlast other hother)
  · intro hadds
    cases hadds with
    | afterLast hbody hnode hafter =>
        rw [getLast?_imports_eq_some_iff.mpr ⟨_, _, _, hbody,
          importAt?_eq_some_iff.mpr ⟨_, hnode⟩,
          fun other hother => importAt?_eq_none_iff.mpr (hafter other hother)⟩]
    | beforeFirst hbody hnode hnone =>
        rw [getLast?_imports_eq_none_iff.mpr fun other hother =>
          importAt?_eq_none_iff.mpr (hnone other hother), ← Array.getElem?_toList, hbody]
        simp [hnode]

theorem AddsImport.isInsertion {edit : Edit} (hadds : tree.AddsImport options edit) :
    edit.isInsertion = true := by
  cases hadds <;> simp [Edit.isInsertion, Edit.insertAt, Range.isEmpty, Range.at']

/-- There is a place for the import in every tree that has grown and holds a
literal. -/
theorem Grown.exists_importEdit? (htree : tree.Grown) (options : RuleOptions)
    (hmem : literal ∈ tree.untranslated options) :
    ∃ edit, tree.importEdit? options = some edit := by
  have hrooted := htree.built.rooted
  obtain ⟨-, node, hnode, hkind, -⟩ :=
    literal?_eq_some (literal?_of_mem_untranslated hmem)
  have hroot : literal.node ≠ 0 := by
    intro hzero
    obtain ⟨range, hroot⟩ := hrooted.root
    rw [hzero, hroot] at hnode
    cases hnode
    cases hkind
  have hsize : literal.node < tree.nodes.size := (Array.getElem?_eq_some_iff.mp hnode).1
  obtain ⟨id, rest, hbody⟩ :=
    List.exists_cons_of_ne_nil (htree.body_ne_nil (by omega))
  have hparent : tree.parent? id = some 0 :=
    (hrooted.body id).mp (by rw [hbody]; exact List.mem_cons_self)
  obtain ⟨first, hfirst, -⟩ := Option.bind_eq_some_iff.mp hparent
  unfold importEdit?
  cases tree.imports.getLast? with
  | some entry => exact ⟨_, rfl⟩
  | none =>
      rw [← Array.getElem?_toList, hbody]
      exact ⟨_, by simp only [List.getElem?_cons_zero, Option.bind_some, hfirst]; rfl⟩

/-- Every call uses the first name that is imported, or else the one that is made
known. -/
theorem effectiveName_eq (tree : Tree) (options : RuleOptions) :
    tree.effectiveName options =
      (tree.firstName? options.modulePattern).getD options.wrapperFunction := by
  have hhead : (tree.wrapperNames options.modulePattern).head? =
      tree.firstName? options.modulePattern := by
    rw [wrapperNames, head?_distinct, List.head?_flatMap, ← List.head?_filterMap,
      List.filterMap_filter, List.head?_filterMap, List.findSome?_map]
    simp only [List.head?_filterMap]
    rfl
  rw [← hhead, effectiveName, effectiveNames]
  cases tree.wrapperNames options.modulePattern <;> rfl

@[simp] theorem edits_finding (tree : Tree) (literal : Literal) (edits : List Edit) :
    (tree.finding literal edits).edits = edits := by
  cases edits <;> rfl

/-- The finding of a literal whose fix is a call. -/
def callFinding (tree : Tree) (options : RuleOptions) (literal : Literal) : Finding :=
  tree.finding literal (tree.wrap? options literal).toList

/-- The first finding, which has the import too, where that is lacking. -/
def firstFinding (tree : Tree) (options : RuleOptions) (literal : Literal) : Finding :=
  tree.finding literal (tree.addedImport options ++ (tree.wrap? options literal).toList)

theorem check_eq_cons (hliterals : tree.untranslated options = literal :: literals) :
    tree.check options true =
      tree.firstFinding options literal :: literals.map (tree.callFinding options) := by
  have hwraps : tree.wraps options = (tree.wrap? options literal).toList ::
      literals.map fun other => (tree.wrap? options other).toList := by
    rw [wraps, hliterals, List.map_cons]
  rw [check, if_pos rfl, hliterals, firstFinding, addedImport]
  rcases edits_cases tree options with
    ⟨hlacks, hedits⟩ | ⟨hlacks, first, rest, hcons, hedits⟩
  · rw [if_neg hlacks, hedits, hwraps, List.zipWith_cons_cons, List.zipWith_map_right,
      List.zipWith_self, List.nil_append]
    rfl
  · rw [hwraps] at hcons
    cases hcons
    rw [if_pos hlacks, hedits, List.zipWith_cons_cons, List.zipWith_map_right,
      List.zipWith_self]
    rfl

theorem wrap?_eq_none_iff : tree.wrap? options literal = none ↔
    tree.isWrapped literal.anchor (tree.effectiveNames options) = true ∨
      tree.trimmedRange? literal = none := by
  unfold wrap?
  split
  · rename_i hwrapped
    simp [hwrapped]
  · rename_i hwrapped
    simp [hwrapped]

theorem fix_finding_eq_none_iff (added : List Edit) :
    (tree.finding literal (added ++ (tree.wrap? options literal).toList)).fix = none ↔
      added = [] ∧ (tree.isWrapped literal.anchor (tree.effectiveNames options) = true ∨
        tree.trimmedRange? literal = none) := by
  rw [← wrap?_eq_none_iff]
  cases added <;> cases tree.wrap? options literal <;> simp [finding]

/-- A replacement replaces something. -/
theorem isInsertion_of_wrap? (hmem : literal ∈ tree.untranslated options) {edit : Edit}
    (hedit : tree.wrap? options literal = some edit) : edit.isInsertion = false := by
  have htrimmed := trimmed_ne_nil_of_mem_untranslated hmem
  unfold wrap? at hedit
  split at hedit
  · cases hedit
  · obtain ⟨range, hrange, rfl⟩ := Option.map_eq_some_iff.mp hedit
    have hsize := Text.byteSize_of_slice? (slice?_trimmedRange? htrimmed hrange)
    obtain ⟨char, chars, hchars⟩ := List.exists_cons_of_ne_nil htrimmed
    have hpositive := char.utf8Size_pos
    rw [hchars, Text.byteSize_cons] at hsize
    simp only [Edit.isInsertion, Range.isEmpty, beq_eq_false_iff_ne]
    omega

/-- A call that is made of a literal stands in for what its finding reports. -/
theorem wrap?_eq_some_finding {edit : Edit} (hwrap : tree.wrap? options literal = some edit)
    (edits : List Edit) :
    edit = ⟨(tree.finding literal edits).range, literal.placement.wrap
      ((tree.firstName? options.modulePattern).getD options.wrapperFunction)
        literal.value⟩ := by
  rw [← effectiveName_eq]
  unfold wrap? at hwrap
  split at hwrap
  · cases hwrap
  · obtain ⟨range, hrange, rfl⟩ := Option.map_eq_some_iff.mp hwrap
    simp only [finding, hrange, Option.getD_some]

theorem addedImport_of_ne_nil (hnames : tree.wrapperNames options.modulePattern ≠ []) :
    tree.addedImport options = [] :=
  if_neg fun hlacks => hnames hlacks.1

theorem Grown.addedImport_of_nil (htree : tree.Grown)
    (hnames : tree.wrapperNames options.modulePattern = [])
    (hmem : literal ∈ tree.untranslated options) :
    ∃ insertion, tree.addedImport options = [insertion] ∧
      tree.AddsImport options insertion := by
  obtain ⟨insertion, hinsertion⟩ := htree.exists_importEdit? options hmem
  refine ⟨insertion, ?_, importEdit?_eq_some_iff.mp hinsertion⟩
  rw [addedImport, if_pos ⟨hnames, List.ne_nil_of_mem hmem⟩, hinsertion]
  rfl

/-- How the findings of a file see to its import and to its calls. -/
structure ImportsOnce (tree : Tree) (options : RuleOptions) (findings : List Finding) :
    Prop where
  /-- A file that knows no name gets the import with its first finding, and
  nothing else is inserted. -/
  lacking : tree.wrapperNames options.modulePattern = [] →
    ∀ first rest, findings = first :: rest →
      ∃ insertion more, first.fix = some ⟨insertion :: more⟩ ∧
        tree.AddsImport options insertion ∧
        ∀ edit ∈ more ++ rest.flatMap Finding.edits, edit.isInsertion = false
  /-- Otherwise nothing is inserted. -/
  known : ¬(tree.wrapperNames options.modulePattern = [] ∧ findings ≠ []) →
    ∀ edit ∈ findings.flatMap Finding.edits, edit.isInsertion = false
  /-- A fix replaces at most one thing, namely what its finding reports, by a call
  of the first name that is imported or else of the one that is made known. -/
  calls : ∀ finding ∈ findings, ∃ literal, tree.literal? finding.node = some literal ∧
    ∃ call : Option Edit, finding.edits.filter (!·.isInsertion) = call.toList ∧
      ∀ edit ∈ call, edit = ⟨finding.range, literal.placement.wrap
        ((tree.firstName? options.modulePattern).getD options.wrapperFunction)
          literal.value⟩
  /-- There is no fix exactly if the finding does not bring the import, and its
  literal is passed on already or not found. -/
  unfixed : ∀ finding ∈ findings, ∃ literal, tree.literal? finding.node = some literal ∧
    (finding.fix = none ↔
      ¬(tree.wrapperNames options.modulePattern = [] ∧ findings.head? = some finding) ∧
        (tree.isWrapped literal.anchor (tree.effectiveNames options) = true ∨
          tree.trimmedRange? literal = none))

section Check

variable (hmem : literal ∈ tree.untranslated options)

include hmem

theorem isInsertion_of_mem_wrap? {edit : Edit}
    (hedit : edit ∈ (tree.wrap? options literal).toList) : edit.isInsertion = false :=
  isInsertion_of_wrap? hmem (Option.mem_toList.mp hedit)

theorem filter_wrap? : (tree.wrap? options literal).toList.filter (!·.isInsertion) =
    (tree.wrap? options literal).toList := by
  rw [List.filter_eq_self]
  intro edit hedit
  rw [isInsertion_of_mem_wrap? hmem hedit]
  rfl

theorem filter_edits_callFinding :
    (tree.callFinding options literal).edits.filter (!·.isInsertion) =
      (tree.wrap? options literal).toList := by
  rw [callFinding, edits_finding, filter_wrap? hmem]

theorem filter_edits_firstFinding :
    (tree.firstFinding options literal).edits.filter (!·.isInsertion) =
      (tree.wrap? options literal).toList := by
  have hadded : (tree.addedImport options).filter (!·.isInsertion) = [] := by
    rw [List.filter_eq_nil_iff]
    intro edit hedit
    rw [isInsertion_of_mem_addedImport hedit]
    exact Bool.false_ne_true
  rw [firstFinding, edits_finding, List.filter_append, hadded, filter_wrap? hmem,
    List.nil_append]

/-- The first finding has no fix if the name is known and there is no call to
make. -/
theorem Grown.fix_firstFinding_eq_none_iff (htree : tree.Grown) :
    (tree.firstFinding options literal).fix = none ↔
      tree.wrapperNames options.modulePattern ≠ [] ∧
        (tree.isWrapped literal.anchor (tree.effectiveNames options) = true ∨
          tree.trimmedRange? literal = none) := by
  rw [firstFinding, fix_finding_eq_none_iff]
  apply and_congr_left
  intro _
  by_cases hnames : tree.wrapperNames options.modulePattern = []
  · obtain ⟨insertion, hadded, -⟩ := htree.addedImport_of_nil hnames hmem
    simp [hadded, hnames]
  · simp [addedImport_of_ne_nil hnames, hnames]

end Check

theorem fix_callFinding_eq_none_iff :
    (tree.callFinding options literal).fix = none ↔
      tree.isWrapped literal.anchor (tree.effectiveNames options) = true ∨
        tree.trimmedRange? literal = none :=
  (fix_finding_eq_none_iff []).trans (and_iff_right rfl)

/-- The findings after the first insert nothing. -/
theorem isInsertion_of_mem_calls
    (hmem : ∀ other ∈ literals, other ∈ tree.untranslated options) {edit : Edit}
    (hedit : edit ∈ (literals.map (tree.callFinding options)).flatMap Finding.edits) :
    edit.isInsertion = false := by
  simp only [List.flatMap_map, callFinding, edits_finding, List.mem_flatMap] at hedit
  obtain ⟨other, hother, hedit⟩ := hedit
  exact isInsertion_of_mem_wrap? (hmem other hother) hedit

/-- No later finding is the first one. -/
theorem firstFinding_ne_of_mem (hliterals : tree.untranslated options = literal :: literals)
    {other : Literal} (hother : other ∈ literals) :
    tree.firstFinding options literal ≠ tree.callFinding options other := by
  intro hsame
  have hordered := pairwise_untranslated tree options
  rw [hliterals] at hordered
  have hbefore := (List.pairwise_cons.mp hordered).1 other hother
  have hnode : literal.node = other.node := congrArg Finding.node hsame
  omega

/-- A finding is the first one, or a call is all that its fix may hold. -/
theorem mem_check_cases {finding : Finding} (hfinding : finding ∈ tree.check options true) :
    ∃ literal ∈ tree.untranslated options,
      finding = tree.firstFinding options literal ∧
          (tree.check options true).head? = some finding ∨
        finding = tree.callFinding options literal ∧
          (tree.check options true).head? ≠ some finding := by
  cases hliterals : tree.untranslated options with
  | nil =>
      rw [check, if_pos rfl, hliterals] at hfinding
      cases hfinding
  | cons literal literals =>
      rw [check_eq_cons hliterals] at hfinding ⊢
      rcases List.mem_cons.mp hfinding with rfl | hfinding
      · exact ⟨literal, List.mem_cons_self, Or.inl ⟨rfl, rfl⟩⟩
      · obtain ⟨other, hother, rfl⟩ := List.mem_map.mp hfinding
        refine ⟨other, List.mem_cons_of_mem _ hother, Or.inr ⟨rfl, ?_⟩⟩
        intro hfirst
        exact firstFinding_ne_of_mem hliterals hother (Option.some.inj hfirst)

/-- A finding suggests the call that is made of its literal. -/
theorem exists_suggestion? {finding : Finding} (hfinding : finding ∈ tree.check options true) :
    ∃ literal ∈ tree.untranslated options, literal.node = finding.node ∧
      finding.suggestion? = (tree.wrap? options literal).map (·.replacement) := by
  have hfirst : ∀ found : Finding, found.suggestion? =
      (found.edits.filter (!·.isInsertion)).head?.map (·.replacement) := by
    intro found
    rw [List.head?_filter, Finding.suggestion?, Finding.edits]
    cases found.fix <;> rfl
  obtain ⟨literal, hmem, ⟨rfl, -⟩ | ⟨rfl, -⟩⟩ := mem_check_cases hfinding
  · refine ⟨literal, hmem, rfl, ?_⟩
    rw [hfirst, filter_edits_firstFinding hmem, Option.head?_toList]
  · refine ⟨literal, hmem, rfl, ?_⟩
    rw [hfirst, filter_edits_callFinding hmem, Option.head?_toList]

/-- Where its own node has the text of a literal, the call is left out only if it is
there already. -/
theorem suggestion?_of_literal? {finding : Finding} (hfinding : finding ∈ tree.check options true)
    {node : Node} (hnode : tree.node? finding.node = some node)
    (hliteral : tree.literal? finding.node = some literal)
    (htext : tree.textOf node = literal.raw) :
    finding.suggestion? =
      if tree.isWrapped literal.anchor (tree.effectiveNames options) then none
      else some (literal.placement.wrap (tree.effectiveName options) literal.value) := by
  obtain ⟨found, hmem, hid, hsuggestion⟩ := exists_suggestion? hfinding
  have hfound := literal?_of_mem_untranslated hmem
  rw [hid, hliteral, Option.some.injEq] at hfound
  subst hfound
  obtain ⟨range, -, hrange⟩ :=
    exists_findIn? (hid ▸ hnode) htext (trimmed_ne_nil_of_mem_untranslated hmem)
  rw [hsuggestion, wrap?, hrange]
  split <;> rfl

/-- In every tree that has grown node by node, the import is inserted exactly when
it is lacking, once and first, and all calls use one name. -/
theorem check_importsOnce (tree : Tree) (htree : tree.Grown) (options : RuleOptions) :
    tree.ImportsOnce options (tree.check options true) where
  lacking := by
    intro hnames first rest hcheck
    cases hliterals : tree.untranslated options with
    | nil =>
        rw [check, if_pos rfl, hliterals] at hcheck
        cases hcheck
    | cons literal literals =>
        have hmem : literal ∈ tree.untranslated options := by simp [hliterals]
        have hlater : ∀ other ∈ literals, other ∈ tree.untranslated options := by
          intro other hother
          simp [hliterals, hother]
        rw [check_eq_cons hliterals] at hcheck
        cases hcheck
        obtain ⟨insertion, hadded, hadds⟩ := htree.addedImport_of_nil hnames hmem
        refine ⟨insertion, (tree.wrap? options literal).toList, ?_, hadds, ?_⟩
        · rw [firstFinding, hadded]
          rfl
        · intro edit hedit
          rcases List.mem_append.mp hedit with hedit | hedit
          · exact isInsertion_of_mem_wrap? hmem hedit
          · exact isInsertion_of_mem_calls hlater hedit
  known := by
    intro hknown edit hedit
    obtain ⟨finding, hfinding, hedit⟩ := List.mem_flatMap.mp hedit
    have hnames : tree.wrapperNames options.modulePattern ≠ [] :=
      fun hnames => hknown ⟨hnames, List.ne_nil_of_mem hfinding⟩
    obtain ⟨literal, hmem, ⟨rfl, -⟩ | ⟨rfl, -⟩⟩ := mem_check_cases hfinding
    · rw [firstFinding, addedImport_of_ne_nil hnames, edits_finding] at hedit
      exact isInsertion_of_mem_wrap? hmem hedit
    · rw [callFinding, edits_finding] at hedit
      exact isInsertion_of_mem_wrap? hmem hedit
  calls := by
    intro finding hfinding
    obtain ⟨literal, hmem, hcases⟩ := mem_check_cases hfinding
    refine ⟨literal, ?_⟩
    rcases hcases with ⟨rfl, -⟩ | ⟨rfl, -⟩
    · exact ⟨literal?_of_mem_untranslated hmem, tree.wrap? options literal,
        filter_edits_firstFinding hmem, fun edit hedit => wrap?_eq_some_finding hedit _⟩
    · exact ⟨literal?_of_mem_untranslated hmem, tree.wrap? options literal,
        filter_edits_callFinding hmem, fun edit hedit => wrap?_eq_some_finding hedit _⟩
  unfixed := by
    intro finding hfinding
    obtain ⟨literal, hmem, hcases⟩ := mem_check_cases hfinding
    refine ⟨literal, ?_⟩
    rcases hcases with ⟨rfl, hfirst⟩ | ⟨rfl, hlater⟩
    · refine ⟨literal?_of_mem_untranslated hmem, ?_⟩
      rw [htree.fix_firstFinding_eq_none_iff hmem, hfirst, and_iff_left rfl]
    · refine ⟨literal?_of_mem_untranslated hmem, ?_⟩
      rw [fix_callFinding_eq_none_iff, and_iff_right fun hcarrier => hlater hcarrier.2]

theorem check_importsOnce_sampleTree :
    sampleTree.Grown ∧ sampleTree.wrapperNames RuleOptions.cyrillic.modulePattern = [] ∧
      (sampleTree.check .cyrillic true).length = 6 ∧
      sampleTree.ImportsOnce .cyrillic (sampleTree.check .cyrillic true) := by
  have hgrown : sampleTree.Grown := grown_parse _ _
  obtain ⟨hnames, -, hlength⟩ := sampleTree_evaluated
  exact ⟨hgrown, hnames, hlength, check_importsOnce sampleTree hgrown .cyrillic⟩

/-- The first name that the first import of a matching module binds to an export of
it. -/
def firstImportName? (tree : Tree) (modulePattern : Pattern.Regex) : Option String :=
  (tree.imports.find? fun (_, declaration) =>
    modulePattern.isMatch declaration.source.toList).bind fun (_, declaration) =>
      declaration.specifiers.findSome? (·.namedExport?)

/-- A file that takes the default of one matching module and a name of another. -/
def defaultImport : Tree :=
  ((parse "a.ts" ("import x from './i18n';\nimport \x7b t \x7d from '../i18n';\n" ++
    "f('да')").toList).toOption).getD (ofText [])

/-- The first import of a matching module need not bind the name that calls use. -/
theorem call_not_of_firstImportName :
    defaultImport.Grown ∧ ∃ finding literal edit,
      defaultImport.check .cyrillic true = [finding] ∧
      defaultImport.literal? finding.node = some literal ∧ finding.edits = [edit] ∧
      edit.isInsertion = false ∧
      edit.replacement ≠ literal.placement.wrap
        ((defaultImport.firstImportName? RuleOptions.cyrillic.modulePattern).getD
          RuleOptions.cyrillic.wrapperFunction) literal.value :=
  ⟨grown_parse _ _,
    ⟨7, ⟨55, 61⟩, "да".toList, some ⟨[⟨⟨55, 61⟩, "t('да')".toList⟩]⟩⟩,
    ⟨7, .expression, "'да'".toList, 7⟩, ⟨⟨55, 61⟩, "t('да')".toList⟩,
    by decide +kernel⟩

end Tree

end Untranslated
