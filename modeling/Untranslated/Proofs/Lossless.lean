import Untranslated.Proofs.Findings
import Untranslated.Tree.Lowering

/-!
# Fixes fit together

When the literals of a tree stand where the tree says they stand, all fixes of
a file fit together.  Each replacement keeps to the range of its own literal,
the ranges of literals do not meet, and the one insertion falls between them,
so that nothing is ever skipped.
-/

namespace Untranslated

namespace Range

/-- Some byte lies in both ranges. -/
def SharesByte (left right : Range) : Prop :=
  max left.start right.start < min left.stop right.stop

instance (left right : Range) : Decidable (left.SharesByte right) :=
  inferInstanceAs (Decidable (_ < _))

theorem sharesByte_comm {left right : Range} :
    left.SharesByte right ↔ right.SharesByte left := by
  rw [SharesByte, SharesByte, Nat.max_comm, Nat.min_comm]

/-- Non-empty ranges inside ranges without a common byte are clear of each
other. -/
theorem overlaps_eq_false_of_inside {left right left' right' : Range}
    (hleft : left.start < left.stop) (hright : right.start < right.stop)
    (hleftStart : left'.start ≤ left.start) (hleftStop : left.stop ≤ left'.stop)
    (hrightStart : right'.start ≤ right.start)
    (hrightStop : right.stop ≤ right'.stop)
    (hapart : ¬left'.SharesByte right') :
    left.overlaps right = false := by
  rw [SharesByte] at hapart
  rw [overlaps_eq_false_iff, if_neg (by omega)]
  omega

/-- An insertion that is not strictly inside a range is clear of it. -/
theorem overlaps_at_eq_false {offset : Nat} {range : Range}
    (hrange : range.start < range.stop)
    (hclear : ¬(range.start < offset ∧ offset < range.stop)) :
    (Range.at' offset).overlaps range = false := by
  rw [overlaps_eq_false_iff, if_neg (by omega)]
  simp only [at']
  omega

end Range

namespace Tree

variable {tree : Tree} {options : RuleOptions} {literal : Literal}

/-- The offset falls between characters, and not strictly inside a literal. -/
def IsGap (tree : Tree) (offset : Nat) : Prop :=
  (Text.slice? tree.text (.at' offset)).isSome = true ∧
    ∀ node ∈ tree.nodes.toList, node.kind.isLiteral = true →
      ¬(node.range.start < offset ∧ offset < node.range.stop)

instance (tree : Tree) (offset : Nat) : Decidable (tree.IsGap offset) :=
  inferInstanceAs (Decidable (_ ∧ _))

/-- A template segment says of itself what stands in its range. -/
def segmentAgrees (tree : Tree) (node : Node) : Bool :=
  match node.kind with
  | .segment raw => tree.textOf node == raw
  | _ => true

/-- The literals of the tree stand where it says, apart from one another, and
the places where an import may be added fall between them. -/
structure Faithful (tree : Tree) : Prop where
  sliced : ∀ node ∈ tree.nodes.toList, node.kind.isLiteral = true →
    (Text.slice? tree.text node.range).isSome = true
  apart : tree.nodes.toList.Pairwise fun node other =>
    node.kind.isLiteral = true → other.kind.isLiteral = true →
      ¬node.range.SharesByte other.range
  segments : ∀ node ∈ tree.nodes.toList, tree.segmentAgrees node = true
  importGap : ∀ entry ∈ tree.imports, tree.IsGap entry.1.stop
  bodyGap : ∀ first ∈ tree.body[0]?.bind tree.node?,
    tree.IsGap first.range.start

instance (tree : Tree) : Decidable tree.Faithful :=
  decidable_of_iff (_ ∧ _ ∧ _ ∧ _ ∧ _)
    ⟨fun ⟨sliced, apart, segments, importGap, bodyGap⟩ =>
      ⟨sliced, apart, segments, importGap, bodyGap⟩,
    fun htree => ⟨htree.sliced, htree.apart, htree.segments, htree.importGap,
      htree.bodyGap⟩⟩

theorem mem_nodes_of_node? {id : Nat} {node : Node}
    (hnode : tree.node? id = some node) : node ∈ tree.nodes.toList :=
  Array.mem_toList_iff.mpr (Array.mem_of_getElem? hnode)

/-- The literal that a node is has that node's text. -/
theorem literal?_eq_some {id : Nat} (hliteral : tree.literal? id = some literal) :
    literal.node = id ∧ ∃ node, tree.node? id = some node ∧
      node.kind.isLiteral = true ∧
      (literal.raw = tree.textOf node ∨ node.kind = .segment literal.raw) := by
  unfold literal? at hliteral
  split at hliteral
  · cases hliteral
  · rename_i node hnode
    split at hliteral
    · rename_i value hkind
      cases hliteral
      exact ⟨rfl, node, hnode, by simp [hkind, NodeKind.isLiteral], Or.inl rfl⟩
    · rename_i value hkind
      cases hliteral
      exact ⟨rfl, node, hnode, by simp [hkind, NodeKind.isLiteral], Or.inl rfl⟩
    · rename_i raw hkind
      obtain ⟨parent, -, rfl⟩ := Option.map_eq_some_iff.mp hliteral
      exact ⟨rfl, node, hnode, by simp [hkind, NodeKind.isLiteral],
        Or.inr hkind⟩
    · cases hliteral

theorem literal?_of_mem_literals (hmem : literal ∈ tree.literals) :
    tree.literal? literal.node = some literal := by
  obtain ⟨id, -, hid⟩ := List.mem_filterMap.mp hmem
  rw [(literal?_eq_some hid).1]
  exact hid

theorem literal?_of_mem_untranslated
    (hmem : literal ∈ tree.untranslated options) :
    tree.literal? literal.node = some literal :=
  literal?_of_mem_literals (List.mem_filter.mp hmem).1

/-- No two literals of a tree are the same node. -/
theorem nodup_untranslated (tree : Tree) (options : RuleOptions) :
    (tree.untranslated options).Pairwise fun literal other =>
      literal.node ≠ other.node := by
  apply List.Pairwise.filter
  refine List.Pairwise.filterMap tree.literal? ?_ List.nodup_range
  intro id other hid literal hliteral otherLiteral hother
  rwa [(literal?_eq_some hliteral).1, (literal?_eq_some hother).1]

/-- Where a template segment says what stands in its range, a literal is what stands in the range
of its node. -/
theorem textOf_eq_raw {node : Node}
    (hraw : literal.raw = tree.textOf node ∨ node.kind = .segment literal.raw)
    (hagrees : tree.segmentAgrees node = true) : tree.textOf node = literal.raw := by
  rcases hraw with hraw | hsegment
  · exact hraw.symm
  · rw [segmentAgrees, hsegment] at hagrees
    exact eq_of_beq hagrees

theorem exists_textOf_eq_raw
    (hsegments : ∀ node ∈ tree.nodes.toList, tree.segmentAgrees node = true)
    (hliteral : tree.literal? literal.node = some literal) :
    ∃ node, tree.node? literal.node = some node ∧ node.kind.isLiteral = true ∧
      tree.textOf node = literal.raw := by
  obtain ⟨-, node, hnode, hkind, hraw⟩ := literal?_eq_some hliteral
  exact ⟨node, hnode, hkind,
    textOf_eq_raw hraw (hsegments node (mem_nodes_of_node? hnode))⟩

/-- A literal that is what stands in the range of its node is found there. -/
theorem exists_findIn? {node : Node} (hnode : tree.node? literal.node = some node)
    (htext : tree.textOf node = literal.raw) (htrimmed : literal.trimmed ≠ []) :
    ∃ range, tree.findIn? literal.node literal.trimmed = some range ∧
      tree.trimmedRange? literal = some range := by
  have hfound : (tree.findIn? literal.node literal.trimmed).isSome = true := by
    rw [findIn?, hnode, Option.bind_some, htext, Literal.trimmed, Text.find?_trim htrimmed]
    rfl
  obtain ⟨range, hrange⟩ := Option.isSome_iff_exists.mp hfound
  refine ⟨range, hrange, ?_⟩
  unfold trimmedRange?
  split
  · rw [Option.or_of_isSome hfound, hrange]
  · exact hrange

/-- It starts after the blanks before it. -/
theorem trimmedRange?_of_textOf {node : Node} (hnode : tree.node? literal.node = some node)
    (htext : tree.textOf node = literal.raw) (htrimmed : literal.trimmed ≠ []) :
    let start := node.range.start + Text.byteSize (Text.leadingBlanks literal.raw)
    tree.trimmedRange? literal = some ⟨start, start + Text.byteSize literal.trimmed⟩ := by
  obtain ⟨range, hfound, hrange⟩ := exists_findIn? hnode htext htrimmed
  rw [findIn?, hnode, Option.bind_some, htext, Literal.trimmed,
    Text.find?_trim htrimmed] at hfound
  rw [hrange, ← hfound]
  rfl

/-- Its text without the blanks around it is then found in its own node. -/
theorem exists_trimmedRange?
    (hsegments : ∀ node ∈ tree.nodes.toList, tree.segmentAgrees node = true)
    (hliteral : tree.literal? literal.node = some literal) (htrimmed : literal.trimmed ≠ []) :
    ∃ node range, tree.node? literal.node = some node ∧
      node.kind.isLiteral = true ∧ tree.trimmedRange? literal = some range ∧
      node.range.start ≤ range.start ∧ range.start < range.stop ∧
      range.stop ≤ node.range.stop := by
  obtain ⟨node, hnode, hkind, htext⟩ := exists_textOf_eq_raw hsegments hliteral
  obtain ⟨range, hrange, hown⟩ := exists_findIn? hnode htext htrimmed
  obtain ⟨same, hsame, hstart, hstop, hslice⟩ := findIn?_eq_some htrimmed hrange
  cases hnode.symm.trans hsame
  have hsize := Text.byteSize_of_slice? hslice
  obtain ⟨char, chars, hchars⟩ := List.exists_cons_of_ne_nil htrimmed
  have hpositive := char.utf8Size_pos
  rw [hchars, Text.byteSize_cons] at hsize
  exact ⟨node, range, hnode, hkind, hown, hstart, by omega, hstop⟩

namespace Faithful

/-- Different literals have no byte in common. -/
theorem not_sharesByte (htree : tree.Faithful) {id other : Nat}
    {node otherNode : Node} (hids : id ≠ other)
    (hnode : tree.node? id = some node) (hkind : node.kind.isLiteral = true)
    (hother : tree.node? other = some otherNode)
    (hotherKind : otherNode.kind.isLiteral = true) :
    ¬node.range.SharesByte otherNode.range := by
  have hpairs := List.pairwise_iff_getElem.mp htree.apart
  rw [node?, ← Array.getElem?_toList, List.getElem?_eq_some_iff] at hnode hother
  obtain ⟨hid, rfl⟩ := hnode
  obtain ⟨hother, rfl⟩ := hother
  rcases Nat.lt_or_gt_of_ne hids with hlt | hgt
  · exact hpairs id other hid hother hlt hkind hotherKind
  · rw [Range.sharesByte_comm]
    exact hpairs other id hother hid hgt hotherKind hkind

/-- A literal's text is found in its own node, after the blanks before it. -/
theorem trimmedRange?_eq_some (htree : tree.Faithful)
    (hliteral : tree.literal? literal.node = some literal)
    (htrimmed : literal.trimmed ≠ []) :
    ∃ node, tree.node? literal.node = some node ∧ node.kind.isLiteral = true ∧
      node.range.start + Text.byteSize literal.raw = node.range.stop ∧
      let start := node.range.start + Text.byteSize (Text.leadingBlanks literal.raw)
      tree.trimmedRange? literal =
        some ⟨start, start + Text.byteSize literal.trimmed⟩ := by
  obtain ⟨node, hnode, hkind, htext⟩ := exists_textOf_eq_raw htree.segments hliteral
  have hsize : node.range.start + Text.byteSize literal.raw = node.range.stop := by
    obtain ⟨found, hslice⟩ := Option.isSome_iff_exists.mp
      (htree.sliced node (mem_nodes_of_node? hnode) hkind)
    rw [← htext, textOf, hslice]
    exact Text.byteSize_of_slice? hslice
  exact ⟨node, hnode, hkind, hsize, trimmedRange?_of_textOf hnode htext htrimmed⟩

/-- The import is added in a gap between literals. -/
theorem importEdit?_eq_some (htree : tree.Faithful) {edit : Edit}
    (hedit : tree.importEdit? options = some edit) :
    ∃ offset, edit.range = .at' offset ∧ tree.IsGap offset := by
  unfold importEdit? at hedit
  simp only at hedit
  split at hedit
  · rename_i range declaration hlast
    cases hedit
    exact ⟨range.stop, rfl,
      htree.importGap (range, declaration) (List.mem_of_getLast? hlast)⟩
  · obtain ⟨first, hfirst, rfl⟩ := Option.map_eq_some_iff.mp hedit
    exact ⟨first.range.start, rfl, htree.bodyGap first hfirst⟩

/-- A replacement keeps to the node of its literal. -/
theorem wrap?_eq_some (htree : tree.Faithful)
    (hmem : literal ∈ tree.untranslated options) {edit : Edit}
    (hedit : tree.wrap? options literal = some edit) :
    ∃ node, tree.node? literal.node = some node ∧
      node.kind.isLiteral = true ∧ node.range.start ≤ edit.range.start ∧
      edit.range.start < edit.range.stop ∧
      edit.range.stop ≤ node.range.stop ∧
      Text.slice? tree.text edit.range = some literal.trimmed := by
  have htrimmed := trimmed_ne_nil_of_mem_untranslated hmem
  obtain ⟨node, range, hnode, hkind, hrange, hstart, hsize, hstop⟩ :=
    exists_trimmedRange? htree.segments (literal?_of_mem_untranslated hmem) htrimmed
  unfold wrap? at hedit
  split at hedit
  · cases hedit
  · rw [hrange, Option.map_some] at hedit
    cases hedit
    exact ⟨node, hnode, hkind, hstart, hsize, hstop,
      slice?_trimmedRange? htrimmed hrange⟩

/-- The replacements of different literals are clear of each other. -/
theorem wraps_clear (htree : tree.Faithful) (options : RuleOptions) :
    ((tree.untranslated options).filterMap (tree.wrap? options)).Pairwise
      fun edit other => edit.range.overlaps other.range = false := by
  rw [List.pairwise_filterMap]
  refine (nodup_untranslated tree options).imp_of_mem ?_
  intro literal other hliteral hother hnodes edit hedit otherEdit hotherEdit
  obtain ⟨node, hnode, hkind, hstart, hsize, hstop, -⟩ :=
    htree.wrap?_eq_some hliteral hedit
  obtain ⟨otherNode, hotherNode, hotherKind, hotherStart, hotherSize,
    hotherStop, -⟩ := htree.wrap?_eq_some hother hotherEdit
  exact Range.overlaps_eq_false_of_inside hsize hotherSize hstart hstop
    hotherStart hotherStop
    (htree.not_sharesByte hnodes hnode hkind hotherNode hotherKind)

/-- All edits that the findings ask for go together. -/
theorem edits_compatible (htree : tree.Faithful) (options : RuleOptions) :
    Edit.Compatible tree.text (tree.edits options).flatten := by
  rw [flatten_edits]
  have himport : ∀ edit ∈ tree.addedImport options, ∃ offset,
      edit.range = .at' offset ∧ tree.IsGap offset := fun edit hedit =>
    htree.importEdit?_eq_some (mem_addedImport hedit)
  have hwrap : ∀ edit ∈ (tree.untranslated options).filterMap (tree.wrap? options),
      ∃ literal ∈ tree.untranslated options,
        tree.wrap? options literal = some edit := by
    intro edit hedit
    exact List.mem_filterMap.mp hedit
  constructor
  · intro edit hedit
    rcases List.mem_append.mp hedit with hedit | hedit
    · obtain ⟨offset, hrange, hoffset, -⟩ := himport edit hedit
      rw [hrange]
      exact Option.isSome_iff_exists.mp hoffset
    · obtain ⟨literal, hliteral, hwrapped⟩ := hwrap edit hedit
      obtain ⟨node, -, -, -, -, -, hslice⟩ :=
        htree.wrap?_eq_some hliteral hwrapped
      exact ⟨literal.trimmed, hslice⟩
  · rw [List.pairwise_append]
    refine ⟨?_, htree.wraps_clear options, ?_⟩
    · unfold addedImport
      cases tree.importEdit? options <;> split <;> simp
    · intro edit hedit other hother
      obtain ⟨offset, hrange, -, hgap⟩ := himport edit hedit
      obtain ⟨literal, hliteral, hwrapped⟩ := hwrap other hother
      obtain ⟨node, hnode, hkind, hstart, hsize, hstop, -⟩ :=
        htree.wrap?_eq_some hliteral hwrapped
      rw [hrange]
      apply Range.overlaps_at_eq_false hsize
      have hclear := hgap node (mem_nodes_of_node? hnode) hkind
      omega

end Faithful

/-- One of the effective names already has the finding's literal as an
argument. -/
def isExempt (tree : Tree) (options : RuleOptions) (finding : Finding) : Bool :=
  ((tree.literal? finding.node).map fun literal =>
    tree.isWrapped literal.anchor (tree.effectiveNames options)).getD false

/-- The replacement of exactly what a finding reports by the call that its
literal belongs into. -/
def callEdit (tree : Tree) (options : RuleOptions) (finding : Finding) : Edit where
  range := finding.range
  replacement := ((tree.literal? finding.node).map fun literal =>
    literal.placement.wrap (tree.effectiveName options) literal.value).getD []

/-- The findings that are not exempt ask for exactly the replacements. -/
theorem map_callEdit_zipWith_finding (literals : List Literal)
    (edits : List (List Edit)) (hlength : literals.length = edits.length)
    (hliteral : ∀ literal ∈ literals,
      tree.literal? literal.node = some literal ∧
        ∃ range, tree.trimmedRange? literal = some range) :
    ((List.zipWith tree.finding literals edits).filter
        (!tree.isExempt options ·)).map (tree.callEdit options) =
      literals.filterMap (tree.wrap? options) := by
  induction literals generalizing edits with
  | nil => rfl
  | cons literal literals ih =>
      cases edits with
      | nil => cases hlength
      | cons first rest =>
          obtain ⟨hself, range, hrange⟩ := hliteral literal (by simp)
          have hrest := ih rest (Nat.succ.inj hlength)
            fun other hother => hliteral other (by simp [hother])
          rw [List.zipWith_cons_cons, List.filter_cons, List.filterMap_cons,
            ← hrest]
          cases hwrapped : tree.isWrapped literal.anchor
              (tree.effectiveNames options) <;>
            simp [isExempt, callEdit, wrap?, finding, hself, hrange, hwrapped]

/-- Replacements are not insertions, and the import is. -/
theorem filter_edits_flatten (htree : tree.Faithful) (options : RuleOptions) :
    (tree.edits options).flatten.filter (!·.isInsertion) =
      (tree.untranslated options).filterMap (tree.wrap? options) := by
  have hnone : (tree.addedImport options).filter (!·.isInsertion) = [] := by
    rw [List.filter_eq_nil_iff]
    intro edit hedit
    rw [isInsertion_of_mem_addedImport hedit]
    exact Bool.false_ne_true
  have hall : ((tree.untranslated options).filterMap (tree.wrap? options)).filter
      (!·.isInsertion) =
        (tree.untranslated options).filterMap (tree.wrap? options) := by
    rw [List.filter_eq_self]
    intro edit hedit
    obtain ⟨literal, hliteral, hwrapped⟩ := List.mem_filterMap.mp hedit
    obtain ⟨node, -, -, -, hsize, -, -⟩ := htree.wrap?_eq_some hliteral hwrapped
    simp [Edit.isInsertion, Range.isEmpty]
    omega
  rw [flatten_edits, List.filter_append, hnone, hall, List.nil_append]

/-- The fixes that count as applied are those of the findings that have one. -/
theorem countP_fixes_check (tree : Tree) (options : RuleOptions) :
    (Finding.fixes (tree.check options true)).countP (!·.isEmpty) =
      (tree.check options true).countP (·.fix.isSome) := by
  have hall : ∀ fix ∈ Finding.fixes (tree.check options true),
      (!fix.isEmpty) = true := by
    intro fix hfix
    rw [fixes_check] at hfix
    obtain ⟨edits, hedits, rfl⟩ := List.mem_map.mp hfix
    exact (List.mem_filter.mp hedits).2
  rw [List.countP_eq_length.mpr hall, Finding.fixes,
    List.length_filterMap_eq_countP]

/-- All fixes of a faithful tree are accepted. -/
theorem Faithful.ofFixes_check (htree : tree.Faithful) (options : RuleOptions) :
    Acceptance.ofFixes tree.text (Finding.fixes (tree.check options true)) =
      ⟨(tree.edits options).flatten,
        (tree.check options true).countP (·.fix.isSome), 0⟩ := by
  have hcompatible : Edit.Compatible tree.text
      ((Finding.fixes (tree.check options true)).flatMap Fix.edits) := by
    rw [flatMap_edits_fixes_check]
    exact htree.edits_compatible options
  rw [Acceptance.ofFixes_of_compatible hcompatible, flatMap_edits_fixes_check,
    countP_fixes_check]

/-- Replacements that are clear of each other are all different. -/
theorem wraps_nodup (htree : tree.Faithful) (options : RuleOptions) :
    ((tree.untranslated options).filterMap (tree.wrap? options)).Nodup := by
  refine (htree.wraps_clear options).imp_of_mem ?_
  rintro edit other hedit - hclear rfl
  obtain ⟨literal, hliteral, hwrapped⟩ := List.mem_filterMap.mp hedit
  obtain ⟨node, -, -, -, hsize, -, -⟩ := htree.wrap?_eq_some hliteral hwrapped
  rw [Range.overlaps_eq_false_iff, if_neg (by omega)] at hclear
  omega

/-- The tree of a file with a literal in every kind of place. -/
def sampleTree : Tree :=
  ((Tree.parse "sample.tsx" ("import x from 'x';\n" ++
    "f('да', <b c=\"нет\"> ой </b>, `ку $\x7bx\x7d ка`, i18n('ну'))").toList).toOption).getD
      (ofText [])

theorem sampleTree_evaluated :
    sampleTree.wrapperNames RuleOptions.cyrillic.modulePattern = [] ∧ sampleTree.Faithful ∧
      (sampleTree.check .cyrillic true).length = 6 := by
  decide +kernel

end Tree

end Untranslated
