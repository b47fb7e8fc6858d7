import Untranslated.Proofs.ImportInsertion

/-!
# Where a literal is reported

A finding reports its literal without the blanks around it, and its place is found by
searching the text of the node for what trimming leaves of it.  The search takes the
first occurrence, and this is the right one however often the same characters stand in
the file: before what trimming leaves there are only blanks, and it starts with none.
So the range that is reported, and the one that a call replaces, is the range of the
node with the blanks cut off at both ends.
-/

namespace Untranslated

/-- The range selects blanks, or nothing. -/
def Range.IsBlank (text : Text) (range : Range) : Prop :=
  ∃ blanks, text.slice? range = some blanks ∧ ∀ char ∈ blanks, isBlank char = true

/-- One range is another one without the blanks at both ends of what that selects. -/
structure Range.TrimsTo (text : Text) (outer inner : Range) : Prop where
  start_le : outer.start ≤ inner.start
  stop_le : inner.stop ≤ outer.stop
  selects : ∃ whole, text.slice? outer = some whole ∧
    text.slice? inner = some (Text.trim whole)
  before : Range.IsBlank text ⟨outer.start, inner.start⟩
  after : Range.IsBlank text ⟨inner.stop, outer.stop⟩

/-- Counting the blanks at the start of what a range selects gives the range without
the blanks. -/
theorem Range.trimsTo_of_slice? {text whole : Text} {range : Range}
    (hslice : text.slice? range = some whole) :
    range.TrimsTo text ⟨range.start + Text.byteSize (Text.leadingBlanks whole),
      range.start + Text.byteSize (Text.leadingBlanks whole) +
        Text.byteSize (Text.trim whole)⟩ := by
  obtain ⟨front, back, htext, hstart, hstop⟩ := Text.slice?_eq_some_iff.mp hslice
  have hwhole := Text.leadingBlanks_append whole
  have hsize : range.start + Text.byteSize (Text.leadingBlanks whole) +
      Text.byteSize (Text.trim whole) + Text.byteSize (Text.trailingBlanks whole) =
        range.stop := by
    have hparts := congrArg Text.byteSize hwhole
    rw [Text.byteSize_append, Text.byteSize_append] at hparts
    omega
  rw [← hwhole] at htext
  refine ⟨Nat.le_add_right _ _, hsize ▸ Nat.le_add_right _ _, ⟨whole, hslice, ?_⟩,
    ⟨Text.leadingBlanks whole, ?_, fun char => Text.isBlank_of_mem_leadingBlanks⟩,
    ⟨Text.trailingBlanks whole, ?_, fun char => Text.isBlank_of_mem_trailingBlanks⟩⟩
  · refine Text.slice?_eq_some_iff.mpr ⟨front ++ Text.leadingBlanks whole,
      Text.trailingBlanks whole ++ back, by simp [htext], ?_, ?_⟩
    · rw [Text.byteSize_append, hstart]
    · rw [Text.byteSize_append, hstart]
  · refine Text.slice?_eq_some_iff.mpr ⟨front,
      Text.trim whole ++ (Text.trailingBlanks whole ++ back), by simp [htext], hstart, ?_⟩
    rw [hstart]
  · refine Text.slice?_eq_some_iff.mpr
      ⟨front ++ (Text.leadingBlanks whole ++ Text.trim whole), back, by simp [htext], ?_, ?_⟩
    · rw [Text.byteSize_append, Text.byteSize_append, hstart, ← Nat.add_assoc]
    · rw [Text.byteSize_append, Text.byteSize_append, hstart, ← hsize]
      omega

namespace Tree

variable {tree : Tree} {options : RuleOptions} {withFixes : Bool} {finding : Finding}

/-- A finding reports an untranslated literal, and its edits are the import or the call
that is made of the literal. -/
theorem exists_literal_of_mem_check (hfinding : finding ∈ tree.check options withFixes) :
    ∃ literal ∈ tree.untranslated options, ∃ edits,
      finding = tree.finding literal edits ∧
        ∀ edit ∈ edits,
          edit ∈ tree.addedImport options ∨ tree.wrap? options literal = some edit := by
  cases withFixes with
  | false =>
      obtain ⟨literal, hliteral, rfl⟩ := List.mem_map.mp hfinding
      exact ⟨literal, hliteral, [], rfl, fun edit hedit => absurd hedit List.not_mem_nil⟩
  | true =>
      obtain ⟨literal, hliteral, hcases⟩ := mem_check_cases hfinding
      refine ⟨literal, hliteral, ?_⟩
      rcases hcases with ⟨rfl, -⟩ | ⟨rfl, -⟩
      · refine ⟨_, rfl, fun edit hedit => ?_⟩
        exact (List.mem_append.mp hedit).imp_right Option.mem_toList.mp
      · exact ⟨_, rfl, fun edit hedit => .inr (Option.mem_toList.mp hedit)⟩

/-- What is reported of a literal that is the text of its node is the range of the node without the
blanks at both ends. -/
theorem finding_trimmed {literal : Literal} {node : Node}
    (hliteral : literal ∈ tree.untranslated options)
    (hnode : tree.node? literal.node = some node) (htext : tree.textOf node = literal.raw)
    (edits : List Edit) :
    tree.text.slice? (tree.finding literal edits).range =
        some (Text.trim (tree.textOf node)) ∧
      node.range.TrimsTo tree.text (tree.finding literal edits).range := by
  have htrimmed := trimmed_ne_nil_of_mem_untranslated hliteral
  have hrange := trimmedRange?_of_textOf hnode htext htrimmed
  have hslice : tree.text.slice? node.range = some literal.raw := by
    cases hsome : tree.text.slice? node.range with
    | some whole => rw [← htext, textOf, hsome, Option.getD_some]
    | none =>
        rw [textOf, hsome, Option.getD_none] at htext
        rw [Literal.trimmed, ← htext] at htrimmed
        exact absurd rfl htrimmed
  have htrims := Range.trimsTo_of_slice? hslice
  have hreported : (tree.finding literal edits).range =
      ⟨node.range.start + Text.byteSize (Text.leadingBlanks literal.raw),
        node.range.start + Text.byteSize (Text.leadingBlanks literal.raw) +
          Text.byteSize (Text.trim literal.raw)⟩ := by
    rw [finding, hrange]
    rfl
  rw [← hreported] at htrims
  refine ⟨?_, htrims⟩
  obtain ⟨whole, hwhole, hinner⟩ := htrims.selects
  rw [hinner, htext, ← Option.some.inj (hslice.symm.trans hwhole)]

/-- A finding on a node that has the text of its literal, which only a template segment
may fail to have, reports the range of the node without the blanks at both ends, and its
fix changes nothing else than this range, the import apart. -/
theorem check_range_trimmed (hfinding : finding ∈ tree.check options withFixes) :
    ∃ node, tree.node? finding.node = some node ∧ node.kind.isLiteral = true ∧
      (tree.segmentAgrees node = true →
        tree.text.slice? finding.range = some (Text.trim (tree.textOf node)) ∧
          node.range.TrimsTo tree.text finding.range ∧
          ∀ edit ∈ finding.edits,
            tree.AddsImport options edit ∨ edit.range = finding.range) := by
  obtain ⟨literal, hliteral, edits, rfl, hedits⟩ := exists_literal_of_mem_check hfinding
  obtain ⟨-, node, hnode, hkind, hraw⟩ :=
    literal?_eq_some (literal?_of_mem_untranslated hliteral)
  refine ⟨node, hnode, hkind, fun hagrees => ?_⟩
  obtain ⟨hselects, htrims⟩ :=
    finding_trimmed hliteral hnode (textOf_eq_raw hraw hagrees) edits
  refine ⟨hselects, htrims, ?_⟩
  intro edit hedit
  rw [edits_finding] at hedit
  rcases hedits edit hedit with hadded | hwrap
  · exact .inl (importEdit?_eq_some_iff.mp (mem_addedImport hadded))
  · right
    rw [wrap?_eq_some_finding hwrap edits]

/-- A file in which the same word stands in every kind of literal, and twice in one. -/
def repeatedTree : Tree :=
  ((parse "a.tsx" "f('да', <b>\n да да\n</b>, ` да`)".toList).toOption).getD (ofText [])

/-- What is found in the markup of this file. -/
def repeatedFinding : Finding :=
  ⟨7, ⟨15, 24⟩, "да да".toList, some ⟨[⟨⟨15, 24⟩, "\x7bi18n('да да')\x7d".toList⟩]⟩⟩

theorem repeatedTree_evaluated :
    repeatedFinding ∈ repeatedTree.check .cyrillic true ∧
      repeatedTree.node? repeatedFinding.node =
        some ⟨.markupText "\n да да\n".toList, some 6, ⟨13, 25⟩⟩ := by
  decide +kernel

theorem check_range_trimmed_repeatedTree :
    repeatedFinding ∈ repeatedTree.check .cyrillic true ∧
      ∃ node, repeatedTree.node? repeatedFinding.node = some node ∧
        node.range = ⟨13, 25⟩ ∧ repeatedTree.segmentAgrees node = true ∧
        repeatedTree.text.slice? repeatedFinding.range =
          some (Text.trim (repeatedTree.textOf node)) ∧
        node.range.TrimsTo repeatedTree.text repeatedFinding.range ∧
        ∀ edit ∈ repeatedFinding.edits,
          repeatedTree.AddsImport .cyrillic edit ∨ edit.range = repeatedFinding.range := by
  obtain ⟨hfinding, hevaluated⟩ := repeatedTree_evaluated
  obtain ⟨node, hnode, -, htrimmed⟩ := check_range_trimmed hfinding
  obtain rfl := Option.some.inj (hnode.symm.trans hevaluated)
  exact ⟨hfinding, _, hnode, rfl, rfl, htrimmed rfl⟩

end Tree

end Untranslated
