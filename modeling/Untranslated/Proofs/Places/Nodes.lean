import Mathlib.Data.List.Pairwise
import Untranslated.Proofs.Detection
import Untranslated.Proofs.Lossless
import Untranslated.Proofs.Places.Productions

/-!
# Which strings have nodes

The strings of a tree are the values among the strings of its text, and, where there are types,
three kinds of string that are read like values although they are none: names of members of
types, attributes of exports, and attributes of imported types.  Module names, names of properties
and of exports, literal types and attributes of imports have no node.  Since no two literal texts
share a byte, no fix reaches into these, unless a byte-order mark puts the ranges out of step.
-/

namespace Untranslated

open Syntax

namespace NodeKind

/-- The form of text that a node holds, if it holds any. -/
def form? : NodeKind → Option TextForm
  | string _ => some .string
  | segment _ => some .segment
  | markupText _ => some .markupText
  | _ => none

theorem exists_mem_passages {kind : NodeKind} {form : TextForm} (hform : form ∈ kind.form?)
    (range : Range) : ∃ raw, ⟨form, range, raw⟩ ∈ kind.passages range := by
  cases kind <;> cases hform <;> exact ⟨_, List.mem_singleton_self _⟩

end NodeKind

namespace Syntax

/-- If a node of this kind holds text, its range is that of a text that was read and may have a
node; a segment says what stands there. -/
structure Fits (dialect : Dialect) (text : Text) (kind : NodeKind) (range : Range) : Prop where
  holds : ∀ form ∈ kind.form?, ∃ reading ∈ readings dialect text,
    reading.use.hasNode dialect = true ∧ reading.use.form = form ∧ reading.range = range
  spells : ∀ raw, kind = .segment raw → Text.slice? (withoutMark text) range = some raw

/-- Counts the texts that may have a node, where positions are counted without a byte-order
mark. -/
def nodeLedger (dialect : Dialect) (text : Text) : Ledger where
  text
  source := withoutMark text
  counts use := use.hasNode dialect

variable {dialect : Dialect} {text : Text} {program : Module}

theorem exists_readModule (hparse : parse dialect text = .ok program) :
    ∃ state, readModule dialect text = .ok (program.items, state) := by
  unfold parse at hparse
  split at hparse
  · next items state hread =>
      cases hparse
      exact ⟨state, hread⟩
  · cases hparse

theorem readings_eq {items : List Part} {state : State}
    (hread : readModule dialect text = .ok (items, state)) :
    readings dialect text = state.readings.list := by
  rw [readings, hread]

theorem leads_skipInterpreterLine (text : Text) :
    Cursor.Leads ⟨text, 0⟩ (skipInterpreterLine text) := by
  unfold skipInterpreterLine
  split
  · exact Cursor.leads_skipWhile _ _
  · exact .refl _

/-- The literal texts of a module follow the texts that were read. -/
theorem follows_of_parse (hparse : parse dialect text = .ok program) :
    (nodeLedger dialect text).Follows (program.outline text).passages
      (readings dialect text).reverse := by
  obtain ⟨state, hread⟩ := exists_readModule hparse
  have hitems (depth : Nat) : Parser.Accounts dialect (nodeLedger dialect text) []
      (moduleItems (grammar depth)) := inferInstance
  have hexpression : StringNode dialect .expression := inferInstance
  have hreads (limit : Nat) (cursor : Cursor) :
      (State.scanFrom limit cursor 0 (.empty _)).Reads (readings dialect text).reverse state := by
    rw [State.Reads, List.reverse_reverse, State.list_scanFrom, readings_eq hread]
    exact (List.append_nil _).symm
  have hlisted := (hitems _).listed ⟨rfl, hexpression, fun _ => id⟩
    ((leads_skipInterpreterLine _).trans (State.leads_scanFrom ..)) hread (hreads _ _)
  rw [Module.outline, Part.passages_outlines]
  exact hlisted.all

theorem form_eq_string_of_hasNode {use : TextUse} (huse : use.hasNode dialect = false) :
    use.form = .string := by
  cases use <;> simp_all [TextUse.hasNode, TextUse.isValue, TextUse.form]

/-- No two texts that were read share a byte. -/
theorem not_sharesByte_readings (hparse : parse dialect text = .ok program)
    {reading other : Reading} (hreading : reading ∈ readings dialect text)
    (hother : other ∈ readings dialect text) (hne : reading ≠ other) :
    ¬reading.range.SharesByte other.range := by
  obtain ⟨state, hread⟩ := exists_readModule hparse
  rw [readings_eq hread] at hreading hother
  have hsymm : Std.Symm fun reading other : Reading => ¬reading.range.SharesByte other.range :=
    ⟨fun _ _ => mt Range.sharesByte_comm.mpr⟩
  have hclear : state.readings.list.Pairwise fun reading other =>
      ¬reading.range.SharesByte other.range :=
    state.readings.apart.imp fun hstop => by
      rw [Range.SharesByte]
      omega
  exact hclear.forall hreading hother hne

end Syntax

namespace Tree

variable {dialect : Dialect} {text : Text} {program : Module} {tree : Tree}
  {options : RuleOptions} {literal : Literal}

theorem exists_form?_of_isLiteral {kind : NodeKind} (hkind : kind.isLiteral = true) :
    ∃ form, kind.form? = some form := by
  cases kind <;> simp_all [NodeKind.form?, NodeKind.isLiteral]

/-- The literal texts of the nodes, in the order of the nodes. -/
def passages (tree : Tree) : List Passage :=
  tree.nodes.toList.flatMap fun node => node.kind.passages node.range

theorem passages_ofModule (text : Text) (program : Module) :
    (ofModule text program).passages = (program.outline text).passages := by
  rw [passages, ofModule_eq_grow]
  simp only [grow, ofText, Array.toList_append, List.flatMap_append, Outline.passages_nodes]
  rfl

/-- Every node with text has the range of a text that was read. -/
theorem fits_ofModule (hparse : Syntax.parse dialect text = .ok program) :
    ∀ node ∈ (ofModule text program).nodes.toList,
      Syntax.Fits dialect text node.kind node.range := by
  intro node hnode
  have hread : ∀ passage ∈ node.kind.passages node.range,
      ∃ reading ∈ readings dialect text, reading.use.hasNode dialect = true ∧
        reading.passage (withoutMark text) = passage := by
    intro passage hpassage
    have hmem : passage ∈ (program.outline text).passages := by
      rw [← passages_ofModule]
      exact List.mem_flatMap.mpr ⟨node, hnode, hpassage⟩
    obtain ⟨reading, hreading, huse, hpassage⟩ :=
      Ledger.mem_passages.mp ((follows_of_parse hparse).mem hmem)
    exact ⟨reading, List.mem_reverse.mp hreading, huse, hpassage⟩
  refine ⟨fun form hform => ?_, fun raw hkind => ?_⟩
  · obtain ⟨raw, hpassage⟩ := NodeKind.exists_mem_passages hform node.range
    obtain ⟨reading, hreading, huse, heq⟩ := hread _ hpassage
    exact ⟨reading, hreading, huse, congrArg Passage.form heq, congrArg Passage.range heq⟩
  · have hpassage : ⟨.segment, node.range, some raw⟩ ∈ node.kind.passages node.range := by
      rw [hkind]
      exact List.mem_singleton_self _
    obtain ⟨reading, -, -, heq⟩ := hread _ hpassage
    have hform : reading.use.form = .segment := congrArg Passage.form heq
    have hrange : reading.range = node.range := congrArg Passage.range heq
    have hraw := congrArg Passage.raw heq
    rwa [Reading.passage, if_pos hform, hrange] at hraw

/-- Unless there is a byte-order mark, template segments say what stands in their ranges. -/
theorem segmentAgrees_ofModule (hparse : Syntax.parse dialect text = .ok program)
    (hmark : withoutMark text = text) :
    ∀ node ∈ (ofModule text program).nodes.toList,
      (ofModule text program).segmentAgrees node = true := by
  intro node hnode
  have hspells := (fits_ofModule hparse node hnode).spells
  have htext : (ofModule text program).text = text := text_ofModule text program
  unfold segmentAgrees
  split
  · next raw hkind =>
      have hslice : Text.slice? (withoutMark text) node.range = some raw := hspells raw hkind
      rw [textOf, htext, ← hmark, hslice]
      exact beq_self_eq_true raw
  · rfl

/-- An edit either only inserts or keeps to the node of a literal. -/
theorem edit_cases (hsegments : ∀ node ∈ tree.nodes.toList, tree.segmentAgrees node = true)
    {fix : Fix} (hfix : fix ∈ Finding.fixes (tree.check options true)) {edit : Edit}
    (hedit : edit ∈ fix.edits) :
    edit.isInsertion = true ∨ ∃ node ∈ tree.nodes.toList, node.kind.isLiteral = true ∧
      node.range.start ≤ edit.range.start ∧ edit.range.stop ≤ node.range.stop := by
  have hmem : edit ∈ (tree.edits options).flatten := by
    rw [← flatMap_edits_fixes_check]
    exact List.mem_flatMap.mpr ⟨fix, hfix, hedit⟩
  rw [flatten_edits] at hmem
  rcases List.mem_append.mp hmem with himport | hwrap
  · exact .inl (isInsertion_of_mem_addedImport himport)
  · obtain ⟨literal, hliteral, hwrap⟩ := List.mem_filterMap.mp hwrap
    have htrimmed := trimmed_ne_nil_of_mem_untranslated hliteral
    have hself := literal?_of_mem_untranslated hliteral
    unfold wrap? at hwrap
    split at hwrap
    · cases hwrap
    · obtain ⟨range, hrange, rfl⟩ := Option.map_eq_some_iff.mp hwrap
      obtain ⟨node, found, hnode, hkind, hfound, hstart, -, hstop⟩ :=
        exists_trimmedRange? hsegments hself htrimmed
      cases hfound.symm.trans hrange
      exact .inr ⟨node, mem_nodes_of_node? hnode, hkind, hstart, hstop⟩

/-- The strings of a tree are values, or, where there are types, one of the three kinds of string
that pass for one: names of members of types and attributes of exports and of imported types.  A
string that is read as anything else shares no byte with the text of a node, nor, unless the text
starts with a byte-order mark, with what a fix replaces. -/
theorem strings_ofModule (dialect : Dialect) (text : Text) (program : Module)
    (hparse : Syntax.parse dialect text = .ok program) :
    let tree := ofModule text program
    (∀ node ∈ tree.nodes.toList, ∀ value, node.kind = .string value →
      ∃ reading ∈ readings dialect text, reading.range = node.range ∧
        reading.use.form = .string ∧ (reading.use.isValue = true ∨
          dialect.typescript = true ∧ reading.use.passesForValue = true)) ∧
    ∀ reading ∈ readings dialect text, reading.use.hasNode dialect = false →
      (∀ node ∈ tree.nodes.toList, node.kind.isLiteral = true →
        node.range ≠ reading.range ∧ ¬node.range.SharesByte reading.range) ∧
      (withoutMark text = text → ∀ options,
        ∀ fix ∈ Finding.fixes (tree.check options true), ∀ edit ∈ fix.edits,
          ¬edit.range.SharesByte reading.range) := by
  intro tree
  have hfits := fits_ofModule hparse
  refine ⟨fun node hnode value hkind => ?_, fun reading hreading huse => ?_⟩
  · obtain ⟨reading, hreading, huse, hform, hrange⟩ :=
      (hfits node hnode).holds .string (by rw [hkind]; rfl)
    refine ⟨reading, hreading, hrange, hform, ?_⟩
    simpa [TextUse.hasNode] using huse
  · have hnodes : ∀ node ∈ tree.nodes.toList, node.kind.isLiteral = true →
        ¬node.range.SharesByte reading.range := by
      intro node hnode hkind
      obtain ⟨form, hform⟩ := exists_form?_of_isLiteral hkind
      obtain ⟨other, hother, hotherUse, -, hrange⟩ := (hfits node hnode).holds form hform
      rw [← hrange]
      refine not_sharesByte_readings hparse hother hreading fun heq => ?_
      rw [heq, huse] at hotherUse
      cases hotherUse
    refine ⟨fun node hnode hkind => ⟨fun heq => ?_, hnodes node hnode hkind⟩, ?_⟩
    · have hlt := reading.start_lt_stop (form_eq_string_of_hasNode huse)
      have hshares := hnodes node hnode hkind
      rw [heq, Range.SharesByte] at hshares
      omega
    · intro hmark options fix hfix edit hedit hshares
      have hsegments := segmentAgrees_ofModule hparse hmark
      rw [Range.SharesByte] at hshares
      rcases edit_cases hsegments hfix hedit with
        hinsertion | ⟨node, hnode, hkind, hstart, hstop⟩
      · have hempty : edit.range.start = edit.range.stop := by
          simpa [Edit.isInsertion, Range.isEmpty] using hinsertion
        omega
      · have hclear := hnodes node hnode hkind
        rw [Range.SharesByte] at hclear
        omega

/-- A file with text of many uses. -/
def manyUses : Text :=
  "import './да';\nf(\x7b 'ключ': `да` \x7d, 'нет' as 'нет', <p a=\"да\">нет</p>)".toList

theorem strings_ofModule_manyUses :
    let dialect := Dialect.ofPath "a.tsx"
    let tree := ofModule manyUses (readOf "a.tsx" manyUses)
    (readings dialect manyUses).map (·.use) =
        [.markupText, .attributeValue, .literalType, .expression, .segment, .propertyName,
          .moduleName] ∧
      (tree.check .cyrillic true).length = 4 ∧
      ∀ reading ∈ readings dialect manyUses, reading.use.isValue = false →
        ∀ fix ∈ Finding.fixes (tree.check .cyrillic true), ∀ edit ∈ fix.edits,
          ¬edit.range.SharesByte reading.range := by
  intro dialect tree
  obtain ⟨hparsed, huses, hlength⟩ : (Syntax.parse dialect manyUses).toOption.isSome = true ∧
      (readings dialect manyUses).map (·.use) =
        [.markupText, .attributeValue, .literalType, .expression, .segment, .propertyName,
          .moduleName] ∧
      (tree.check .cyrillic true).length = 4 := by
    decide +kernel
  have hunseen : ∀ use ∈ (readings dialect manyUses).map (·.use), use.isValue = false →
      use.hasNode dialect = false := by
    rw [huses]
    decide
  refine ⟨huses, hlength, fun reading hreading huse => ?_⟩
  have hstrings := strings_ofModule dialect manyUses (readOf "a.tsx" manyUses)
    (parse_eq_readOf hparsed)
  exact (hstrings.2 reading hreading (hunseen _ (List.mem_map_of_mem hreading) huse)).2
    (by decide) .cyrillic

/-- An attribute of an export, the name of a member of a type and an attribute of an imported type
are no values, and yet fixes replace them.  With a byte-order mark, when ranges are three bytes
short, so may be the name of a property: a segment that is not found in its own range is looked for
in the whole template. -/
theorem nonValues_rewritten :
    let read (text : Text) :=
      (readings (Dialect.ofPath "a.ts") text).map fun reading => (reading.use, reading.range)
    let edited (text : Text) := ((Finding.fixes ((ofModule text (readOf "a.ts" text)).check
      .cyrillic true)).flatMap Fix.edits).map (·.range)
    let exported : Text := "export * from './x' with \x7b type: 'да' \x7d".toList
    let member : Text := "interface A \x7b 'ключ': 1 \x7d".toList
    let imported : Text := "type A = import('./x', \x7b with: \x7b type: 'да' \x7d \x7d).B".toList
    let marked : Text :=
      "\uFEFFshow(`$\x7b\x7b 'да': 1 \x7d.x\x7d да$\x7by\x7dabc`)".toList
    ((.exportAttribute, ⟨33, 39⟩) ∈ read exported ∧ edited exported = [⟨0, 0⟩, ⟨33, 39⟩]) ∧
      ((.memberName, ⟨14, 24⟩) ∈ read member ∧ edited member = [⟨0, 0⟩, ⟨14, 24⟩]) ∧
      ((.typeAttribute, ⟨39, 45⟩) ∈ read imported ∧ edited imported = [⟨0, 0⟩, ⟨39, 45⟩]) ∧
      (.propertyName, ⟨10, 16⟩) ∈ read marked ∧ edited marked = [⟨0, 0⟩, ⟨14, 18⟩] ∧
      marked.slice? ⟨10 + 3, 16 + 3⟩ = some "'да'".toList := by
  decide +kernel

end Tree

end Untranslated
