import Untranslated.Proofs.Criterion
import Untranslated.Proofs.Places.Nodes

/-!
# The order of results

Results are listed in the order of the nodes, and the nodes of literals are in the order of the text
but for those that are postponed: a construct may list a part after parts that follow it, as a `do`
statement lists its body after its condition and a class its superclass after its members.  So of
two results that are listed against the order of the text, the later one is postponed.  Apart from
types it takes the word `do` or `extends` for that, so without types and these words all results are
in order.  No two results share a byte, postponed or not, since no literal text gets into a tree
twice.
-/

namespace Untranslated

open Syntax

namespace Syntax

namespace Ledger

variable {ledger : Ledger} {passages : List Passage} {read : List Reading}

/-- Two passages that are listed one after the other were read so, if they keep their order. -/
theorem Follows.sublist_pair (hfollows : ledger.Follows passages read) {first second : Passage}
    (hpair : [first, second].Sublist passages)
    (hchosen : ledger.InOrder (fun passage => passage == first || passage == second) read) :
    [first, second].Sublist (ledger.passages read) := by
  have hself : [first, second].filter (fun passage => passage == first || passage == second) =
      [first, second] := by
    simp
  have hfilter := hpair.filter fun passage => passage == first || passage == second
  rw [hself] at hfilter
  exact hfilter.trans ((hfollows _ hchosen).trans List.filter_sublist)

/-- Passages that follow texts which stand apart are in the order of the text, unless the later one
is postponed. -/
theorem Follows.pairwise (hfollows : ledger.Follows passages read)
    (hapart : read.Pairwise fun earlier later => earlier.range.stop ≤ later.range.start) :
    passages.Pairwise fun earlier later => earlier.range.stop ≤ later.range.start ∨
      later.range.stop ≤ earlier.range.start ∧
        ∃ reading ∈ read, reading.postponed = true ∧ reading.range = later.range := by
  refine List.pairwise_iff_forall_sublist.mpr fun {earlier later} hpair => ?_
  by_cases hle : earlier.range.stop ≤ later.range.start
  · exact .inl hle
  have hpassages : (ledger.passages read).Pairwise
      fun earlier later => earlier.range.stop ≤ later.range.start :=
    List.pairwise_map.mpr (hapart.filter _)
  -- They were not read in this order, so they do not keep their order among what was read.
  have hmoved : ¬ledger.InOrder (fun passage => passage == earlier || passage == later) read :=
    fun hchosen => hle (List.pairwise_iff_forall_sublist.mp hpassages
      (hfollows.sublist_pair hpair hchosen))
  refine .inr ⟨?_, ?_⟩
  · have hmem (passage : Passage) (hpassage : passage ∈ [earlier, later]) :=
      mem_passages.mp (hfollows.mem (hpair.subset hpassage))
    obtain ⟨first, hfirst, -, rfl⟩ := hmem earlier List.mem_cons_self
    obtain ⟨second, hsecond, -, rfl⟩ := hmem later (List.mem_cons_of_mem _ List.mem_cons_self)
    have hne : first ≠ second := by
      rintro rfl
      refine hmoved (List.pairwise_of_forall fun one other _ hone hother => ?_)
      simp only [Bool.or_self, beq_iff_eq] at hone hother
      rw [hother, hone]
    have hsymm : Std.Symm fun first second : Reading =>
        first.range.stop ≤ second.range.start ∨ second.range.stop ≤ first.range.start :=
      ⟨fun _ _ => Or.symm⟩
    have heither : read.Pairwise fun first second =>
        first.range.stop ≤ second.range.start ∨ second.range.stop ≤ first.range.start :=
      hapart.imp Or.inl
    exact (heither.forall hfirst hsecond hne).resolve_left hle
  · by_contra hnone
    refine hmoved (hapart.imp_of_mem fun {one other} hone _ hstop hpostponed hchosen hother => ?_)
    simp only [Bool.or_eq_true, beq_iff_eq] at hchosen hother
    rcases hchosen with hearlier | hlater
    · rcases hother with hsame | hlater
      · rw [hsame, hearlier]
      · subst hearlier hlater
        exact absurd hstop hle
    · exact absurd ⟨one, hone, hpostponed, congrArg Passage.range hlater⟩ hnone

end Ledger

/-- The range lies in a text that is postponed, for a reason that can arise in the whole text. -/
def IsPostponed (dialect : Dialect) (text : Text) (range : Range) : Prop :=
  ∃ reading ∈ readings dialect text, (∃ delay ∈ reading.delay, delay.ArisesIn dialect text) ∧
    reading.range.start ≤ range.start ∧ range.stop ≤ reading.range.stop

section Readings

variable {dialect : Dialect} {text : Text} {program : Module}

theorem withoutMark_suffix (text : Text) : withoutMark text <:+ text := by
  unfold withoutMark
  split
  · exact List.drop_suffix 1 text
  · exact List.suffix_rfl

/-- What was read stands in the text, and what is postponed of it is so for a reason. -/
theorem found_of_mem_readings (hparse : parse dialect text = .ok program) {reading : Reading}
    (hreading : reading ∈ readings dialect text) :
    reading.StandsFrom ⟨withoutMark text, 0⟩ ∧
      ∀ delay ∈ reading.delay, delay.ArisesIn dialect (withoutMark text) := by
  obtain ⟨state, hread⟩ := exists_readModule hparse
  obtain ⟨new, hnew, hfound⟩ := (Parser.ahead _ hread).reads
  have hmem : reading ∈ new := by
    rwa [readings_eq hread, hnew, State.list_scanFrom, Readings.empty, List.append_nil]
      at hreading
  have hstart := (leads_skipInterpreterLine (withoutMark text)).trans
    (State.leads_scanFrom ((withoutMark text).length + 1) _ 0 (.empty _))
  exact ⟨(hfound reading hmem).1.of_leads hstart, fun delay hdelay =>
    ((hfound reading hmem).2 delay hdelay).mono hstart.rest_suffix.isInfix⟩

/-- What is postponed is so for a reason that can arise in the text. -/
theorem arisesIn_of_mem_readings (hparse : parse dialect text = .ok program) {reading : Reading}
    (hreading : reading ∈ readings dialect text) {delay : Delay} (hdelay : delay ∈ reading.delay) :
    delay.ArisesIn dialect text :=
  ((found_of_mem_readings hparse hreading).2 delay hdelay).mono
    (withoutMark_suffix text).isInfix

theorem pairwise_readings (hparse : parse dialect text = .ok program) :
    (readings dialect text).reverse.Pairwise
      fun earlier later => earlier.range.stop ≤ later.range.start := by
  obtain ⟨state, hread⟩ := exists_readModule hparse
  rw [readings_eq hread]
  exact List.pairwise_reverse.mpr state.readings.apart

end Readings

end Syntax

namespace Tree

variable {dialect : Dialect} {text : Text} {program : Module} {tree : Tree}

/-- Of two nodes with literal text the first stands before the second, unless the second is
postponed. -/
theorem literal_nodes_inOrder (hparse : Syntax.parse dialect text = .ok program) {id other : Nat}
    {node later : Node} (hlt : id < other)
    (hnode : (ofModule text program).node? id = some node) (hkind : node.kind.isLiteral = true)
    (hlater : (ofModule text program).node? other = some later)
    (hlaterKind : later.kind.isLiteral = true) :
    node.range.stop ≤ later.range.start ∨ later.range.stop ≤ node.range.start ∧
      IsPostponed dialect text later.range := by
  have hpassages := (follows_of_parse hparse).pairwise (pairwise_readings hparse)
  rw [← passages_ofModule, passages, List.pairwise_flatMap] at hpassages
  have hpairs := List.pairwise_iff_getElem.mp hpassages.2
  rw [node?, ← Array.getElem?_toList, List.getElem?_eq_some_iff] at hnode hlater
  obtain ⟨hid, rfl⟩ := hnode
  obtain ⟨hother, rfl⟩ := hlater
  obtain ⟨form, hform⟩ := exists_form?_of_isLiteral hkind
  obtain ⟨raw, hpassage⟩ := NodeKind.exists_mem_passages hform _
  obtain ⟨laterForm, hlaterForm⟩ := exists_form?_of_isLiteral hlaterKind
  obtain ⟨laterRaw, hlaterPassage⟩ := NodeKind.exists_mem_passages hlaterForm _
  rcases hpairs id other hid hother hlt _ hpassage _ hlaterPassage with
    hle | ⟨hle, reading, hreading, hpostponed, hrange⟩
  · exact .inl hle
  · rw [List.mem_reverse] at hreading
    obtain ⟨delay, hdelay⟩ := Option.isSome_iff_exists.mp hpostponed
    refine .inr ⟨hle, reading, hreading,
      ⟨delay, hdelay, arisesIn_of_mem_readings hparse hreading hdelay⟩, ?_⟩
    rw [hrange]
    exact ⟨Nat.le_refl _, Nat.le_refl _⟩

/-- The range that is reported for a literal lies in its node. -/
theorem range_finding_in_node {options : RuleOptions} {literal : Literal}
    (hsegments : ∀ node ∈ tree.nodes.toList, tree.segmentAgrees node = true)
    (hliteral : literal ∈ tree.untranslated options) (edits : List Edit) :
    let range := (tree.finding literal edits).range
    ∃ node, tree.node? literal.node = some node ∧ node.kind.isLiteral = true ∧
      node.range.start ≤ range.start ∧ range.start < range.stop ∧
      range.stop ≤ node.range.stop := by
  obtain ⟨node, range, hnode, hkind, hrange, hinside⟩ := exists_trimmedRange? hsegments
    (literal?_of_mem_untranslated hliteral) (trimmed_ne_nil_of_mem_untranslated hliteral)
  refine ⟨node, hnode, hkind, ?_⟩
  rw [finding, hrange]
  exact hinside

/-- Results share no byte, and they are in the order of the text, unless the later one is
postponed; so where nothing is postponed they are all in that order.  Without types that is so in
every text that has neither `do` nor `extends` in it. -/
theorem check_in_document_order (dialect : Dialect) (text : Text) (program : Module)
    (hparse : Syntax.parse dialect text = .ok program) (hmark : withoutMark text = text)
    (options : RuleOptions) (withFixes : Bool) :
    let findings := (ofModule text program).check options withFixes
    (findings.Pairwise fun earlier later => ¬earlier.range.SharesByte later.range ∧
      (earlier.range.start < later.range.start ∨
        later.range.start < earlier.range.start ∧ IsPostponed dialect text later.range)) ∧
    ((∀ reading ∈ readings dialect text, reading.delay = none) →
      findings.Pairwise fun earlier later => earlier.range.start < later.range.start) ∧
    (dialect.typescript = false → ¬"do".toList <:+: text → ¬"extends".toList <:+: text →
      findings.Pairwise fun earlier later => earlier.range.start < later.range.start) := by
  intro findings
  have hsegments := segmentAgrees_ofModule hparse hmark
  have hranges : (findings.map Finding.range).Pairwise fun earlier later =>
      ¬earlier.SharesByte later ∧ (earlier.start < later.start ∨
        later.start < earlier.start ∧ IsPostponed dialect text later) := by
    rw [map_check _ options withFixes Finding.range fun _ _ => rfl, List.pairwise_map]
    apply (pairwise_untranslated _ options).imp_of_mem
    intro literal other hliteral hother hlt
    obtain ⟨node, hnode, hkind, hstart, hlength, hstop⟩ :=
      range_finding_in_node hsegments hliteral []
    obtain ⟨later, hlater, hlaterKind, hlaterStart, hlaterLength, hlaterStop⟩ :=
      range_finding_in_node hsegments hother []
    rw [Range.SharesByte]
    rcases literal_nodes_inOrder hparse hlt hnode hkind hlater hlaterKind with
      hle | ⟨hle, reading, hreading, hpostponed, hinside⟩
    · exact ⟨by omega, .inl (by omega)⟩
    · exact ⟨by omega, .inr ⟨by omega, reading, hreading, hpostponed, by omega⟩⟩
  have hfindings := List.pairwise_map.mp hranges
  have hinOrder (hnone : ∀ range, ¬IsPostponed dialect text range) :
      findings.Pairwise fun earlier later => earlier.range.start < later.range.start :=
    hfindings.imp fun hpair => hpair.2.resolve_right fun hlater => hnone _ hlater.2
  refine ⟨hfindings, fun hnone => hinOrder ?_, fun htypes hdo hextends => hinOrder ?_⟩
  · rintro range ⟨reading, hreading, ⟨delay, hdelay, -⟩, -⟩
    rw [hnone reading hreading] at hdelay
    cases hdelay
  · rintro range ⟨reading, -, ⟨delay, -, harises⟩, -⟩
    cases delay with
    | body => exact hdo harises
    | superclass => exact hextends harises
    | types => exact Bool.false_ne_true (htypes.symm.trans harises)

/-- A file whose constructs all list their parts in turn. -/
def inTurn : Text := "f('да', `нет $\x7bg('ой')\x7d ку`, <b c=\"да\">нет</b>)".toList

theorem check_in_document_order_inTurn :
    let findings := (ofModule inTurn (readOf "a.js" inTurn)).check .cyrillic true
    findings.length = 6 ∧
      findings.Pairwise fun earlier later => earlier.range.start < later.range.start := by
  intro findings
  obtain ⟨hparsed, hlength⟩ :
      (Syntax.parse (Dialect.ofPath "a.js") inTurn).toOption.isSome = true ∧
        findings.length = 6 := by
    decide +kernel
  have horder := check_in_document_order (Dialect.ofPath "a.js") inTurn (readOf "a.js" inTurn)
    (parse_eq_readOf hparsed) (by decide) .cyrillic true
  exact ⟨hlength, horder.2.2 (by decide) (by decide +kernel) (by decide +kernel)⟩

/-- The condition of a `do` statement is listed before its body, the members of a class before its
superclass, and the body of a function before the type of its result. -/
theorem listed_out_of_turn :
    let starts (path : String) (text : Text) :=
      ((ofModule text (readOf path text)).check .cyrillic false).map (·.range.start)
    let postponed (path : String) (text : Text) :=
      ((readings (Dialect.ofPath path) text).filter (·.postponed)).map fun reading =>
        (reading.delay, reading.range.start)
    let repeated : Text := "do f('да'); while (g('нет'))".toList
    let derived : Text := "class A extends f('да') \x7b x = 'нет' \x7d".toList
    let typed : Text := "function f(a = 'да'): \x7b 'нет': 1 \x7d \x7b g('ой') \x7d".toList
    (withoutMark repeated = repeated ∧ starts "a.js" repeated = [23, 5] ∧
        postponed "a.js" repeated = [(some .body, 5)]) ∧
      (withoutMark derived = derived ∧ starts "a.js" derived = [32, 18] ∧
        postponed "a.js" derived = [(some .superclass, 18)]) ∧
      withoutMark typed = typed ∧ starts "a.ts" typed = [15, 44, 26] ∧
        postponed "a.ts" typed = [(some .types, 26)] := by
  decide +kernel

end Tree

end Untranslated
