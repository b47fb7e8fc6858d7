import Untranslated.Proofs.DocumentOrder
import Untranslated.Proofs.Following
import Untranslated.Proofs.Growth

/-!
# The trees of files are faithful

Unless a text starts with a byte-order mark, its literals stand where its tree says they stand.
The reader sees to that: it finds what it reads further on in the text than all that it has read
before, and the items of a module begin and end where no literal text is cut.  So every
finding in such a text that still needs a call gets exactly the replacement that its report
shows.
-/

namespace Untranslated

open Syntax

namespace Syntax

/-- What was read can be cut out of the text. -/
theorem Reading.StandsFrom.exists_slice? {text : Text} {reading : Reading}
    (hreading : reading.StandsFrom ⟨text, 0⟩) :
    ∃ found, text.slice? reading.range = some found := by
  obtain ⟨opening, closing, hopening, ⟨found, hpasses⟩, hrange⟩ := hreading
  rw [hrange]
  exact ⟨found, hpasses.slice? hopening⟩

namespace State

/-- The offset is between two characters that have been passed, and cuts no text that was read. -/
structure ClearAt (text : Text) (state : State) (offset : Nat) : Prop where
  place : ∃ cursor : Cursor, Cursor.Leads ⟨text, 0⟩ cursor ∧ cursor.offset = offset
  le_start : offset ≤ state.start
  clear : ∀ reading ∈ state.readings.list,
    reading.range.stop ≤ offset ∨ offset ≤ reading.range.start

variable {text : Text} {dialect : Dialect} {state before after : State} {offset other : Nat}

/-- What is read later stands further on. -/
theorem ClearAt.ahead (hclear : before.ClearAt text offset) (hahead : before.Ahead dialect after) :
    after.ClearAt text offset where
  place := hclear.place
  le_start := Nat.le_trans hclear.le_start hahead.leads.offset_le
  clear := by
    intro reading hreading
    obtain ⟨new, hnew, hfound⟩ := hahead.reads
    rw [hnew, List.mem_append] at hreading
    cases hreading with
    | inl hreading =>
        right
        obtain ⟨opening, closing, hopening, -, hrange⟩ := (hfound reading hreading).1
        rw [hrange]
        exact Nat.le_trans hclear.le_start hopening.offset_le
    | inr hreading => exact hclear.clear reading hreading

theorem ClearAt.max (hoffset : state.ClearAt text offset) (hother : state.ClearAt text other) :
    state.ClearAt text (max offset other) := by
  cases Nat.le_total offset other with
  | inl hle => rwa [Nat.max_eq_right hle]
  | inr hle => rwa [Nat.max_eq_left hle]

theorem SettledIn.clearAt_start (hsettled : state.SettledIn text) :
    state.ClearAt text state.start where
  place := ⟨state.cursor, hsettled.leads, rfl⟩
  le_start := Nat.le_refl _
  clear reading hreading := .inl (state.readings.stop_le reading hreading)

theorem SettledIn.clearAt_lastStop (hsettled : state.SettledIn text) :
    state.ClearAt text state.lastStop := by
  obtain ⟨last, hlast, hleads, hoffset⟩ := hsettled.last
  exact ⟨⟨last, hlast, hoffset⟩, hoffset ▸ hleads.offset_le, fun reading hreading =>
    .inl (hsettled.stop_le reading hreading)⟩

/-- The part is an item that was read: an import begins and ends where nothing is cut, any other
item begins so. -/
inductive PassedItem (text : Text) (state : State) : Part → Prop where
  | plain {range : Range} {parts : List Part} (hstart : state.ClearAt text range.start) :
      PassedItem text state (.plain .item range parts)
  | imports {range : Range} {declaration : ImportDeclaration}
      (hstart : state.ClearAt text range.start) (hstop : state.ClearAt text range.stop) :
      PassedItem text state (.imports range declaration)

theorem PassedItem.ahead {part : Part} (hpart : before.PassedItem text part)
    (hahead : before.Ahead dialect after) : after.PassedItem text part := by
  cases hpart with
  | plain hstart => exact .plain (hstart.ahead hahead)
  | imports hstart hstop => exact .imports (hstart.ahead hahead) (hstop.ahead hahead)

end State

namespace Parser

/-- What the parser gives is an item that begins at the offset, where nothing is cut. -/
structure GivesItem (start : Nat) (parser : Parser Part) : Prop where
  passed : ∀ {text : Text} {context : Context} {before after : State} {part : Part},
    before.SettledIn text → before.ClearAt text start →
      parser.run context before = .ok (part, after) → after.PassedItem text part

section Items

variable {α : Type} {start : Nat}

theorem GivesItem.bind {first : Parser α} {next : α → Parser Part}
    (hnext : ∀ value, GivesItem start (next value)) : GivesItem start (first >>= next) where
  passed hsettled hstart hrun := by
    obtain ⟨value, between, hfirst, hrest⟩ := run_bind hrun
    have hahead := first.ahead hfirst
    exact (hnext value).passed (hahead.settles hsettled) (hstart.ahead hahead) hrest

theorem GivesItem.ite {condition : Prop} [Decidable condition] {yes no : Parser Part}
    (hyes : GivesItem start yes) (hno : GivesItem start no) :
    GivesItem start (if condition then yes else no) := by
  split
  · exact hyes
  · exact hno

theorem givesItem_plain (parts : List Part) :
    GivesItem start (rangeFrom start >>= fun range => pure (.plain .item range parts)) where
  passed _ hstart hrun := by
    cases hrun
    exact .plain hstart

/-- An import ends with the last token that was read. -/
theorem givesItem_imports (declaration : ImportDeclaration) :
    GivesItem start (rangeFrom start >>= fun range => pure (.imports range declaration)) where
  passed hsettled hstart hrun := by
    cases hrun
    exact .imports hstart (hstart.max hsettled.clearAt_lastStop)

end Items

variable {g : Grammar} {text : Text} {context : Context} {before after : State} {part : Part}

theorem passedItem_importItem (hsettled : before.SettledIn text)
    (hrun : (importItem g).run context before = .ok (part, after)) :
    after.PassedItem text part := by
  obtain ⟨start, between, hstart, hrest⟩ := run_bind hrun
  cases hstart
  refine GivesItem.passed (.bind fun _ => .bind fun _ => .bind fun types => .bind fun named =>
    .bind fun next => .ite ?_ ?_) hsettled hsettled.clearAt_start hrest
  · exact .bind fun _ => .bind fun _ => .bind fun _ => givesItem_plain []
  · exact .bind fun _ => .bind fun specifiers => .bind fun source => .bind fun _ =>
      .bind fun _ => givesItem_imports ⟨source, specifiers⟩

theorem passedItem_itemBody (hsettled : before.SettledIn text)
    (hrun : (itemBody g).run context before = .ok (part, after)) :
    after.PassedItem text part := by
  obtain ⟨start, between, hstart, hrest⟩ := run_bind hrun
  cases hstart
  obtain ⟨next, between, hnext, hrest⟩ := run_bind hrest
  cases hnext
  obtain ⟨atImport, between, hword, hrest⟩ := run_bind hrest
  cases hword
  dsimp only at hrest
  split at hrest
  · exact passedItem_importItem hsettled hrest
  · refine GivesItem.passed (.bind fun exported => .ite ?_ ?_) hsettled hsettled.clearAt_start
      hrest
    · exact .bind fun parts => givesItem_plain parts
    · exact .bind fun statement => givesItem_plain [statement]

/-- What every step of a loop keeps holds before the step that ends it. -/
theorem exists_of_run_repeatFrom {α β : Type} {step : α → Parser (α ⊕ β)}
    (Invariant : α → State → Prop)
    (hstep : ∀ {value next : α} {before after : State}, Invariant value before →
      (step value).run context before = .ok (.inl next, after) → Invariant next after)
    {count : Nat} {value : α} {before after : State} {result : β}
    (hvalue : Invariant value before)
    (hrun : (repeatFrom step count value).run context before = .ok (result, after)) :
    ∃ last between, Invariant last between ∧
      (step last).run context between = .ok (.inr result, after) := by
  induction count generalizing value before with
  | zero => cases hrun
  | succ count ih =>
      obtain ⟨found, between, hfound, hrest⟩ := run_bind hrun
      cases found with
      | inl next => exact ih (hstep hvalue hfound) hrest
      | inr found =>
          cases hrest
          exact ⟨value, before, hvalue, hfound⟩

theorem passedItem_item {depth : Nat} (hsettled : before.SettledIn text)
    (hrun : (grammar depth).item.run context before = .ok (part, after)) :
    after.PassedItem text part := by
  cases depth with
  | zero => cases hrun
  | succ depth => exact passedItem_itemBody hsettled hrun

/-- A round either ends with the items so far or adds one. -/
theorem moduleStep_cases {parts : List Part} {found : List Part ⊕ List Part}
    (hrun : (moduleStep g parts).run context before = .ok (found, after)) :
    found = .inr parts ∧ after = before ∨
      ∃ part, found = .inl (parts ++ [part]) ∧ g.item.run context before = .ok (part, after) := by
  obtain ⟨now, between, hnow, hrest⟩ := run_bind hrun
  cases hnow
  dsimp only at hrest
  split at hrest
  · cases hrest
    exact .inl ⟨rfl, rfl⟩
  · obtain ⟨part, between, hpart, hreturn⟩ := run_bind hrest
    cases hreturn
    exact .inr ⟨part, rfl, hpart⟩

/-- At the end of the text all items of a module have been passed. -/
theorem passedItem_of_mem_moduleItems {depth : Nat} {parts : List Part}
    (hsettled : before.SettledIn text)
    (hrun : (moduleItems (grammar depth)).run context before = .ok (parts, after)) :
    ∀ part ∈ parts, after.PassedItem text part := by
  rw [moduleItems_eq_loop] at hrun
  obtain ⟨limits, between, hlimits, hloop⟩ := run_bind hrun
  cases hlimits
  obtain ⟨last, between, ⟨-, hpassed⟩, hend⟩ := exists_of_run_repeatFrom
    (fun parts state => state.SettledIn text ∧ ∀ part ∈ parts, state.PassedItem text part)
    (by
      intro parts more before after hbefore hstep
      cases moduleStep_cases hstep with
      | inl hdone => cases hdone.1
      | inr hadded =>
          obtain ⟨part, ⟨⟩, hpart⟩ := hadded
          have hahead := Parser.ahead _ hpart
          refine ⟨hahead.settles hbefore.1, List.forall_mem_append.mpr ⟨?_, ?_⟩⟩
          · intro other hother
            exact (hbefore.2 other hother).ahead hahead
          · exact List.forall_mem_singleton.mpr (passedItem_item hbefore.1 hpart))
    ⟨hsettled, List.forall_mem_nil _⟩ hloop
  cases moduleStep_cases hend with
  | inl hdone =>
      obtain ⟨⟨⟩, rfl⟩ := hdone
      exact hpassed
  | inr hadded =>
      obtain ⟨part, hfound, -⟩ := hadded
      cases hfound

end Parser

section Module

variable {dialect : Dialect} {text : Text} {program : Module}

/-- The state at the first token of a module. -/
theorem settledIn_start (limit : Nat) (text : Text) :
    (State.scanFrom limit (skipInterpreterLine text) 0 (.empty _)).SettledIn text where
  last := ⟨⟨text, 0⟩, .refl _, (leads_skipInterpreterLine text).trans (State.leads_scanFrom ..),
    (State.lastStop_scanFrom ..).symm⟩
  stop_le := by
    rw [State.list_scanFrom]
    exact List.forall_mem_nil _

/-- The items of a module are passed, and so are all its literal texts. -/
theorem exists_passedItem (hparse : parse dialect text = .ok program) :
    ∃ state : State, state.readings.list = readings dialect text ∧
      ∀ part ∈ program.items, state.PassedItem (withoutMark text) part := by
  obtain ⟨state, hread⟩ := exists_readModule hparse
  exact ⟨state, (readings_eq hread).symm,
    Parser.passedItem_of_mem_moduleItems (settledIn_start ..) hread⟩

end Module

end Syntax

namespace Tree

variable {dialect : Dialect} {text : Text} {program : Module} {state : State}

section Gaps

variable (hparse : Syntax.parse dialect text = .ok program)

include hparse

/-- Every literal of a module has been read. -/
theorem exists_reading_of_isLiteral {node : Node}
    (hnode : node ∈ (ofModule text program).nodes.toList) (hkind : node.kind.isLiteral = true) :
    ∃ reading ∈ readings dialect text, reading.range = node.range := by
  obtain ⟨form, hform⟩ := exists_form?_of_isLiteral hkind
  obtain ⟨reading, hreading, -, -, hrange⟩ := (fits_ofModule hparse node hnode).holds form hform
  exact ⟨reading, hreading, hrange⟩

/-- The ranges of literals select texts. -/
theorem exists_slice?_ofModule (hmark : withoutMark text = text) {node : Node}
    (hnode : node ∈ (ofModule text program).nodes.toList) (hkind : node.kind.isLiteral = true) :
    ∃ found, Text.slice? text node.range = some found := by
  obtain ⟨reading, hreading, hrange⟩ := exists_reading_of_isLiteral hparse hnode hkind
  have hstands := (found_of_mem_readings hparse hreading).1
  rw [hmark] at hstands
  rw [← hrange]
  exact hstands.exists_slice?

/-- Where the reader cuts no text that it has read, there is a gap between literals. -/
theorem isGap_of_clearAt (hmark : withoutMark text = text)
    (hlist : state.readings.list = readings dialect text) {offset : Nat}
    (hclear : state.ClearAt (withoutMark text) offset) :
    (ofModule text program).IsGap offset := by
  constructor
  · obtain ⟨cursor, hcursor, rfl⟩ := hclear.place
    rw [hmark] at hcursor
    rw [text_ofModule, Range.at', (Cursor.Passes.refl cursor).slice? hcursor]
    rfl
  · intro node hnode hkind
    obtain ⟨reading, hreading, hrange⟩ := exists_reading_of_isLiteral hparse hnode hkind
    have hside := hclear.clear reading (hlist ▸ hreading)
    rw [hrange] at hside
    omega

end Gaps

/-- Imports end where the reader cuts nothing. -/
theorem clearAt_of_mem_imports {source : Text} {parts : List Part}
    (hparts : ∀ part ∈ parts, state.PassedItem text part) {entry : Range × ImportDeclaration}
    (hentry : entry ∈ (Part.outlines source parts).imports) :
    state.ClearAt text entry.1.stop := by
  induction parts with
  | nil => cases hentry
  | cons part parts ih =>
      obtain ⟨hpart, hparts⟩ := List.forall_mem_cons.mp hparts
      rw [Part.outlines, Outline.imports_append, List.mem_append] at hentry
      cases hentry with
      | inl hentry =>
          cases hpart with
          | plain hstart => cases hentry
          | imports hstart hstop =>
              cases List.mem_singleton.mp hentry
              exact hstop
      | inr hentry => exact ih hparts hentry

/-- What the outline of an item begins with begins where the reader cuts nothing. -/
theorem exists_outlines_eq_node {part : Part} (hpart : state.PassedItem text part) (source : Text)
    (parts : List Part) :
    ∃ kind range raw held arguments rest,
      Part.outlines source (part :: parts) = .node kind range raw held arguments rest ∧
        state.ClearAt text range.start := by
  cases hpart with
  | plain hstart => exact ⟨_, _, _, _, _, _, rfl, hstart⟩
  | imports hstart hstop => exact ⟨_, _, _, _, _, _, rfl, hstart⟩

/-- The first node below the root begins where the reader cuts nothing. -/
theorem clearAt_of_first {source : Text}
    (hitems : ∀ part ∈ program.items, state.PassedItem text part) {first : Node}
    (hfirst : first ∈ (ofModule source program).body[0]?.bind (ofModule source program).node?) :
    state.ClearAt text first.range.start := by
  rw [← Array.getElem?_toList, toList_body_ofModule, Module.outline] at hfirst
  cases hlist : program.items with
  | nil =>
      rw [hlist] at hfirst
      cases hfirst
  | cons part parts =>
      have hpart := hitems part (hlist ▸ List.mem_cons_self)
      obtain ⟨kind, range, raw, held, arguments, rest, houtline, hstart⟩ :=
        exists_outlines_eq_node hpart source parts
      have hholds := holds_ofModule source program
      rw [Module.outline, hlist, houtline] at hholds
      rw [hlist, houtline, Outline.ids, List.getElem?_cons_zero, Option.bind_some,
        hholds.own] at hfirst
      cases hfirst
      exact hstart

/-- Two literals of a module stand apart, whichever of them is read first. -/
theorem apart_ofModule (hparse : Syntax.parse dialect text = .ok program) :
    (ofModule text program).nodes.toList.Pairwise fun node other =>
      node.kind.isLiteral = true → other.kind.isLiteral = true →
        ¬node.range.SharesByte other.range := by
  rw [List.pairwise_iff_getElem]
  intro id other hid hother hlt hkind hotherKind
  have horder := literal_nodes_inOrder hparse hlt
    (by rw [node?, ← Array.getElem?_toList, List.getElem?_eq_getElem hid]) hkind
    (by rw [node?, ← Array.getElem?_toList, List.getElem?_eq_getElem hother]) hotherKind
  unfold Range.SharesByte
  omega

/-- Unless the text starts with a byte-order mark, the tree of a module is faithful to it. -/
theorem faithful_ofModule (hparse : Syntax.parse dialect text = .ok program)
    (hmark : withoutMark text = text) : (ofModule text program).Faithful := by
  obtain ⟨state, hlist, hitems⟩ := exists_passedItem hparse
  constructor
  case sliced =>
    intro node hnode hkind
    obtain ⟨found, hfound⟩ := exists_slice?_ofModule hparse hmark hnode hkind
    rw [text_ofModule, hfound]
    rfl
  case apart => exact apart_ofModule hparse
  case segments => exact segmentAgrees_ofModule hparse hmark
  case importGap =>
    intro entry hentry
    rw [imports_ofModule, Module.outline] at hentry
    exact isGap_of_clearAt hparse hmark hlist (clearAt_of_mem_imports hitems hentry)
  case bodyGap =>
    intro first hfirst
    exact isGap_of_clearAt hparse hmark hlist (clearAt_of_first hitems hfirst)

/-- The tree of a file without a byte-order mark is faithful. -/
theorem faithful_of_parse {path : String} {tree : Tree} (hparse : parse path text = .ok tree)
    (hmark : withoutMark text = text) : tree.text = text ∧ tree.Grown ∧ tree.Faithful := by
  unfold parse at hparse
  cases hmodule : Syntax.parse (.ofPath path) text with
  | error error =>
      rw [hmodule] at hparse
      cases hparse
  | ok program =>
      rw [hmodule] at hparse
      cases hparse
      exact ⟨text_ofModule text program, grown_ofModule text program,
        faithful_ofModule hmodule hmark⟩

/-- In a faithful tree, such as that of a file without a byte-order mark, no finding is
lost: every fix is applied, and the edits that are not insertions are, one for one, the
replacements of what the findings that are not exempt report. -/
theorem check_fixes_lossless (tree : Tree) (options : RuleOptions)
    (htree : tree.Faithful ∨
      ∃ path text, parse path text = .ok tree ∧ withoutMark text = text) :
    let findings := tree.check options true
    let outcome := tree.text.applyFixes (Finding.fixes findings)
    outcome.skipped = 0 ∧
      outcome.applied = findings.countP (·.fix.isSome) ∧
      (outcome.edits.filter (!·.isInsertion)).Nodup ∧
      (outcome.edits.filter (!·.isInsertion)).Perm
        ((findings.filter (!tree.isExempt options ·)).map
          (tree.callEdit options)) := by
  intro findings outcome
  have htree : tree.Faithful := by
    rcases htree with hfaithful | ⟨path, text, hparse, hmark⟩
    · exact hfaithful
    · exact (faithful_of_parse hparse hmark).2.2
  have hacceptance := htree.ofFixes_check options
  have hperm : outcome.edits.Perm (tree.edits options).flatten := by
    have haccepted : (Acceptance.ofFixes tree.text (Finding.fixes findings)).edits =
        (tree.edits options).flatten :=
      congrArg Acceptance.edits hacceptance
    rw [← haccepted]
    exact List.mergeSort_perm _ _
  have hfiltered := hperm.filter (!·.isInsertion)
  rw [filter_edits_flatten htree options] at hfiltered
  refine ⟨congrArg Acceptance.skipped hacceptance,
    congrArg Acceptance.applied hacceptance, ?_, ?_⟩
  · exact hfiltered.nodup_iff.mpr (wraps_nodup htree options)
  · have hfindings : findings =
        List.zipWith tree.finding (tree.untranslated options)
          (tree.edits options) := by
      change tree.check options true = _
      rw [check, if_pos rfl]
    rw [hfindings, map_callEdit_zipWith_finding _ _
      (length_edits tree options).symm]
    · exact hfiltered
    · intro literal hliteral
      have hself := literal?_of_mem_untranslated hliteral
      obtain ⟨node, range, -, -, hrange, -⟩ := exists_trimmedRange? htree.segments hself
        (trimmed_ne_nil_of_mem_untranslated hliteral)
      exact ⟨hself, range, hrange⟩

theorem check_fixes_lossless_sampleTree :
    let findings := sampleTree.check .cyrillic true
    let outcome := sampleTree.text.applyFixes (Finding.fixes findings)
    sampleTree.Faithful ∧ findings.length = 6 ∧ outcome.skipped = 0 ∧
      outcome.applied = findings.countP (·.fix.isSome) ∧
      (outcome.edits.filter (!·.isInsertion)).Nodup ∧
      (outcome.edits.filter (!·.isInsertion)).Perm
        ((findings.filter (!sampleTree.isExempt .cyrillic ·)).map
          (sampleTree.callEdit .cyrillic)) := by
  obtain ⟨-, hfaithful, hlength⟩ := sampleTree_evaluated
  exact ⟨hfaithful, hlength, check_fixes_lossless sampleTree .cyrillic (.inl hfaithful)⟩

end Tree

end Untranslated
