import Untranslated.Proofs.EditGroups
import Untranslated.Proofs.Findings

/-!
# The preview is the patch

Hunks are made to be shown, by a way of working that is not the one that
changes the text: edits are gathered by lines, moved to where their group
starts and made in the lines of the group alone.  This module proves that what
is shown is what would be done.  Every offset the hunks are computed from is in
bounds, each hunk shows lines of the text as they are, and exchanging these
lines for the new ones gives the lines of the changed text.
-/

namespace Untranslated

namespace Text

variable {text head old tail : Text}

theorem lines_append_break (front back : Text) :
    lines (front ++ '\n' :: back) = lines front ++ lines back := by
  simp [lines, splitLines_append_break]

theorem length_lines (text : Text) : (lines text).length = breaks text + 1 := by
  rw [lines, List.length_map, length_splitLines]

/-- Whole lines at the start of a text are its first lines. -/
theorem EndsLine.exists_lines (hhead : EndsLine head) :
    ∃ whole : List Text, whole.length = breaks head ∧
      ∀ rest, lines (head ++ rest) = whole ++ lines rest := by
  rcases hhead with rfl | ⟨front, rfl⟩
  · exact ⟨[], rfl, fun rest => rfl⟩
  · refine ⟨lines front, by simp [length_lines], fun rest => ?_⟩
    rw [List.append_assoc, List.singleton_append, lines_append_break]

theorem EndsLine.drop_lines (hhead : EndsLine head) (rest : Text) :
    (lines (head ++ rest)).drop (breaks head) = lines rest := by
  obtain ⟨whole, hlength, hlines⟩ := hhead.exists_lines
  rw [hlines, ← hlength, List.drop_left]

/-- Lines that are cut out of a text are its lines from there on. -/
theorem take_drop_lines (hhead : EndsLine head) (htail : StartsBreak tail) :
    ((lines (head ++ (old ++ tail))).drop (breaks head)).take (lines old).length =
      lines old := by
  rw [hhead.drop_lines]
  rcases htail with rfl | ⟨rest, rfl⟩
  · rw [List.append_nil, List.take_length]
  · rw [lines_append_break, List.take_left]

/-- What whole lines have beyond other whole lines is whole lines. -/
theorem EndsLine.of_append {front between : Text}
    (hhead : EndsLine (front ++ between)) : EndsLine between := by
  rcases List.eq_nil_or_concat between with rfl | ⟨init, last, rfl⟩
  · exact Or.inl rfl
  · rw [List.concat_eq_append] at hhead ⊢
    rcases hhead with hnil | ⟨front', hfront⟩
    · simp at hnil
    · rw [← List.append_assoc] at hfront
      exact Or.inr ⟨init, by rw [(List.append_inj' hfront rfl).2]⟩

/-- Splicing keeps what stands before the place where it starts. -/
theorem spliceFrom?_of_slice? {kept spliced : Text} {start offset : Nat}
    {edits : List Edit} (hkept : slice? text ⟨start, offset⟩ = some kept)
    (hspliced : spliceFrom? text offset edits = some spliced) :
    spliceFrom? text start edits = some (kept ++ spliced) := by
  cases edits with
  | nil => exact slice?_append hkept hspliced
  | cons edit edits =>
      simp only [spliceFrom?, Option.bind_eq_bind, Option.bind_eq_some_iff] at hspliced
      obtain ⟨between, hbetween, rest, hrest, hall⟩ := hspliced
      cases hall
      simp [spliceFrom?, slice?_append hkept hbetween, hrest]

/-- Splicing edits into a part of a text, and then the others into the rest. -/
theorem spliceFrom?_relative {edits others : List Edit} {offset : Nat}
    {new more : Text} (htext : text = head ++ (old ++ tail))
    (hedits : ∀ edit ∈ edits, byteSize head ≤ edit.range.start ∧
      edit.range.start ≤ edit.range.stop)
    (hnew : spliceFrom? old offset
      (edits.map (Edit.relativeTo (byteSize head))) = some new)
    (hmore : spliceFrom? text (byteSize (head ++ old)) others = some more) :
    spliceFrom? text (byteSize head + offset) (edits ++ others) =
      some (new ++ more) := by
  have hold : slice? text ⟨byteSize head, byteSize (head ++ old)⟩ = some old :=
    slice?_eq_some_iff.mpr ⟨head, tail, htext, rfl, by rw [byteSize_append]⟩
  induction edits generalizing offset new with
  | nil =>
      have hslice := slice?_of_slice? hold hnew
      rw [← byteSize_append] at hslice
      exact spliceFrom?_of_slice? hslice hmore
  | cons edit edits ih =>
      obtain ⟨hstart, horder⟩ := hedits edit (by simp)
      simp only [List.map_cons, spliceFrom?, Edit.relativeTo,
        Option.bind_eq_bind, Option.bind_eq_some_iff] at hnew
      obtain ⟨kept, hkept, rest, hrest, hall⟩ := hnew
      cases hall
      have hkept' := slice?_of_slice? hold hkept
      have hrest' := ih (fun next hnext => hedits next (by simp [hnext])) hrest
      rw [Nat.add_sub_of_le hstart] at hkept'
      rw [Nat.add_sub_of_le (Nat.le_trans hstart horder)] at hrest'
      simp [spliceFrom?, hkept', hrest']

end Text

namespace Edit

variable {text head old tail : Text} {edits : List Edit}

theorem InOrder.pairwise_before (horder : InOrder edits)
    (hedits : ∀ edit ∈ edits, edit.range.start ≤ edit.range.stop) :
    edits.Pairwise fun edit next => edit.range.before next.range = true := by
  refine List.Pairwise.imp_of_mem ?_ horder
  intro edit next hedit hnext hstop
  have hfirst := hedits edit hedit
  have hsecond := hedits next hnext
  simp only [Range.before, Bool.or_eq_true, Bool.and_eq_true, decide_eq_true_eq,
    beq_iff_eq]
  omega

/-- Moving edits to a part of the text that has them all keeps them in order. -/
theorem InOrder.relativeTo (horder : InOrder edits) {offset : Nat}
    (hedits : ∀ edit ∈ edits, offset ≤ edit.range.start ∧
      edit.range.start ≤ edit.range.stop) :
    InOrder (edits.map (Edit.relativeTo offset)) := by
  refine List.pairwise_map.mpr (List.Pairwise.imp_of_mem ?_ horder)
  intro edit next hedit hnext hstop
  have hfirst := hedits edit hedit
  have hsecond := hedits next hnext
  simp only [isInsertion, Range.isEmpty, beq_iff_eq, Edit.relativeTo] at hstop ⊢
  omega

theorem Compatible.relativeTo (hedits : Compatible text edits)
    (htext : text = head ++ (old ++ tail))
    (hinside : ∀ edit ∈ edits, Text.byteSize head ≤ edit.range.start ∧
      edit.range.stop ≤ Text.byteSize (head ++ old)) :
    Compatible old (edits.map (Edit.relativeTo (Text.byteSize head))) where
  sliced := by
    intro moved hmoved
    obtain ⟨edit, hedit, rfl⟩ := List.mem_map.mp hmoved
    obtain ⟨replaced, hslice⟩ := hedits.sliced edit hedit
    have hold : Text.slice? text
        ⟨Text.byteSize head, Text.byteSize (head ++ old)⟩ = some old :=
      Text.slice?_eq_some_iff.mpr
        ⟨head, tail, htext, rfl, by rw [Text.byteSize_append]⟩
    exact ⟨replaced, Text.slice?_relative hold hslice (hinside edit hedit).1
      (hinside edit hedit).2⟩
  clear := by
    refine List.pairwise_map.mpr (List.Pairwise.imp_of_mem ?_ hedits.clear)
    intro edit other hedit hother hclear
    have hfirst := (hinside edit hedit).1
    have hsecond := (hinside other hother).1
    have hfirstOrder := hedits.start_le_stop hedit
    have hsecondOrder := hedits.start_le_stop hother
    rw [Range.overlaps_eq_false_iff] at hclear ⊢
    split at hclear <;> split <;> simp only [Edit.relativeTo] at * <;> omega

end Edit

/-- A single fix whose edits go together and are in order is made as it is. -/
theorem Text.spliceFrom?_applyFixes_singleton {text : Text} {edits : List Edit}
    (hedits : Edit.Compatible text edits) (horder : Edit.InOrder edits) :
    spliceFrom? text 0 edits = some (text.applyFixes [⟨edits⟩]).text := by
  have hflat : ([⟨edits⟩] : List Fix).flatMap Fix.edits = edits := by simp
  have haccepted := Acceptance.ofFixes_of_compatible (hflat.symm ▸ hedits)
  have hsorted := horder.pairwise_before fun edit hedit =>
    hedits.start_le_stop hedit
  have hkept : (text.applyFixes [⟨edits⟩]).edits = edits := by
    change (Acceptance.ofFixes text [⟨edits⟩]).edits.mergeSort _ = edits
    rw [haccepted, hflat, List.mergeSort_of_pairwise hsorted]
  have hspliced := spliceFrom?_applyFixes text [⟨edits⟩]
  rwa [hkept] at hspliced

/-! ## Computing hunks with every bound checked -/

/-- The difference of two numbers, where it does not fall below zero. -/
def subtract? (minuend subtrahend : Nat) : Option Nat :=
  if subtrahend ≤ minuend then some (minuend - subtrahend) else none

theorem subtract?_of_le {minuend subtrahend : Nat} (hle : subtrahend ≤ minuend) :
    subtract? minuend subtrahend = some (minuend - subtrahend) :=
  if_pos hle

namespace LineIndex

open Text

variable {text : Text}

def lineOf? (index : LineIndex) (offset : Nat) : Option Nat :=
  subtract? (index.starts.takeWhile (· ≤ offset)).length 1

def lineEnd? (index : LineIndex) (line : Nat) : Option Nat :=
  match index.lineStart? (line + 1) with
  | some next => subtract? next 1
  | none => some (byteSize index.text)

def position? (index : LineIndex) (offset : Nat) : Option Position := do
  let line ← index.lineOf? offset
  let start ← index.lineStart? line
  let before ← slice? index.text ⟨start, offset⟩
  return ⟨line + 1, before.length + 1⟩

theorem lineOf?_ofText (text : Text) (offset : Nat) :
    (ofText text).lineOf? offset = some ((ofText text).lineOf offset) := by
  apply subtract?_of_le
  simp [ofText]

theorem lineEnd?_ofText (text : Text) (line : Nat) :
    (ofText text).lineEnd? line = some ((ofText text).lineEnd line) := by
  rw [lineEnd?, lineEnd]
  cases hnext : (ofText text).lineStart? (line + 1) with
  | none => rfl
  | some next =>
      apply subtract?_of_le
      have hmem : next ∈ startsAfter 0 text := by
        rw [lineStart?, ofText, List.getElem?_cons_succ] at hnext
        exact List.mem_of_getElem? hnext
      exact lt_of_mem_startsAfter hmem

theorem position?_ofText {old : Text} {range : Range}
    (hslice : slice? text range = some old) :
    (ofText text).position? range.start =
      some ((ofText text).position range.start) := by
  obtain ⟨front, back, rfl, hstart, -⟩ := slice?_eq_some_iff.mp hslice
  have hline := lineOf_byteSize front (old ++ back)
  obtain ⟨head, rest, htext, hhead, hbreaks⟩ :=
    exists_endsLine (show breaks front ≤ breaks (front ++ (old ++ back)) by simp)
  have hlineStart := lineStart?_breaks hhead rest
  rw [← htext, hbreaks] at hlineStart
  have hle := byteSize_le_of_endsLine htext.symm hhead (Nat.le_of_eq hbreaks)
  obtain ⟨before, rfl, -⟩ := exists_append_of_byteSize_le htext.symm hle
  have hbefore : slice? (ofText (head ++ before ++ (old ++ back))).text
      ⟨byteSize head, byteSize (head ++ before)⟩ = some before :=
    slice?_eq_some_iff.mpr ⟨head, old ++ back, by simp [ofText], rfl, by simp⟩
  rw [← hstart]
  simp only [position?, position, lineOf?_ofText, hline, hlineStart, hbefore,
    Option.bind_eq_bind, Option.bind_some, Option.getD_some, Option.map_some,
    Option.pure_def]

end LineIndex

def Edit.relativeTo? (offset : Nat) (edit : Edit) : Option Edit := do
  let start ← subtract? edit.range.start offset
  let stop ← subtract? edit.range.stop offset
  return { edit with range := ⟨start, stop⟩ }

def EditGroup.add? (index : LineIndex) (groups : List EditGroup) (edit : Edit) :
    Option (List EditGroup) := do
  let first ← index.lineOf? edit.range.start
  let last ← index.lineOf? (max (edit.range.stop - 1) edit.range.start)
  match groups with
  | group :: groups =>
      if first ≤ group.last then
        return { group with
          last := max group.last last
          edits := group.edits ++ [edit] } :: groups
      else return ⟨first, last, [edit]⟩ :: group :: groups
  | [] => return [⟨first, last, [edit]⟩]

namespace Hunk

def ofGroup? (index : LineIndex) (group : EditGroup) : Option Hunk := do
  let first ← group.edits.head?
  let position ← index.position? first.range.start
  let start ← index.lineStart? group.first
  let stop ← index.lineEnd? group.last
  let old ← Text.slice? index.text ⟨start, stop⟩
  let edits ← group.edits.mapM (Edit.relativeTo? start)
  let new := (Text.applyFixes old [⟨edits⟩]).text
  return ⟨position, Text.lines old, Text.lines new⟩

/-- The hunks that show edits, unless a number falls below zero, a line does not
exist or a range selects nothing on the way. -/
def ofEdits? (text : Text) (edits : List Edit) : Option (List Hunk) := do
  let index := LineIndex.ofText text
  let groups ← edits.foldlM (EditGroup.add? index) []
  groups.reverse.mapM (ofGroup? index)

variable {text head old tail : Text}

/-- The groups never miss a bound. -/
theorem foldlM_add? (text : Text) (edits : List Edit) (groups : List EditGroup) :
    edits.foldlM (EditGroup.add? (.ofText text)) groups =
      some (edits.foldl (EditGroup.add (.ofText text)) groups) := by
  induction edits generalizing groups with
  | nil => rfl
  | cons edit edits ih =>
      have hstep : EditGroup.add? (.ofText text) groups edit =
          some (EditGroup.add (.ofText text) groups edit) := by
        simp only [EditGroup.add?, LineIndex.lineOf?_ofText, EditGroup.add,
          EditGroup.lastLine, Option.bind_eq_bind, Option.bind_some]
        cases groups with
        | nil => rfl
        | cons group groups => exact (apply_ite some _ _ _).symm
      rw [List.foldlM_cons, hstep, List.foldl_cons]
      exact ih _

theorem mapM_relativeTo? (offset : Nat) {edits : List Edit}
    (hedits : ∀ edit ∈ edits, offset ≤ edit.range.start ∧
      edit.range.start ≤ edit.range.stop) :
    edits.mapM (Edit.relativeTo? offset) =
      some (edits.map (Edit.relativeTo offset)) := by
  induction edits with
  | nil => rfl
  | cons edit edits ih =>
      obtain ⟨hstart, horder⟩ := hedits edit (by simp)
      have hstop := Nat.le_trans hstart horder
      have hrest := ih fun next hnext => hedits next (by simp [hnext])
      simp [Edit.relativeTo?, Edit.relativeTo, subtract?_of_le hstart,
        subtract?_of_le hstop, hrest]

/-- The hunk of a group shows the lines that the group cuts out, and these lines
with the edits of the group made. -/
theorem ofGroup_of_cuts {group : EditGroup}
    (hspans : EditGroup.Spans (.ofText text) group)
    (hedits : Edit.Compatible text group.edits)
    (htext : text = head ++ (old ++ tail)) (hcuts : group.Cuts head old tail) :
    let hunk := ofGroup (.ofText text) group
    ofGroup? (.ofText text) group = some hunk ∧
      hunk.position.line = Text.breaks head + 1 ∧
      hunk.oldLines = Text.lines old ∧
      hunk.newLines = Text.lines (Text.applyFixes old
        [⟨group.edits.map (Edit.relativeTo (Text.byteSize head))⟩]).text := by
  obtain ⟨first, hfirst, hline⟩ := hspans.starts
  obtain ⟨replaced, hreplaced⟩ := hedits.sliced first (List.mem_of_mem_head? hfirst)
  have hposition := LineIndex.position?_ofText hreplaced
  have hstart : (LineIndex.ofText text).lineStart? group.first =
      some (Text.byteSize head) := by
    rw [← hcuts.first_eq, htext]
    exact LineIndex.lineStart?_breaks hcuts.endsLine (old ++ tail)
  have hstop : (LineIndex.ofText text).lineEnd group.last =
      Text.byteSize (head ++ old) := by
    rw [← hcuts.last_eq, htext, ← List.append_assoc]
    exact LineIndex.lineEnd_breaks (head ++ old) hcuts.startsBreak
  have hold : Text.slice? (LineIndex.ofText text).text
      ⟨Text.byteSize head, Text.byteSize (head ++ old)⟩ = some old :=
    Text.slice?_eq_some_iff.mpr
      ⟨head, tail, htext, rfl, by rw [Text.byteSize_append]⟩
  have hmoved := mapM_relativeTo? (Text.byteSize head) fun edit hedit =>
    ⟨(hcuts.inside edit hedit).1, hedits.start_le_stop hedit⟩
  refine ⟨?_, ?_, ?_, ?_⟩
  · simp only [ofGroup?, ofGroup, hfirst, hposition, hstart,
      LineIndex.lineEnd?_ofText, hstop, hold, hmoved, Option.bind_eq_bind,
      Option.bind_some, Option.map_some, Option.getD_some, Option.pure_def]
  · simp only [ofGroup, hfirst, Option.map_some, Option.getD_some,
      LineIndex.position, hline, hcuts.first_eq]
  · simp only [ofGroup, hstart, hstop, Option.getD_some, hold]
  · simp only [ofGroup, hstart, hstop, Option.getD_some, hold]

/-- The hunk of a group shows lines of the text as they are, namely those of the
group. -/
theorem ofGroup_of_spans {group : EditGroup}
    (hspans : EditGroup.Spans (.ofText text) group)
    (hedits : Edit.Showable text group.edits) :
    let hunk := ofGroup (.ofText text) group
    ofGroup? (.ofText text) group = some hunk ∧
      hunk.position.line = group.first + 1 ∧
      hunk.position.line + hunk.oldLines.length = group.last + 2 ∧
      hunk.oldLines = ((Text.lines text).drop (hunk.position.line - 1)).take
        hunk.oldLines.length := by
  obtain ⟨head, old, tail, htext, hcuts⟩ := hspans.exists_cuts hedits.endsInLine
  obtain ⟨hsome, hline, hold, -⟩ :=
    ofGroup_of_cuts hspans hedits.toCompatible htext hcuts
  refine ⟨hsome, ?_, ?_, ?_⟩
  · rw [hline, hcuts.first_eq]
  · rw [hline, hold, Text.length_lines, ← hcuts.last_eq, Text.breaks_append]
    omega
  · rw [hline, hold, Nat.add_sub_cancel, htext]
    exact (Text.take_drop_lines hcuts.endsLine hcuts.startsBreak).symm

/-- Lines with those that hunks show exchanged for the new ones, from the line
`next` on.  The hunks must be in order and disjoint. -/
def patchFrom (lines : List Text) : Nat → List Hunk → List Text
  | next, [] => lines.drop next
  | next, hunk :: hunks =>
      let first := hunk.position.line - 1
      (lines.drop next).take (first - next) ++ hunk.newLines ++
        patchFrom lines (first + hunk.oldLines.length) hunks

def patch (lines : List Text) (hunks : List Hunk) : List Text :=
  patchFrom lines 0 hunks

/-- One hunk of a patch: the whole lines before it are kept and its lines are
exchanged. -/
theorem patchFrom_cons {front kept new more : Text} {hunk : Hunk}
    {hunks : List Hunk} (htext : text = (front ++ kept) ++ (old ++ tail))
    (hfront : Text.EndsLine front) (hkept : Text.EndsLine kept)
    (hline : hunk.position.line = Text.breaks (front ++ kept) + 1)
    (hold : hunk.oldLines = Text.lines old)
    (hnew : hunk.newLines = Text.lines new)
    (hmore : Text.lines (new ++ more) = Text.lines new ++
      patchFrom (Text.lines text)
        (Text.breaks (front ++ kept) + (Text.lines old).length) hunks) :
    patchFrom (Text.lines text) (Text.breaks front) (hunk :: hunks) =
      Text.lines (kept ++ (new ++ more)) := by
  obtain ⟨whole, hlength, hwhole⟩ := hkept.exists_lines
  have hdrop : (Text.lines text).drop (Text.breaks front) =
      whole ++ Text.lines (old ++ tail) := by
    rw [htext, List.append_assoc, hfront.drop_lines, hwhole]
  have hcount : Text.breaks (front ++ kept) - Text.breaks front =
      whole.length := by
    rw [Text.breaks_append, hlength, Nat.add_sub_cancel_left]
  rw [patchFrom, hline, Nat.add_sub_cancel, hcount, hdrop, List.take_left, hold,
    hnew, hwhole, hmore, List.append_assoc]

/-- Patching the lines of groups, from the whole lines `front` on, goes along
with splicing the edits of the groups into the text. -/
def PatchSplices (text front : Text) (groups : List EditGroup) : Prop :=
  ∃ spliced,
    Text.spliceFrom? text (Text.byteSize front)
        (groups.flatMap EditGroup.edits) = some spliced ∧
      patchFrom (Text.lines text) (Text.breaks front)
        (groups.map (ofGroup (.ofText text))) = Text.lines spliced

/-- What follows the lines of a group is nothing, or a line feed and then whole
lines to go on from. -/
theorem patchFrom_after {groups : List EditGroup}
    (htext : text = head ++ (old ++ tail)) (htail : Text.StartsBreak tail)
    (hnone : tail = [] → groups = [])
    (hrest : ∀ rest, tail = '\n' :: rest →
      PatchSplices text (head ++ old ++ ['\n']) groups) :
    ∃ more,
      Text.spliceFrom? text (Text.byteSize (head ++ old))
          (groups.flatMap EditGroup.edits) = some more ∧
        ∀ new, Text.lines (new ++ more) = Text.lines new ++
          patchFrom (Text.lines text)
            (Text.breaks head + (Text.lines old).length)
            (groups.map (ofGroup (.ofText text))) := by
  rcases htail with rfl | ⟨rest, rfl⟩
  · have hend : Text.slice? text
        ⟨Text.byteSize (head ++ old), Text.byteSize text⟩ = some [] :=
      Text.slice?_eq_some_iff.mpr
        ⟨head ++ old, [], by simp [htext], rfl, by simp [htext]⟩
    rw [hnone rfl]
    refine ⟨[], hend, fun new => ?_⟩
    rw [List.map_nil, patchFrom, List.drop_eq_nil_of_le, List.append_nil,
      List.append_nil]
    apply Nat.le_of_eq
    rw [htext, List.append_nil, Text.length_lines, Text.length_lines,
      Text.breaks_append, Nat.add_assoc]
  · obtain ⟨spliced, hspliced, hpatch⟩ := hrest rest rfl
    have hbreak : Text.slice? text ⟨Text.byteSize (head ++ old),
        Text.byteSize (head ++ old ++ ['\n'])⟩ = some ['\n'] :=
      Text.slice?_eq_some_iff.mpr ⟨head ++ old, rest, by simp [htext], rfl,
        by rw [Text.byteSize_append _ ['\n']]⟩
    have hbreaks : Text.breaks (head ++ old ++ ['\n']) =
        Text.breaks head + (Text.lines old).length := by
      rw [Text.length_lines]
      simp
    refine ⟨_, Text.spliceFrom?_of_slice? hbreak hspliced, fun new => ?_⟩
    rw [List.singleton_append, Text.lines_append_break, ← hpatch, hbreaks]

theorem patchSplices_of_spans {groups : List EditGroup} {front back : Text}
    (hspans : ∀ group ∈ groups, EditGroup.Spans (.ofText text) group)
    (hapart : groups.Pairwise fun group next => group.last < next.first)
    (hedits : Edit.Showable text (groups.flatMap EditGroup.edits))
    (htext : text = front ++ back) (hfront : Text.EndsLine front)
    (hfirst : ∀ group ∈ groups, Text.breaks front ≤ group.first) :
    PatchSplices text front groups := by
  induction groups generalizing front back with
  | nil =>
      refine ⟨back, Text.slice?_eq_some_iff.mpr ⟨front, [], ?_, rfl, ?_⟩, ?_⟩
      · rw [List.append_nil, htext]
      · rw [htext, Text.byteSize_append]
      · rw [htext]
        exact hfront.drop_lines back
  | cons group groups ih =>
      obtain ⟨hnext, hapart⟩ := List.pairwise_cons.mp hapart
      have hgroup := hspans group (by simp)
      have hlater : ∀ later ∈ groups, EditGroup.Spans (.ofText text) later :=
        fun later hlater => hspans later (by simp [hlater])
      rw [List.flatMap_cons] at hedits
      have hhere := hedits.append_left
      have hthere := hedits.append_right
      obtain ⟨head, old, tail, hparts, hcuts⟩ :=
        hgroup.exists_cuts hhere.endsInLine
      obtain ⟨-, hline, hold, hnewLines⟩ :=
        ofGroup_of_cuts hgroup hhere.toCompatible hparts hcuts
      have hle : Text.byteSize front ≤ Text.byteSize head := by
        apply Text.byteSize_le_of_endsLine (htext.symm.trans hparts) hfront
        rw [hcuts.first_eq]
        exact hfirst group (by simp)
      obtain ⟨kept, rfl, -⟩ :=
        Text.exists_append_of_byteSize_le (htext.symm.trans hparts) hle
      have hbounds : ∀ edit ∈ group.edits,
          Text.byteSize (front ++ kept) ≤ edit.range.start ∧
            edit.range.start ≤ edit.range.stop := fun edit hedit =>
        ⟨(hcuts.inside edit hedit).1, hhere.start_le_stop hedit⟩
      have hnew := Text.spliceFrom?_applyFixes_singleton
        (hhere.relativeTo hparts hcuts.inside) (hhere.inOrder.relativeTo hbounds)
      have hnone : tail = [] → groups = [] := by
        rintro rfl
        apply List.eq_nil_iff_forall_not_mem.mpr
        intro later hmem
        have hlast := hnext later hmem
        have hexists := (hlater later hmem).first_le_breaks fun edit hedit =>
          hthere.endsInLine edit (List.mem_flatMap.mpr ⟨later, hmem, hedit⟩)
        rw [← hcuts.last_eq] at hlast
        rw [hparts, List.append_nil] at hexists
        omega
      have hrest : ∀ rest, tail = '\n' :: rest →
          PatchSplices text (front ++ kept ++ old ++ ['\n']) groups := by
        rintro rest rfl
        have hparts' : text = (front ++ kept ++ old ++ ['\n']) ++ rest := by
          simp [hparts]
        apply ih hlater hapart hthere hparts' (Or.inr ⟨_, rfl⟩)
        intro later hmem
        have hlast := hnext later hmem
        rw [← hcuts.last_eq] at hlast
        rw [Text.breaks_append _ ['\n']]
        exact hlast
      obtain ⟨more, hmore, hmoreLines⟩ :=
        patchFrom_after hparts hcuts.startsBreak hnone hrest
      have hspliced := Text.spliceFrom?_relative hparts hbounds hnew hmore
      have hkept : Text.slice? text
          ⟨Text.byteSize front, Text.byteSize (front ++ kept)⟩ = some kept :=
        Text.slice?_eq_some_iff.mpr ⟨front, old ++ tail, by simp [hparts], rfl,
          by rw [Text.byteSize_append]⟩
      exact ⟨_, Text.spliceFrom?_of_slice? hkept hspliced,
        patchFrom_cons hparts hfront hcuts.endsLine.of_append hline hold hnewLines
          (hmoreLines _)⟩

section OfEdits

variable {edits : List Edit} (hedits : Edit.Showable text edits)

include hedits

theorem showable_of_mem_ofEdits {group : EditGroup}
    (hgroup : group ∈ EditGroup.ofEdits (.ofText text) edits) :
    EditGroup.Spans (.ofText text) group ∧ Edit.Showable text group.edits := by
  obtain ⟨hflat, hspans, -⟩ := EditGroup.ofEdits_gathered (.ofText text)
    hedits.inOrder fun edit hedit => hedits.start_le_stop hedit
  refine ⟨hspans group hgroup, ?_⟩
  obtain ⟨before, after, hparts⟩ := List.append_of_mem hgroup
  rw [← hflat, hparts, List.flatMap_append, List.flatMap_cons] at hedits
  exact hedits.append_right.append_left

/-- Hunks are computed without a number below zero, a missing line or a range
that selects nothing. -/
theorem ofEdits?_eq_some : ofEdits? text edits = some (ofEdits text edits) := by
  have hgroups : ∀ groups : List EditGroup,
      (∀ group ∈ groups, group ∈ EditGroup.ofEdits (.ofText text) edits) →
      groups.mapM (ofGroup? (.ofText text)) =
        some (groups.map (ofGroup (.ofText text))) := by
    intro groups hmem
    induction groups with
    | nil => rfl
    | cons group groups ih =>
        obtain ⟨hspans, hshowable⟩ :=
          showable_of_mem_ofEdits hedits (hmem group (by simp))
        have hsome := (ofGroup_of_spans hspans hshowable).1
        have hrest := ih fun later hlater => hmem later (by simp [hlater])
        simp [hsome, hrest]
  rw [ofEdits?, foldlM_add?]
  exact hgroups _ fun group hgroup => hgroup

theorem oldLines_of_mem_ofEdits {hunk : Hunk} (hhunk : hunk ∈ ofEdits text edits) :
    1 ≤ hunk.position.line ∧ 0 < hunk.oldLines.length ∧
      hunk.oldLines = ((Text.lines text).drop (hunk.position.line - 1)).take
        hunk.oldLines.length := by
  obtain ⟨group, hgroup, rfl⟩ := List.mem_map.mp hhunk
  obtain ⟨hspans, hshowable⟩ := showable_of_mem_ofEdits hedits hgroup
  obtain ⟨-, hline, hlength, hold⟩ := ofGroup_of_spans hspans hshowable
  have hle := hspans.first_le_last
  exact ⟨by omega, by omega, hold⟩

theorem pairwise_ofEdits :
    (ofEdits text edits).Pairwise fun hunk next =>
      hunk.position.line + hunk.oldLines.length ≤ next.position.line := by
  obtain ⟨-, -, hapart⟩ := EditGroup.ofEdits_gathered (.ofText text)
    hedits.inOrder fun edit hedit => hedits.start_le_stop hedit
  refine List.pairwise_map.mpr (hapart.imp_of_mem ?_)
  intro group next hgroup hnext hlast
  obtain ⟨hspans, hshowable⟩ := showable_of_mem_ofEdits hedits hgroup
  obtain ⟨hspans', hshowable'⟩ := showable_of_mem_ofEdits hedits hnext
  obtain ⟨-, -, hlength, -⟩ := ofGroup_of_spans hspans hshowable
  obtain ⟨-, hline, -, -⟩ := ofGroup_of_spans hspans' hshowable'
  omega

/-- Patching the lines of a text gives the lines of the spliced text. -/
theorem patch_ofEdits {spliced : Text}
    (hspliced : Text.spliceFrom? text 0 edits = some spliced) :
    patch (Text.lines text) (ofEdits text edits) = Text.lines spliced := by
  obtain ⟨hflat, hspans, hapart⟩ := EditGroup.ofEdits_gathered (.ofText text)
    hedits.inOrder fun edit hedit => hedits.start_le_stop hedit
  obtain ⟨found, hfound, hpatch⟩ := patchSplices_of_spans hspans hapart
    (hflat.symm ▸ hedits) (List.nil_append text).symm (Or.inl rfl)
    fun group _ => Nat.zero_le group.first
  rw [hflat] at hfound
  have hsame : found = spliced := Option.some.inj (hfound.symm.trans hspliced)
  rw [← hsame]
  exact hpatch

end OfEdits

end Hunk

namespace Tree

variable {tree : Tree} {options : RuleOptions}

/-- No fix of a finding replaces something that ends with a line feed: what it
replaces has no blanks around it. -/
theorem endsInLine_applyFixes_check (tree : Tree) (options : RuleOptions)
    {edit : Edit} (hedit : edit ∈
      (tree.text.applyFixes (Finding.fixes (tree.check options true))).edits) :
    edit.EndsInLine tree.text := by
  obtain ⟨old, hold⟩ := (Text.applyFixes_edits_compatible _ _).sliced edit hedit
  refine ⟨old, hold, ?_⟩
  have hasked := Text.mem_of_mem_applyFixes_edits hedit
  rw [flatMap_edits_fixes_check] at hasked
  rw [flatten_edits] at hasked
  rcases List.mem_append.mp hasked with himport | hwrap
  · have hinsertion := isInsertion_of_mem_addedImport himport
    have hempty : old = [] := by
      have hsize := Text.byteSize_of_slice? hold
      simp only [Edit.isInsertion, Range.isEmpty, beq_iff_eq] at hinsertion
      cases old with
      | nil => rfl
      | cons char chars =>
          have := char.utf8Size_pos
          rw [Text.byteSize_cons] at hsize
          omega
    simp [hempty]
  · obtain ⟨literal, hliteral, hwrap⟩ := List.mem_filterMap.mp hwrap
    have htrimmed := trimmed_ne_nil_of_mem_untranslated hliteral
    unfold wrap? at hwrap
    split at hwrap
    · cases hwrap
    · obtain ⟨range, hrange, rfl⟩ := Option.map_eq_some_iff.mp hwrap
      have hslice := slice?_trimmedRange? htrimmed hrange
      rw [hslice] at hold
      cases hold
      intro hlast
      have hblank := Text.isBlank_getLast?_trim hlast
      revert hblank
      decide

/-- What the findings' hunks show is what applying their fixes does.  The hunks
are computed within all bounds and are in order, on disjoint lines; each shows
lines of the text as they are; and exchanging these lines for the new ones gives
the lines of the fixed text. -/
theorem preview_check_eq_patch (tree : Tree) (options : RuleOptions) :
    let outcome :=
      tree.text.applyFixes (Finding.fixes (tree.check options true))
    let hunks := Hunk.ofEdits tree.text outcome.edits
    Hunk.ofEdits? tree.text outcome.edits = some hunks ∧
      (hunks.Pairwise fun hunk next =>
        hunk.position.line + hunk.oldLines.length ≤ next.position.line) ∧
      (∀ hunk ∈ hunks, 1 ≤ hunk.position.line ∧ 0 < hunk.oldLines.length ∧
        hunk.oldLines = ((Text.lines tree.text).drop
          (hunk.position.line - 1)).take hunk.oldLines.length) ∧
      Hunk.patch (Text.lines tree.text) hunks = Text.lines outcome.text := by
  intro outcome hunks
  have hedits : Edit.Showable tree.text outcome.edits :=
    { toCompatible := Text.applyFixes_edits_compatible _ _
      inOrder := Text.applyFixes_edits_inOrder _ _
      endsInLine := fun edit hedit =>
        endsInLine_applyFixes_check tree options hedit }
  exact ⟨Hunk.ofEdits?_eq_some hedits, Hunk.pairwise_ofEdits hedits,
    fun hunk hhunk => Hunk.oldLines_of_mem_ofEdits hedits hhunk,
    Hunk.patch_ofEdits hedits (Text.spliceFrom?_applyFixes _ _)⟩

end Tree

end Untranslated
