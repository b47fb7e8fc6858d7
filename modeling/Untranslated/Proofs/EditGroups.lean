import Untranslated.Edit.Hunk
import Untranslated.Proofs.Lines
import Untranslated.Proofs.Splicing

/-!
# Groups of edits that share lines

Edits that are in order are gathered, one after the other, into groups that
each take up a run of lines.  Two facts about the groups carry the theory of
hunks.  The groups keep the edits and their order, and their runs of lines are
increasing and disjoint.  A group cuts the text into whole lines before it, the
lines it takes up, and the rest; all its edits lie inside the lines it takes up,
provided that no edit replaces something that ends with a line feed.
-/

namespace Untranslated

open Text (EndsLine StartsBreak breaks byteSize slice?)

/-- What an edit replaces is in the text and does not end with a line feed. -/
def Edit.EndsInLine (text : Text) (edit : Edit) : Prop :=
  ∃ old, slice? text edit.range = some old ∧ old.getLast? ≠ some '\n'

/-- Edits that can be shown line by line: they go together, they are in order
and each ends inside a line. -/
structure Edit.Showable (text : Text) (edits : List Edit) : Prop
    extends Edit.Compatible text edits where
  inOrder : Edit.InOrder edits
  endsInLine : ∀ edit ∈ edits, edit.EndsInLine text

namespace Edit.Showable

variable {text : Text} {edits others : List Edit}

theorem append_left (hedits : Showable text (edits ++ others)) :
    Showable text edits where
  toCompatible := hedits.toCompatible.append_left
  inOrder := (List.pairwise_append.mp hedits.inOrder).1
  endsInLine := fun edit hedit =>
    hedits.endsInLine edit (List.mem_append_left others hedit)

theorem append_right (hedits : Showable text (edits ++ others)) :
    Showable text others where
  toCompatible := hedits.toCompatible.append_right
  inOrder := (List.pairwise_append.mp hedits.inOrder).2.1
  endsInLine := fun edit hedit =>
    hedits.endsInLine edit (List.mem_append_right edits hedit)

end Edit.Showable

theorem LineIndex.lineOf_mono (index : LineIndex) {offset offset' : Nat}
    (hoffset : offset ≤ offset') : index.lineOf offset ≤ index.lineOf offset' := by
  have hlength : ∀ starts : List Nat,
      (starts.takeWhile (· ≤ offset)).length ≤
        (starts.takeWhile (· ≤ offset')).length := by
    intro starts
    induction starts with
    | nil => simp
    | cons start starts ih =>
        by_cases hstart : start ≤ offset
        · have hstart' : start ≤ offset' := by omega
          simpa [hstart, hstart'] using ih
        · simp [hstart]
  exact Nat.sub_le_sub_right (hlength index.starts) 1

namespace EditGroup

variable {index : LineIndex} {text : Text}

theorem lineOf_le_lastLine (index : LineIndex) (range : Range) :
    index.lineOf range.start ≤ lastLine index range :=
  index.lineOf_mono (Nat.le_max_right _ _)

/-- A group runs from the line where its first edit starts to a line that one
of its edits touches last, and no edit of it leaves these lines. -/
structure Spans (index : LineIndex) (group : EditGroup) : Prop where
  starts : ∃ edit, group.edits.head? = some edit ∧
    index.lineOf edit.range.start = group.first
  ends : ∃ edit ∈ group.edits, lastLine index edit.range = group.last
  inside : ∀ edit ∈ group.edits,
    group.first ≤ index.lineOf edit.range.start ∧
      lastLine index edit.range ≤ group.last

theorem Spans.singleton (index : LineIndex) (edit : Edit) :
    Spans index ⟨index.lineOf edit.range.start, lastLine index edit.range, [edit]⟩ where
  starts := ⟨edit, rfl, rfl⟩
  ends := ⟨edit, by simp, rfl⟩
  inside := by simp

theorem Spans.first_le_last {group : EditGroup} (hgroup : Spans index group) :
    group.first ≤ group.last := by
  obtain ⟨edit, hedit, hlast⟩ := hgroup.ends
  calc
    group.first ≤ index.lineOf edit.range.start := (hgroup.inside edit hedit).1
    _ ≤ lastLine index edit.range := lineOf_le_lastLine index edit.range
    _ = group.last := hlast

/-- A group takes in an edit that starts no earlier than the edits it has. -/
theorem Spans.extend {group : EditGroup} (hgroup : Spans index group) (edit : Edit)
    (hafter : ∀ earlier ∈ group.edits,
      index.lineOf earlier.range.start ≤ index.lineOf edit.range.start) :
    Spans index { group with
      last := max group.last (lastLine index edit.range)
      edits := group.edits ++ [edit] } where
  starts := by
    obtain ⟨first, hhead, hline⟩ := hgroup.starts
    exact ⟨first, by simp [hhead], hline⟩
  ends := by
    obtain ⟨latest, hlatest, hline⟩ := hgroup.ends
    rcases Nat.le_total group.last (lastLine index edit.range) with hle | hle
    · exact ⟨edit, by simp, (Nat.max_eq_right hle).symm⟩
    · exact ⟨latest, by simp [hlatest], by rw [hline, Nat.max_eq_left hle]⟩
  inside := by
    obtain ⟨first, hhead, hline⟩ := hgroup.starts
    intro found hfound
    rcases List.mem_append.mp hfound with hfound | hfound
    · have hinside := hgroup.inside found hfound
      exact ⟨hinside.1, Nat.le_trans hinside.2 (Nat.le_max_left _ _)⟩
    · rw [List.mem_singleton.mp hfound]
      have hfirst : group.first ≤ index.lineOf edit.range.start := by
        rw [← hline]
        exact hafter first (List.mem_of_mem_head? hhead)
      exact ⟨hfirst, Nat.le_max_right _ _⟩

/-- What holds of the groups, the latest first, once `edits` have been added. -/
structure Gathered (index : LineIndex) (edits : List Edit)
    (groups : List EditGroup) : Prop where
  edits_eq : groups.reverse.flatMap EditGroup.edits = edits
  spans : ∀ group ∈ groups, Spans index group
  apart : groups.Pairwise fun later earlier => earlier.last < later.first

/-- Adding an edit that starts no earlier than the edits before it. -/
theorem Gathered.add {edits : List Edit} {groups : List EditGroup}
    (hgroups : Gathered index edits groups) {edit : Edit}
    (hafter : ∀ earlier ∈ edits,
      index.lineOf earlier.range.start ≤ index.lineOf edit.range.start) :
    Gathered index (edits ++ [edit]) (add index groups edit) := by
  obtain ⟨hedits, hspans, hapart⟩ := hgroups
  cases groups with
  | nil =>
      rw [← hedits]
      exact ⟨rfl, by simpa [EditGroup.add] using Spans.singleton index edit,
        List.pairwise_singleton _ _⟩
  | cons group groups =>
      obtain ⟨hbefore, hrest⟩ := List.pairwise_cons.mp hapart
      have hgroup := hspans group (by simp)
      rw [List.reverse_cons, List.flatMap_append, List.flatMap_cons,
        List.flatMap_nil, List.append_nil] at hedits
      rw [EditGroup.add]
      split
      · -- the edit starts on a line that the latest group has
        have hextend := hgroup.extend edit fun earlier hearlier =>
          hafter earlier (by rw [← hedits]; simp [hearlier])
        refine ⟨by simp [← hedits], ?_, List.pairwise_cons.mpr ⟨hbefore, hrest⟩⟩
        intro found hfound
        rcases List.mem_cons.mp hfound with rfl | hfound
        · exact hextend
        · exact hspans found (by simp [hfound])
      · rename_i hlast
        refine ⟨by simp [← hedits], ?_, List.pairwise_cons.mpr ⟨?_, hapart⟩⟩
        · intro found hfound
          rcases List.mem_cons.mp hfound with rfl | hfound
          · exact Spans.singleton index edit
          · exact hspans found hfound
        · have hlatest : group.last < index.lineOf edit.range.start :=
            Nat.lt_of_not_le hlast
          intro earlier hearlier
          rcases List.mem_cons.mp hearlier with rfl | hearlier
          · exact hlatest
          · calc
              earlier.last < group.first := hbefore earlier hearlier
              _ ≤ group.last := hgroup.first_le_last
              _ < index.lineOf edit.range.start := hlatest

theorem Gathered.foldl_add {edits more : List Edit} {groups : List EditGroup}
    (hgroups : Gathered index edits groups)
    (horder : (edits ++ more).Pairwise fun edit next =>
      index.lineOf edit.range.start ≤ index.lineOf next.range.start) :
    Gathered index (edits ++ more) (more.foldl (EditGroup.add index) groups) := by
  induction more generalizing edits groups with
  | nil => simpa using hgroups
  | cons edit more ih =>
      have hafter : ∀ earlier ∈ edits,
          index.lineOf earlier.range.start ≤ index.lineOf edit.range.start := by
        intro earlier hearlier
        exact (List.pairwise_append.mp horder).2.2 earlier hearlier edit (by simp)
      rw [List.append_cons] at horder ⊢
      exact ih (hgroups.add hafter) horder

/-- The groups of edits that are in order have these edits in this order, and
have runs of lines that increase and do not meet. -/
theorem ofEdits_gathered (index : LineIndex) {edits : List Edit}
    (horder : Edit.InOrder edits)
    (hedits : ∀ edit ∈ edits, edit.range.start ≤ edit.range.stop) :
    (ofEdits index edits).flatMap EditGroup.edits = edits ∧
      (∀ group ∈ ofEdits index edits, Spans index group) ∧
      (ofEdits index edits).Pairwise fun group next => group.last < next.first := by
  have hstart : Gathered index [] [] := ⟨rfl, by simp, List.Pairwise.nil⟩
  have hlines : edits.Pairwise fun edit next =>
      index.lineOf edit.range.start ≤ index.lineOf next.range.start := by
    refine List.Pairwise.imp_of_mem ?_ horder
    intro edit next hedit _ hnext
    exact index.lineOf_mono (Nat.le_trans (hedits edit hedit) hnext.1)
  obtain ⟨hflat, hspans, hapart⟩ := hstart.foldl_add hlines
  exact ⟨hflat, fun group hgroup => hspans group (List.mem_reverse.mp hgroup),
    List.pairwise_reverse.mpr hapart⟩

/-- The last line that an edit touches is the line where what it replaces
ends. -/
theorem lastLine_eq_breaks {range : Range} (front : Text) {old : Text} (back : Text)
    (hstart : byteSize front = range.start)
    (hstop : byteSize front + byteSize old = range.stop)
    (hlast : old.getLast? ≠ some '\n') :
    lastLine (.ofText (front ++ (old ++ back))) range = breaks (front ++ old) := by
  rcases List.eq_nil_or_concat old with rfl | ⟨init, char, rfl⟩
  · have hmax : max (range.stop - 1) range.start = byteSize front := by
      rw [Text.byteSize_nil] at hstop
      omega
    rw [lastLine, hmax, LineIndex.lineOf_byteSize, List.append_nil]
  · rw [List.concat_eq_append] at hstop hlast ⊢
    have hchar : char ≠ '\n' := by simpa using hlast
    have hsize := char.utf8Size_pos
    have htext : front ++ (init ++ [char] ++ back) =
        (front ++ init) ++ (char :: back) := by simp
    rw [Text.byteSize_append, Text.byteSize_cons, Text.byteSize_nil] at hstop
    rw [lastLine, htext, LineIndex.lineOf_eq_breaks]
    · simp [Text.breaks_cons_of_ne hchar]
    · rw [Text.byteSize_append]
      omega
    · intro next hnext
      rw [List.head?_cons, Option.mem_some_iff] at hnext
      rw [← hnext, Text.byteSize_append]
      omega

/-- The cut that a group makes in a text: whole lines, the lines of the group
without the last line feed, and the rest. -/
structure Cuts (group : EditGroup) (head old tail : Text) : Prop where
  endsLine : EndsLine head
  startsBreak : StartsBreak tail
  first_eq : breaks head = group.first
  last_eq : breaks (head ++ old) = group.last
  inside : ∀ edit ∈ group.edits,
    byteSize head ≤ edit.range.start ∧
      edit.range.stop ≤ byteSize (head ++ old)

theorem Spans.exists_cuts {group : EditGroup} (hgroup : Spans (.ofText text) group)
    (hedits : ∀ edit ∈ group.edits, edit.EndsInLine text) :
    ∃ head old tail, text = head ++ (old ++ tail) ∧
      group.Cuts head old tail := by
  -- where an edit starts and ends, and on which lines
  have hplace : ∀ edit ∈ group.edits, ∃ front replaced back,
      text = front ++ (replaced ++ back) ∧ byteSize front = edit.range.start ∧
        byteSize (front ++ replaced) = edit.range.stop ∧
        group.first ≤ breaks front ∧ breaks (front ++ replaced) ≤ group.last ∧
        lastLine (.ofText text) edit.range = breaks (front ++ replaced) := by
    intro edit hedit
    obtain ⟨replaced, hslice, hlast⟩ := hedits edit hedit
    obtain ⟨front, back, rfl, hstart, hstop⟩ := Text.slice?_eq_some_iff.mp hslice
    have hline := lastLine_eq_breaks front back hstart hstop hlast
    have hinside := hgroup.inside edit hedit
    rw [hline, ← hstart, LineIndex.lineOf_byteSize] at hinside
    exact ⟨front, replaced, back, rfl, hstart, by rw [Text.byteSize_append, hstop],
      hinside.1, hinside.2, hline⟩
  have hlast : group.last ≤ breaks text := by
    obtain ⟨edit, hedit, hline⟩ := hgroup.ends
    obtain ⟨front, replaced, back, htext, -, -, -, -, hlastLine⟩ := hplace edit hedit
    rw [← hline, hlastLine, htext, ← List.append_assoc, Text.breaks_append _ back]
    exact Nat.le_add_right _ _
  obtain ⟨head, rest, htext, hhead, hfirst⟩ :=
    Text.exists_endsLine (Nat.le_trans hgroup.first_le_last hlast)
  obtain ⟨upto, tail, htext', htail, hupto⟩ := Text.exists_startsBreak hlast
  have hle : byteSize head ≤ byteSize upto := by
    apply Text.byteSize_le_of_endsLine (htext.symm.trans htext') hhead
    rw [hfirst, hupto]
    exact hgroup.first_le_last
  obtain ⟨old, rfl, -⟩ :=
    Text.exists_append_of_byteSize_le (htext.symm.trans htext') hle
  refine ⟨head, old, tail, by simp [htext'], hhead, htail, hfirst, hupto, ?_⟩
  intro edit hedit
  obtain ⟨front, replaced, back, hparts, hstart, hstop, hfrontLine, hstopLine, -⟩ :=
    hplace edit hedit
  rw [← hstart, ← hstop]
  constructor
  · apply Text.byteSize_le_of_endsLine (htext.symm.trans hparts) hhead
    rwa [hfirst]
  · have hparts' : (front ++ replaced) ++ back = (head ++ old) ++ tail := by
      rw [← htext', hparts, List.append_assoc]
    apply Text.byteSize_le_of_startsBreak hparts' htail
    rwa [hupto]

theorem Spans.first_le_breaks {group : EditGroup}
    (hgroup : Spans (.ofText text) group)
    (hedits : ∀ edit ∈ group.edits, edit.EndsInLine text) :
    group.first ≤ breaks text := by
  obtain ⟨head, old, tail, htext, hcuts⟩ := hgroup.exists_cuts hedits
  rw [← hcuts.first_eq, htext, Text.breaks_append]
  exact Nat.le_add_right _ _

end EditGroup

end Untranslated
