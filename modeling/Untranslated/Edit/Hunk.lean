import Untranslated.Edit.Apply
import Untranslated.Text.LineIndex

/-!
# Hunks

A hunk shows whole lines of a text before and after the edits that touch them.  Edits that share a
line share a hunk.
-/

namespace Untranslated

structure Hunk where
  /-- Where the first edit starts. -/
  position : Position
  oldLines : List Text
  newLines : List Text
  deriving DecidableEq, Repr, Inhabited

/-- Edits that touch a run of lines, counted from 0. -/
structure EditGroup where
  first : Nat
  last : Nat
  edits : List Edit
  deriving DecidableEq, Repr, Inhabited

namespace EditGroup

/-- The last line that an edit touches; an edit that ends with a line does not touch the next. -/
def lastLine (index : LineIndex) (range : Range) : Nat :=
  index.lineOf (max (range.stop - 1) range.start)

/-- Adds an edit to the groups so far, of which the latest comes first. -/
def add (index : LineIndex) (groups : List EditGroup) (edit : Edit) : List EditGroup :=
  let first := index.lineOf edit.range.start
  let last := lastLine index edit.range
  match groups with
  | group :: groups =>
      if first ≤ group.last then
        { group with last := max group.last last, edits := group.edits ++ [edit] } :: groups
      else ⟨first, last, [edit]⟩ :: group :: groups
  | [] => [⟨first, last, [edit]⟩]

/-- The groups of edits that are in order. -/
def ofEdits (index : LineIndex) (edits : List Edit) : List EditGroup :=
  (edits.foldl (add index) []).reverse

end EditGroup

/-- The edit as it reads in a text that starts at `offset` of the whole. -/
def Edit.relativeTo (offset : Nat) (edit : Edit) : Edit :=
  { edit with range := ⟨edit.range.start - offset, edit.range.stop - offset⟩ }

/-- The lines of a text, without their line breaks. -/
def Text.lines (text : Text) : List Text := text.splitLines.map dropCarriageReturn

namespace Hunk

def ofGroup (index : LineIndex) (group : EditGroup) : Hunk :=
  let start := (index.lineStart? group.first).getD 0
  let old := (Text.slice? index.text ⟨start, index.lineEnd group.last⟩).getD []
  let new := (Text.applyFixes old [⟨group.edits.map (Edit.relativeTo start)⟩]).text
  { position := index.position ((group.edits.head?.map (·.range.start)).getD start)
    oldLines := Text.lines old
    newLines := Text.lines new }

/-- The hunks that show edits, which must be in order. -/
def ofEdits (text : Text) (edits : List Edit) : List Hunk :=
  let index := LineIndex.ofText text
  (EditGroup.ofEdits index edits).map (ofGroup index)

end Hunk

end Untranslated
