import Untranslated.Text.Basic

/-!
# Edits

An edit replaces a range of a text; with an empty range it inserts.  A fix is a list of edits that
make sense only together.
-/

namespace Untranslated

structure Edit where
  range : Range
  replacement : Text
  deriving DecidableEq, Repr, Inhabited

structure Fix where
  edits : List Edit
  deriving DecidableEq, Repr, Inhabited

/-- Whether two ranges claim a common byte.  Two insertions collide when they are at one place,
because their order would be a guess. -/
def Range.overlaps (a b : Range) : Bool :=
  if a.isEmpty && b.isEmpty then a.start == b.start
  else decide (a.start < b.stop) && decide (b.start < a.stop)

/-- The order of ranges by where they start, then by where they end. -/
def Range.before (a b : Range) : Bool :=
  decide (a.start < b.start) || (a.start == b.start && decide (a.stop ≤ b.stop))

namespace Edit

def insertAt (offset : Nat) (replacement : Text) : Edit := ⟨.at' offset, replacement⟩

def isInsertion (edit : Edit) : Bool := edit.range.isEmpty

end Edit

namespace Fix

def isEmpty (fix : Fix) : Bool := fix.edits.isEmpty

end Fix

/-- The text with a range of it replaced; nothing if the range selects no part of the text. -/
def Text.replace? (text : Text) (edit : Edit) : Option Text :=
  if edit.range.start ≤ edit.range.stop then do
    let front ← takeBytes? text edit.range.start
    let back ← dropBytes? text edit.range.stop
    return front ++ edit.replacement ++ back
  else none

end Untranslated
