/-!
# Program text and byte offsets

A text is a list of characters, and every position in it is a UTF-8 byte offset.  An offset is
meaningful only when it falls between two characters, so cutting a text at an offset may fail;
`slice?` succeeds exactly on the ranges that are in order, inside the text and aligned with its
characters.
-/

namespace Untranslated

abbrev Text := List Char

/-- A half-open range of byte offsets.  Nothing forces `start ≤ stop`: ranges also arrive from
outside, and an inverted one simply selects nothing. -/
structure Range where
  start : Nat
  stop : Nat
  deriving DecidableEq, Repr, Inhabited

namespace Range

def at' (offset : Nat) : Range := ⟨offset, offset⟩

/-- A range that selects no bytes; an insertion has one. -/
def isEmpty (range : Range) : Bool := range.start == range.stop

end Range

namespace Text

/-- The number of bytes a text takes in UTF-8. -/
def byteSize : Text → Nat
  | [] => 0
  | char :: chars => char.utf8Size + byteSize chars

/-- The text after its first `count` bytes, if they end between two characters. -/
def dropBytes? : Text → Nat → Option Text
  | chars, 0 => some chars
  | [], _ + 1 => none
  | char :: chars, count + 1 =>
      if char.utf8Size ≤ count + 1 then dropBytes? chars (count + 1 - char.utf8Size) else none

/-- The first `count` bytes of a text, if they end between two characters. -/
def takeBytes? : Text → Nat → Option Text
  | _, 0 => some []
  | [], _ + 1 => none
  | char :: chars, count + 1 =>
      if char.utf8Size ≤ count + 1 then
        (takeBytes? chars (count + 1 - char.utf8Size)).map (char :: ·)
      else none

/-- The part of a text that a range selects. -/
def slice? (text : Text) (range : Range) : Option Text :=
  if range.start ≤ range.stop then
    (dropBytes? text range.start).bind (takeBytes? · (range.stop - range.start))
  else none

/-- The byte offset of the first occurrence of `needle`. -/
def find? (needle : Text) : Text → Option Nat
  | [] => if needle.isEmpty then some 0 else none
  | char :: chars =>
      if needle.isPrefixOf (char :: chars) then some 0
      else (find? needle chars).map (char.utf8Size + ·)

@[simp] theorem byteSize_nil : byteSize [] = 0 := rfl

@[simp] theorem byteSize_cons (char : Char) (chars : Text) :
    byteSize (char :: chars) = char.utf8Size + byteSize chars := rfl

@[simp] theorem byteSize_append (left right : Text) :
    byteSize (left ++ right) = byteSize left + byteSize right := by
  induction left with
  | nil => simp
  | cons char chars ih => simp [ih, Nat.add_assoc]

@[simp] theorem dropBytes?_byteSize (left right : Text) :
    dropBytes? (left ++ right) left.byteSize = some right := by
  induction left with
  | nil => simp [dropBytes?]
  | cons char chars ih =>
      have hsize := char.utf8Size_pos
      obtain ⟨count, hcount⟩ : ∃ count, char.utf8Size + byteSize chars = count + 1 :=
        ⟨char.utf8Size + byteSize chars - 1, by omega⟩
      have hrest : count + 1 - char.utf8Size = byteSize chars := by omega
      have hle : char.utf8Size ≤ count + 1 := by omega
      simp [hcount, dropBytes?, hrest, hle, ih]

@[simp] theorem takeBytes?_byteSize (left right : Text) :
    takeBytes? (left ++ right) left.byteSize = some left := by
  induction left with
  | nil => simp [takeBytes?]
  | cons char chars ih =>
      have hsize := char.utf8Size_pos
      obtain ⟨count, hcount⟩ : ∃ count, char.utf8Size + byteSize chars = count + 1 :=
        ⟨char.utf8Size + byteSize chars - 1, by omega⟩
      have hrest : count + 1 - char.utf8Size = byteSize chars := by omega
      have hle : char.utf8Size ≤ count + 1 := by omega
      simp [hcount, takeBytes?, hrest, hle, ih]

/-- The range that spans `middle` in `left ++ middle ++ right` selects `middle`. -/
theorem slice?_middle (left middle right : Text) :
    slice? (left ++ middle ++ right) ⟨left.byteSize, left.byteSize + middle.byteSize⟩ =
      some middle := by
  simp [slice?, List.append_assoc]

end Text

end Untranslated
