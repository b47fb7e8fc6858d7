import Untranslated.Text.Blank

/-!
# Lines of a text

A line index knows where the lines of a text start, and turns byte offsets into the line and
column that a person would name.  Lines end at line feeds and are numbered from 0; positions,
which are shown, count lines and columns from 1.
-/

namespace Untranslated

structure LineIndex where
  text : Text
  /-- The offset of every line's first byte, in order; the first is 0. -/
  starts : List Nat
  deriving DecidableEq, Repr, Inhabited

structure Position where
  line : Nat
  column : Nat
  deriving DecidableEq, Repr, Inhabited

namespace LineIndex

/-- The offsets after the line feeds of a text that itself starts at `offset`. -/
def startsAfter : Nat → Text → List Nat
  | _, [] => []
  | offset, char :: chars =>
      let next := offset + char.utf8Size
      if char = '\n' then next :: startsAfter next chars else startsAfter next chars

def ofText (text : Text) : LineIndex := ⟨text, 0 :: startsAfter 0 text⟩

def lineCount (index : LineIndex) : Nat := index.starts.length

/-- The line that holds the byte at `offset`; beyond the text, the last one. -/
def lineOf (index : LineIndex) (offset : Nat) : Nat :=
  (index.starts.takeWhile (· ≤ offset)).length - 1

def lineStart? (index : LineIndex) (line : Nat) : Option Nat := index.starts[line]?

/-- The offset of the line feed that ends a line; the last line ends with the text. -/
def lineEnd (index : LineIndex) (line : Nat) : Nat :=
  match index.lineStart? (line + 1) with
  | some next => next - 1
  | none => Text.byteSize index.text

/-- The text of a line without its line break; a line that does not exist is empty. -/
def lineText (index : LineIndex) (line : Nat) : Text :=
  match index.lineStart? line with
  | none => []
  | some start =>
      ((Text.slice? index.text ⟨start, index.lineEnd line⟩).map Text.dropCarriageReturn).getD []

/-- The line and column of an offset, where a column is one character.  An offset that does not
fall between two characters counts as the first column of its line. -/
def position (index : LineIndex) (offset : Nat) : Position :=
  let line := index.lineOf offset
  let start := (index.lineStart? line).getD 0
  let before := ((Text.slice? index.text ⟨start, offset⟩).map List.length).getD 0
  ⟨line + 1, before + 1⟩

end LineIndex

/-- A position in a file, with the line that it points into. -/
structure Excerpt where
  path : String
  position : Position
  sourceLine : Text
  deriving DecidableEq, Repr, Inhabited

/-- The excerpt that shows what stands at an offset. -/
def LineIndex.excerpt (index : LineIndex) (path : String) (offset : Nat) : Excerpt :=
  let position := index.position offset
  ⟨path, position, index.lineText (position.line - 1)⟩

end Untranslated
