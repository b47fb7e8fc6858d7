import Untranslated.Text.Basic

/-!
# Blank characters

The characters with the Unicode property `White_Space`, and the operations that treat them as
insignificant: trimming a text, and reading its lines.
-/

namespace Untranslated

/-- The 25 code points with the property `White_Space`. -/
def isBlank (char : Char) : Bool :=
  let code := char.toNat
  (0x9 ≤ code && code ≤ 0xD) || code == 0x20 || code == 0x85 || code == 0xA0 || code == 0x1680 ||
    (0x2000 ≤ code && code ≤ 0x200A) || code == 0x2028 || code == 0x2029 || code == 0x202F ||
    code == 0x205F || code == 0x3000

namespace Text

def trimStart (text : Text) : Text := text.dropWhile isBlank

def trimEnd (text : Text) : Text := (text.reverse.dropWhile isBlank).reverse

/-- The text without the blanks at its two ends. -/
def trim (text : Text) : Text := trimEnd (trimStart text)

/-- The pieces of a text between line feeds; there is always at least one. -/
def splitLines : Text → List Text
  | [] => [[]]
  | char :: chars =>
      if char = '\n' then [] :: splitLines chars
      else
        match splitLines chars with
        | [] => [[char]]
        | line :: lines => (char :: line) :: lines

/-- A line without the carriage return that ends it, if one does. -/
def dropCarriageReturn (line : Text) : Text :=
  if line.getLast? = some '\r' then line.dropLast else line

/-- The lines of a text, without the line feeds that end them and the carriage returns before those.
What follows the last line feed is a line only if there is anything. -/
def contentLines (text : Text) : List Text :=
  let pieces := text.splitLines
  pieces.dropLast.map dropCarriageReturn ++ (pieces.getLast?.filter (!·.isEmpty)).toList

end Text

end Untranslated
