import Untranslated.Text.Basic
import Untranslated.Text.CharSet
import Untranslated.Syntax.Identifier

/-!
# Reading position

A cursor is the text that is still to be read together with the byte offset at which it starts.
-/

namespace Untranslated.Syntax

structure Cursor where
  rest : Text
  offset : Nat
  deriving Inhabited

namespace Cursor

/-- Steps over the first character. -/
def skip (cursor : Cursor) : Cursor :=
  match cursor.rest with
  | [] => cursor
  | char :: chars => ⟨chars, cursor.offset + char.utf8Size⟩

/-- Steps over as many characters as `count` says. -/
def skipMany (cursor : Cursor) : Nat → Cursor
  | 0 => cursor
  | count + 1 => cursor.skip.skipMany count

/-- Steps over the characters that satisfy the predicate. -/
def skipWhile (keep : Char → Bool) (cursor : Cursor) : Cursor :=
  go cursor.rest cursor.offset
where
  go : Text → Nat → Cursor
    | [], offset => ⟨[], offset⟩
    | char :: chars, offset =>
        if keep char then go chars (offset + char.utf8Size) else ⟨char :: chars, offset⟩

end Cursor

/-- The line terminators of the language. -/
def isLineEnd (char : Char) : Bool :=
  char == '\n' || char == '\r' || char.toNat == 0x2028 || char.toNat == 0x2029

/-- The white space of the language that is not a line terminator. -/
def isSpace (char : Char) : Bool :=
  let code := char.toNat
  code == 0x20 || code == 0x9 || code == 0xB || code == 0xC || code == 0xA0 || code == 0xFEFF ||
    code == 0x1680 || (0x2000 ≤ code && code ≤ 0x200A) || code == 0x202F || code == 0x205F ||
    code == 0x3000

end Untranslated.Syntax
