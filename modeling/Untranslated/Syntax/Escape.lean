import Untranslated.Syntax.Cursor

/-!
# Escape sequences

What a backslash stands for in string and template literals.  A literal denotes a list of code
points, because an escape may name a surrogate that no character has; `decodeLossy` turns such a
list into text.
-/

namespace Untranslated.Syntax

open CharSet (hexDigit?)

/-- The number that a run of hexadecimal digits up to a closing brace spells. -/
def readBracedHex : Text → Nat → Nat → Option (Nat × Cursor)
  | [], _, _ => none
  | char :: chars, offset, value =>
      if char = '}' then some (value, ⟨chars, offset + 1⟩)
      else
        match hexDigit? char with
        | none => none
        | some digit =>
            if value * 16 + digit ≤ 0x10FFFF then
              readBracedHex chars (offset + 1) (value * 16 + digit)
            else none

/-- The code point after `\u`: four digits, or any number of digits in braces. -/
def readUnicodeEscape (cursor : Cursor) : Option (Nat × Cursor) :=
  match cursor.rest with
  | '{' :: '}' :: _ => none
  | '{' :: chars => readBracedHex chars (cursor.offset + 1) 0
  | a :: b :: c :: d :: chars => do
      let a ← hexDigit? a
      let b ← hexDigit? b
      let c ← hexDigit? c
      let d ← hexDigit? d
      return (((a * 16 + b) * 16 + c) * 16 + d, ⟨chars, cursor.offset + 4⟩)
  | _ => none

def octalDigit? (char : Char) : Option Nat :=
  if '0' ≤ char ∧ char ≤ '7' then some (char.toNat - '0'.toNat) else none

/-- At most `count` more octal digits, as long as the value fits in a byte. -/
def readOctal : Nat → Nat → Text → Nat → Nat × Cursor
  | 0, value, chars, offset => (value, ⟨chars, offset⟩)
  | _ + 1, value, [], offset => (value, ⟨[], offset⟩)
  | count + 1, value, char :: chars, offset =>
      match octalDigit? char with
      | none => (value, ⟨char :: chars, offset⟩)
      | some digit =>
          if value * 8 + digit ≤ 255 then readOctal count (value * 8 + digit) chars (offset + 1)
          else (value, ⟨char :: chars, offset⟩)

/-- The escapes of one letter. -/
def letterEscape? : Char → Option Nat
  | 'n' => some 10
  | 't' => some 9
  | 'r' => some 13
  | 'b' => some 8
  | 'f' => some 12
  | 'v' => some 11
  | _ => none

/-- Reads what stands after a backslash.  A line terminator denotes nothing, and a character that
starts no escape denotes itself.  Octal escapes are refused in templates. -/
def readEscape (inTemplate : Bool) (cursor : Cursor) : Option (List Nat × Cursor) :=
  match cursor.rest with
  | [] => none
  | '\r' :: '\n' :: chars => some ([], ⟨chars, cursor.offset + 2⟩)
  | 'x' :: chars =>
      match chars with
      | high :: low :: chars => do
          let high ← hexDigit? high
          let low ← hexDigit? low
          return ([high * 16 + low], ⟨chars, cursor.offset + 3⟩)
      | _ => none
  | 'u' :: chars =>
      (readUnicodeEscape ⟨chars, cursor.offset + 1⟩).map fun (code, after) => ([code], after)
  | char :: chars =>
      let after : Cursor := ⟨chars, cursor.offset + char.utf8Size⟩
      match letterEscape? char, octalDigit? char with
      | some code, _ => some ([code], after)
      | none, some digit =>
          let more := (chars.head?.bind octalDigit?).isSome
          if digit = 0 && !more then some ([0], after)
          else if inTemplate then none
          else
            let (value, after) := readOctal 2 digit chars (cursor.offset + 1)
            some ([value], after)
      | none, none => if isLineEnd char then some ([], after) else some ([char.toNat], after)

/-- Reads a string literal after its opening quote, up to and including the closing one.  A line
break or the end of the text ends the literal too. -/
def readStringBody (quote : Char) : Nat → Cursor → Option (List Nat × Cursor)
  | 0, _ => none
  | fuel + 1, cursor =>
      match cursor.rest with
      | [] => some ([], cursor)
      | char :: chars =>
          let after : Cursor := ⟨chars, cursor.offset + char.utf8Size⟩
          if char = quote then some ([], after)
          else if char = '\n' ∨ char = '\r' then some ([], cursor)
          else if char = '\\' then do
            let (codes, after) ← readEscape false after
            let (more, after) ← readStringBody quote fuel after
            return (codes ++ more, after)
          else do
            let (more, after) ← readStringBody quote fuel after
            return (char.toNat :: more, after)

/-- The code points that the raw text of a template segment stands for; every line break counts
as a line feed. -/
def cookBody : Nat → Text → Option (List Nat)
  | 0, _ => none
  | _ + 1, [] => some []
  | fuel + 1, '\\' :: chars => do
      let (codes, after) ← readEscape true ⟨chars, 0⟩
      let more ← cookBody fuel after.rest
      return codes ++ more
  | fuel + 1, '\r' :: '\n' :: chars => (cookBody fuel chars).map (10 :: ·)
  | fuel + 1, '\r' :: chars => (cookBody fuel chars).map (10 :: ·)
  | fuel + 1, char :: chars => (cookBody fuel chars).map (char.toNat :: ·)

/-- The cooked value of a template segment, if all its escapes are legal. -/
def cook? (raw : Text) : Option (List Nat) := cookBody (raw.length + 1) raw

/-- Joins each high surrogate with a low one that follows it. -/
def joinSurrogates : List Nat → List Nat
  | high :: low :: codes =>
      if 0xD800 ≤ high ∧ high < 0xDC00 ∧ 0xDC00 ≤ low ∧ low < 0xE000 then
        (0x10000 + (high - 0xD800) * 0x400 + (low - 0xDC00)) :: joinSurrogates codes
      else high :: joinSurrogates (low :: codes)
  | codes => codes

/-- The character with a code point; a surrogate has none. -/
def charOfCode? (code : Nat) : Option Char :=
  if code.isValidChar then some (Char.ofNat code) else none

/-- The text of a list of code points, when it has no lone surrogate. -/
def decodeExact? (codes : List Nat) : Option Text := (joinSurrogates codes).mapM charOfCode?

/-- The text of a list of code points, with U+FFFD for a lone surrogate. -/
def decodeLossy (codes : List Nat) : Text :=
  (joinSurrogates codes).map fun code => (charOfCode? code).getD '�'

end Untranslated.Syntax
