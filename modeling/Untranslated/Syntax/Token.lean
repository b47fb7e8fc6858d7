import Untranslated.Syntax.Escape

/-!
# Tokens

The scanner reads one token at a time and never looks at the grammar: a slash is always an
operator, and a backquote or a closing brace is just that character.  Where the grammar calls for
a regular expression, template text or JSX, the parser reads it from the token's position.
-/

namespace Untranslated.Syntax

inductive Token where
  | eof
  /-- An identifier or a keyword; `plain` tells that it is written without escapes, as every
  keyword must be. -/
  | word (name : String) (plain : Bool)
  | privateName
  | punctuator (symbol : String)
  | number
  | string (codes : List Nat)
  | invalid
  deriving DecidableEq, Repr, Inhabited

inductive Trivia where
  | blank
  | lineComment
  | blockComment

/-- Skips white space and comments, and tells whether a line break was among them; there is no
result if a block comment is never closed. -/
def skipTrivia : Trivia → Text → Nat → Bool → Option (Cursor × Bool)
  | .blockComment, [], _, _ => none
  | _, [], offset, newline => some (⟨[], offset⟩, newline)
  | .blank, '/' :: '/' :: chars, offset, newline => skipTrivia .lineComment chars (offset + 2) newline
  | .blank, '/' :: '*' :: chars, offset, newline => skipTrivia .blockComment chars (offset + 2) newline
  | .blank, char :: chars, offset, newline =>
      if isLineEnd char then skipTrivia .blank chars (offset + char.utf8Size) true
      else if isSpace char then skipTrivia .blank chars (offset + char.utf8Size) newline
      else some (⟨char :: chars, offset⟩, newline)
  | .lineComment, char :: chars, offset, newline =>
      if isLineEnd char then skipTrivia .blank chars (offset + char.utf8Size) true
      else skipTrivia .lineComment chars (offset + char.utf8Size) newline
  | .blockComment, '*' :: '/' :: chars, offset, newline => skipTrivia .blank chars (offset + 2) newline
  | .blockComment, char :: chars, offset, newline =>
      skipTrivia .blockComment chars (offset + char.utf8Size) (newline || isLineEnd char)

/-- Punctuators, longer ones before their own beginnings. -/
def punctuators : List String := [
  ">>>=", "...", "===", "!==", "**=", "<<=", ">>=", ">>>", "&&=", "||=", "??=",
  "=>", "==", "!=", "<=", ">=", "&&", "||", "??", "?.", "++", "--", "+=", "-=", "*=", "/=", "%=",
  "&=", "|=", "^=", "<<", ">>", "**",
  "\x7b", "\x7d", "(", ")", "[", "]", ";", ",", "<", ">", "+", "-", "*", "/", "%", "&", "|", "^",
  "!", "~", "?", ":", "=", ".", "@", "#", "`"]

def punctuatorSpellings : List (Text × String) :=
  punctuators.map fun symbol => (symbol.toList, symbol)

/-- The longest punctuator at the start of a text.  `?.` before a digit is a lone question mark:
the point belongs to the number. -/
def punctuator? (text : Text) : Option String :=
  match text with
  | '?' :: '.' :: digit :: _ => if digit.isDigit then some "?" else some "?."
  | _ => (punctuatorSpellings.find? fun spelling => spelling.1.isPrefixOf text).map (·.2)

/-- Reads the rest of a word; the characters already read are in `seen`, last one first. -/
def scanWord : Nat → Cursor → Text → Bool → Option (Text × Bool × Cursor)
  | 0, _, _, _ => none
  | fuel + 1, cursor, seen, plain =>
      match cursor.rest with
      | '\\' :: 'u' :: chars =>
          match readUnicodeEscape ⟨chars, cursor.offset + 2⟩ with
          | some (code, after) =>
              match charOfCode? code with
              | some char =>
                  if isIdentifierPart char then scanWord fuel after (char :: seen) false else none
              | none => none
          | none => none
      | char :: chars =>
          if isIdentifierPart char then
            scanWord fuel ⟨chars, cursor.offset + char.utf8Size⟩ (char :: seen) plain
          else some (seen.reverse, plain, cursor)
      | [] => some (seen.reverse, plain, cursor)

def isDigitOrSeparator (char : Char) : Bool := char.isDigit || char == '_'

/-- The digits of the base that a letter after a leading zero chooses. -/
def baseDigits? (mark : Char) : Option (Char → Bool) :=
  if mark == 'x' || mark == 'X' then some fun char => (CharSet.hexDigit? char).isSome
  else if mark == 'o' || mark == 'O' then some fun char => '0' ≤ char && char ≤ '7'
  else if mark == 'b' || mark == 'B' then some fun char => char == '0' || char == '1'
  else none

/-- Steps over an exponent part, if there is one. -/
def skipExponent (cursor : Cursor) : Cursor :=
  match cursor.rest with
  | mark :: sign :: digit :: _ =>
      if mark == 'e' || mark == 'E' then
        if (sign == '+' || sign == '-') && digit.isDigit then
          (cursor.skipMany 2).skipWhile isDigitOrSeparator
        else if sign.isDigit then cursor.skip.skipWhile isDigitOrSeparator
        else cursor
      else cursor
  | mark :: digit :: _ =>
      if (mark == 'e' || mark == 'E') && digit.isDigit then
        cursor.skip.skipWhile isDigitOrSeparator
      else cursor
  | _ => cursor

/-- Steps over a decimal number that starts at the cursor. -/
def skipDecimal (cursor : Cursor) : Cursor :=
  let whole := cursor.skipWhile isDigitOrSeparator
  if whole.rest.head? = some 'n' then whole.skip
  else if whole.rest.head? = some '.' then
    skipExponent (whole.skip.skipWhile isDigitOrSeparator)
  else skipExponent whole

/-- Steps over digits of a base other than ten; there must be at least one. -/
def skipBaseDigits (isDigit : Char → Bool) (cursor : Cursor) : Option Cursor :=
  let after := cursor.skipWhile fun char => isDigit char || char == '_'
  if after.offset == cursor.offset then none
  else if after.rest.head? = some 'n' then some after.skip
  else some after

/-- Steps over a number that starts at the cursor. -/
def skipNumber (cursor : Cursor) : Option Cursor :=
  match cursor.rest with
  | '0' :: mark :: _ =>
      match baseDigits? mark with
      | some isDigit => skipBaseDigits isDigit (cursor.skipMany 2)
      | none => some (skipDecimal cursor)
  | _ => some (skipDecimal cursor)

/-- A number must not run into an identifier. -/
def scanNumber (cursor : Cursor) : Token × Cursor :=
  match skipNumber cursor with
  | none => (.invalid, cursor.skip)
  | some after =>
      match after.rest with
      | char :: _ => if isIdentifierStart char then (.invalid, after.skip) else (.number, after)
      | [] => (.number, after)

/-- Reads the token at the cursor; `limit` is at least the number of characters left. -/
def scanToken (limit : Nat) (cursor : Cursor) : Token × Cursor :=
  match cursor.rest with
  | [] => (.eof, cursor)
  | char :: chars =>
      let after : Cursor := ⟨chars, cursor.offset + char.utf8Size⟩
      if isIdentifierStart char || char == '\\' then
        match scanWord (limit + 1) cursor [] true with
        | some (name, plain, after) =>
            if name.isEmpty then (.invalid, after.skip) else (.word (String.ofList name) plain, after)
        | none => (.invalid, after)
      else if char == '\'' || char == '"' then
        match readStringBody char (limit + 1) after with
        | some (codes, after) => (.string codes, after)
        | none => (.invalid, after)
      else if char.isDigit then scanNumber cursor
      else if char == '.' && (chars.head?.map Char.isDigit).getD false then scanNumber cursor
      else if char == '#' then
        match scanWord (limit + 1) after [] true with
        | some (name, _, after) => if name.isEmpty then (.invalid, after) else (.privateName, after)
        | none => (.invalid, after)
      else
        match punctuator? cursor.rest with
        | some symbol => (.punctuator symbol, cursor.skipMany symbol.length)
        | none => (.invalid, after)

end Untranslated.Syntax
