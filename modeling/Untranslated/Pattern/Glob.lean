import Untranslated.Text.Basic

/-!
# Wildcard patterns for paths

`?` stands for one character, `*` for any number of them, `[...]` for one of several and `[!...]`
for one of all others.  `**` must be a whole component and stands for any number of directories.
Slashes are ordinary characters: `*` and `?` also stand for them.
-/

namespace Untranslated.Pattern

inductive GlobToken where
  | char (char : Char)
  | anyChar
  | anySequence
  | anyDirectories
  | within (ranges : List (Char × Char))
  | except (ranges : List (Char × Char))
  deriving DecidableEq, Repr, Inhabited

/-- The character that a token stands for, if it stands for just one. -/
def GlobToken.char? : GlobToken → Option Char
  | .char value => some value
  | _ => none

inductive GlobFault where
  | wildcards
  | recursiveWildcards
  | invalidRange
  deriving DecidableEq, Repr, Inhabited

/-- What is wrong with a pattern, and at which of its characters. -/
structure GlobError where
  position : Nat
  fault : GlobFault
  deriving DecidableEq, Repr, Inhabited

def GlobFault.message : GlobFault → String
  | wildcards => "wildcards are either regular `*` or recursive `**`"
  | recursiveWildcards => "recursive wildcards must form a single path component"
  | invalidRange => "invalid range pattern"

def GlobError.message (error : GlobError) : String :=
  "Pattern syntax error near position " ++ toString error.position ++ ": " ++ error.fault.message

structure Glob where
  tokens : List GlobToken
  deriving DecidableEq, Repr, Inhabited

namespace Glob

/-- The characters between brackets: single ones, and ranges written with a hyphen. -/
def ranges : List Char → List (Char × Char)
  | first :: '-' :: last :: chars => (first, last) :: ranges chars
  | char :: chars => (char, char) :: ranges chars
  | [] => []

/-- Splits the text after an opening bracket at the bracket that closes it.  A closing bracket in
first place stands for itself. -/
def splitBracket? : List Char → Option (List Char × List Char)
  | first :: chars =>
      let inside := chars.takeWhile (· != ']')
      match chars.drop inside.length with
      | _ :: rest => some (first :: inside, rest)
      | [] => none
  | [] => none

/-- Reads the token after an opening bracket. -/
def bracket? : List Char → Option (GlobToken × List Char)
  | '!' :: chars => (splitBracket? chars).map fun (inside, rest) => (.except (ranges inside), rest)
  | chars => (splitBracket? chars).map fun (inside, rest) => (.within (ranges inside), rest)

/-- Adds the token for directories, unless it only repeats the last one. -/
def addDirectories (tokens : List GlobToken) : List GlobToken :=
  if tokens.length > 1 && tokens.head? == some .anyDirectories then tokens
  else .anyDirectories :: tokens

/-- Reads tokens.  `position` counts the characters read, `before` is the last of them, and
`tokens` are those found, the last one first. -/
def read : Nat → Nat → Option Char → List GlobToken → List Char → Except GlobError Glob
  | 0, _, _, tokens, _ => .ok ⟨tokens.reverse⟩
  | _, _, _, tokens, [] => .ok ⟨tokens.reverse⟩
  | fuel + 1, position, before, tokens, char :: chars =>
      match char with
      | '?' => read fuel (position + 1) (some char) (.anyChar :: tokens) chars
      | '[' =>
          match bracket? chars with
          | none => .error ⟨position, .invalidRange⟩
          | some (token, rest) =>
              read fuel (position + 1 + (chars.length - rest.length)) (some ']') (token :: tokens)
                rest
      | '*' =>
          let stars := chars.takeWhile (· == '*')
          let rest := chars.drop stars.length
          match stars with
          | [] => read fuel (position + 1) (some char) (.anySequence :: tokens) rest
          | [_] =>
              if before.isSome && before != some '/' then
                .error ⟨position - 1, .recursiveWildcards⟩
              else
                match rest with
                | [] => .ok ⟨(addDirectories tokens).reverse⟩
                | '/' :: rest => read fuel (position + 3) (some '/') (addDirectories tokens) rest
                | _ => .error ⟨position + 2, .recursiveWildcards⟩
          | _ => .error ⟨position + 2, .wildcards⟩
      | _ => read fuel (position + 1) (some char) (.char char :: tokens) chars

def parse (pattern : String) : Except GlobError Glob :=
  read (pattern.length + 1) 0 none [] pattern.toList

/-- All ends of a text, from the text itself to nothing. -/
def suffixes : List Char → List (List Char)
  | [] => [[]]
  | char :: chars => (char :: chars) :: suffixes chars

/-- The ends of a text that follow a slash. -/
def afterSlashes : List Char → List (List Char)
  | [] => []
  | char :: chars => if char = '/' then chars :: afterSlashes chars else afterSlashes chars

def inRanges (ranges : List (Char × Char)) (char : Char) : Bool :=
  ranges.any fun (first, last) => first ≤ char && char ≤ last

/-- Whether tokens stand for exactly a text.  `**` covers whole components, or all that is left. -/
def matchTokens : List GlobToken → List Char → Bool
  | [], text => text.isEmpty
  | .anySequence :: tokens, text => (suffixes text).any (matchTokens tokens)
  | .anyDirectories :: tokens, text =>
      matchTokens tokens text || (afterSlashes text).any (matchTokens tokens) ||
        matchTokens tokens []
  | _ :: _, [] => false
  | .char expected :: tokens, char :: text => expected == char && matchTokens tokens text
  | .anyChar :: tokens, _ :: text => matchTokens tokens text
  | .within ranges :: tokens, char :: text => inRanges ranges char && matchTokens tokens text
  | .except ranges :: tokens, char :: text => !inRanges ranges char && matchTokens tokens text

def isMatch (glob : Glob) (text : String) : Bool := matchTokens glob.tokens text.toList

/-- The one text that a pattern without wildcards stands for. -/
def literal? (glob : Glob) : Option String :=
  (glob.tokens.mapM GlobToken.char?).map String.ofList

/-- Whether a pattern reaches into any number of directories. -/
def isRecursive (glob : Glob) : Bool := glob.tokens.contains .anyDirectories

/-- Whether a text is meant as a pattern rather than as one path. -/
def isGlob (text : String) : Bool := text.toList.any fun char => char == '*' || char == '?'

end Glob

end Untranslated.Pattern
