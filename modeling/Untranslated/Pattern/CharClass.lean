import Untranslated.Pattern.Property
import Untranslated.Pattern.Fold

/-!
# Character classes

A class is built from sets of characters by the operations that patterns offer, and decided for one
character at a time.
-/

namespace Untranslated.Pattern

inductive CharClass where
  | set (ranges : CharSet)
  | union (left right : CharClass)
  | intersection (left right : CharClass)
  | difference (left right : CharClass)
  | symmetricDifference (left right : CharClass)
  | complement (inner : CharClass)
  /-- The characters that equal one of the class up to case. -/
  | folded (inner : CharClass)
  deriving Repr, Inhabited

namespace CharClass

def hasCode : CharClass → Nat → Bool
  | set ranges, code => ranges.hasCode code
  | union left right, code => left.hasCode code || right.hasCode code
  | intersection left right, code => left.hasCode code && right.hasCode code
  | difference left right, code => left.hasCode code && !right.hasCode code
  | symmetricDifference left right, code => left.hasCode code != right.hasCode code
  | complement inner, code => !inner.hasCode code
  | folded inner, code => (foldOrbit code).any inner.hasCode

def has (set : CharClass) (char : Char) : Bool := set.hasCode char.toNat

/-- A class of one character. -/
def char (char : Char) : CharClass := set [(char.toNat, char.toNat)]

def ofProperty : Property → CharClass
  | .having ranges => set ranges
  | .lacking ranges => complement (set ranges)

/-- Negates a class if told to. -/
def negatedIf (negated : Bool) (inner : CharClass) : CharClass :=
  if negated then complement inner else inner

/-- Makes a class blind to case if told to. -/
def foldedIf (fold : Bool) (inner : CharClass) : CharClass :=
  if fold then folded inner else inner

end CharClass

/-- The ASCII classes that brackets may name. -/
def asciiClass? : String → Option CharSet
  | "alnum" => some [(0x30, 0x39), (0x41, 0x5A), (0x61, 0x7A)]
  | "alpha" => some [(0x41, 0x5A), (0x61, 0x7A)]
  | "ascii" => some [(0, 0x7F)]
  | "blank" => some [(0x9, 0x9), (0x20, 0x20)]
  | "cntrl" => some [(0, 0x1F), (0x7F, 0x7F)]
  | "digit" => some [(0x30, 0x39)]
  | "graph" => some [(0x21, 0x7E)]
  | "lower" => some [(0x61, 0x7A)]
  | "print" => some [(0x20, 0x7E)]
  | "punct" => some [(0x21, 0x2F), (0x3A, 0x40), (0x5B, 0x60), (0x7B, 0x7E)]
  | "space" => some [(0x9, 0xD), (0x20, 0x20)]
  | "upper" => some [(0x41, 0x5A)]
  | "word" => some [(0x30, 0x39), (0x41, 0x5A), (0x5F, 0x5F), (0x61, 0x7A)]
  | "xdigit" => some [(0x30, 0x39), (0x41, 0x46), (0x61, 0x66)]
  | _ => none

def asciiWordChars : CharSet := [(0x30, 0x39), (0x41, 0x5A), (0x5F, 0x5F), (0x61, 0x7A)]

end Untranslated.Pattern
