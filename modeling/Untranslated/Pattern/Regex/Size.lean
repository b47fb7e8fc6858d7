import Untranslated.Pattern.Regex

/-!
# The size of a regular expression

An estimate of the memory that an automaton for the expression takes, in bytes.  Counted repetition
copies what it repeats, so a short expression may be too large to use; `Regex.maxSize` is the limit.
-/

namespace Untranslated.Pattern

/-- The memory of one state. -/
def stateSize : Nat := 32

/-- The number of ranges that a class is written with. -/
def CharClass.rangeCount : CharClass → Nat
  | set ranges => ranges.length
  | union left right => left.rangeCount + right.rangeCount
  | intersection left right => left.rangeCount + right.rangeCount
  | difference left right => left.rangeCount + right.rangeCount
  | symmetricDifference left right => left.rangeCount + right.rangeCount
  | complement inner => inner.rangeCount + 1
  | folded inner => inner.rangeCount

/-- One character takes a state for each of its bytes; a class takes a state for its end and about
two for each range. -/
def CharClass.size : CharClass → Nat
  | set [(first, last)] =>
      if first = last ∧ first < 0x110000 then (Char.ofNat first).utf8Size * stateSize
      else 3 * stateSize
  | other => stateSize + 2 * stateSize * other.rangeCount

namespace Regex

/-- A match takes up no text. -/
def isEmptyOnly : Regex → Bool
  | empty => true
  | one _ => false
  | assert _ => true
  | sequence first second => first.isEmptyOnly && second.isEmptyOnly
  | either left right => left.isEmptyOnly && right.isEmptyOnly
  | repeated inner _ most => inner.isEmptyOnly || most == some 0

/-- How many copies of a repeated expression are needed; one that takes up no text is never
repeated. -/
def copies (inner : Regex) (least : Nat) (most : Option Nat) : Nat :=
  let count := most.getD (max least 1)
  if inner.isEmptyOnly then min count 1 else count

def size : Regex → Nat
  | empty => stateSize
  | one set => set.size
  | assert _ => stateSize
  | sequence first second => first.size + second.size
  | either left right => left.size + right.size + stateSize
  | repeated inner least most => inner.copies least most * inner.size + stateSize

/-- The largest size of an expression that can be used: ten mebibytes. -/
def maxSize : Nat := 10 * 1024 * 1024

end Regex

end Untranslated.Pattern
