import Untranslated.Pattern.CharClass

/-!
# Regular expressions

A regular expression and the positions at which a match that starts at a given position may end.
Only the existence of a match matters here, so a match is a set of end positions and no preference
among them is recorded.
-/

namespace Untranslated.Pattern

/-- A position in a text: the character before it and the text after it. -/
structure Place where
  before : Option Char
  rest : Text
  deriving DecidableEq, Repr, Inhabited

/-- What may be demanded of a position. -/
inductive Assertion where
  | textStart
  | textEnd
  | lineStart (crlf : Bool)
  | lineEnd (crlf : Bool)
  | wordBoundary (ascii negated : Bool)
  | wordStart (ascii : Bool)
  | wordEnd (ascii : Bool)
  | wordStartHalf (ascii : Bool)
  | wordEndHalf (ascii : Bool)
  deriving DecidableEq, Repr, Inhabited

inductive Regex where
  | empty
  | one (set : CharClass)
  | assert (assertion : Assertion)
  | sequence (first second : Regex)
  | either (left right : Regex)
  /-- Between `least` and `most` times, or any number of times from `least` on. -/
  | repeated (inner : Regex) (least : Nat) (most : Option Nat)
  deriving Repr, Inhabited

def isWordChar (ascii : Bool) (char : Char) : Bool :=
  if ascii || char.toNat < 0x80 then asciiWordChars.has char else wordChars.has char

namespace Assertion

/-- The assertion holds at the position. -/
def holds (assertion : Assertion) (place : Place) : Bool :=
  let word (ascii : Bool) (char : Option Char) : Bool := (char.map (isWordChar ascii)).getD false
  let before := place.before
  let after := place.rest.head?
  match assertion with
  | textStart => before.isNone
  | textEnd => after.isNone
  | lineStart false => before.isNone || before == some '\n'
  | lineStart true =>
      before.isNone || before == some '\n' || (before == some '\r' && after != some '\n')
  | lineEnd false => after.isNone || after == some '\n'
  | lineEnd true =>
      after.isNone || after == some '\r' || (after == some '\n' && before != some '\r')
  | wordBoundary ascii negated => (word ascii before != word ascii after) != negated
  | wordStart ascii => !word ascii before && word ascii after
  | wordEnd ascii => word ascii before && !word ascii after
  | wordStartHalf ascii => !word ascii before
  | wordEndHalf ascii => !word ascii after

end Assertion

namespace Regex

/-- Adds positions to a list without repeating one; a position is known by what remains after it. -/
def addPlaces (known : List (Nat × Place)) : List (Nat × Place) → List (Nat × Place)
  | [] => known
  | place :: places =>
      if known.any (·.1 == place.1) then addPlaces known places
      else addPlaces (known ++ [place]) places

/-- Follows a step from every position of a list. -/
def stepAll (step : Nat × Place → List (Nat × Place)) (places : List (Nat × Place)) :
    List (Nat × Place) :=
  places.foldl (fun found place => addPlaces found (step place)) []

/-- Follows a step exactly `count` times; once a step leads nowhere new, neither do more. -/
def stepTimes (step : Nat × Place → List (Nat × Place)) :
    Nat → List (Nat × Place) → List (Nat × Place)
  | 0, places => places
  | count + 1, places =>
      let reached := stepAll step places
      if reached.map (·.1) == places.map (·.1) then places else stepTimes step count reached

/-- Follows a step at most `count` times, going on only from positions that were not reached
before. -/
def stepUpTo (step : Nat × Place → List (Nat × Place)) :
    Nat → List (Nat × Place) → List (Nat × Place) → List (Nat × Place)
  | 0, known, _ => known
  | count + 1, known, fresh =>
      if fresh.isEmpty then known
      else
        let reached := (stepAll step fresh).filter fun place => !known.any (·.1 == place.1)
        stepUpTo step count (known ++ reached) reached

/-- The positions at which a match that starts at a position may end.  Each position is paired
with the number of characters after it. -/
def ends : Regex → Nat × Place → List (Nat × Place)
  | empty, place => [place]
  | one set, (count, place) =>
      match place.rest with
      | [] => []
      | char :: rest => if set.has char then [(count - 1, ⟨some char, rest⟩)] else []
  | assert assertion, (count, place) => if assertion.holds place then [(count, place)] else []
  | sequence first second, place => stepAll (ends second) (ends first place)
  | either left right, place => addPlaces (addPlaces [] (ends left place)) (ends right place)
  | repeated inner least most, place =>
      let start := stepTimes (ends inner) least [place]
      let more := match most with
        | none => place.1 + 1
        | some most => most - least
      stepUpTo (ends inner) more start start

/-- A match starts at the position. -/
def matchesAt (regex : Regex) (place : Nat × Place) : Bool := !(regex.ends place).isEmpty

/-- A match starts at the position or at a later one. -/
def searchFrom (regex : Regex) (before : Option Char) : Nat → Text → Bool
  | count, [] => regex.matchesAt (count, ⟨before, []⟩)
  | count, char :: rest =>
      regex.matchesAt (count, ⟨before, char :: rest⟩) || searchFrom regex (some char) (count - 1) rest

/-- The text holds a match. -/
def isMatch (regex : Regex) (text : Text) : Bool := regex.searchFrom none text.length text

end Regex

end Untranslated.Pattern
