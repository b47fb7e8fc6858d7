/-!
# Sets of characters

A set of code points is a list of inclusive ranges.  Tables of character properties are kept as
plain text and read by `ofTable`: `41` is one code point, `41-5A` a range of them, and `100~12E`
every second one of a range.
-/

namespace Untranslated

/-- Inclusive ranges of code points. -/
abbrev CharSet := List (Nat × Nat)

namespace CharSet

def hasCode (set : CharSet) (code : Nat) : Bool :=
  set.any fun range => range.1 ≤ code && code ≤ range.2

def has (set : CharSet) (char : Char) : Bool := set.hasCode char.toNat

/-- The part of a range that lies outside another one. -/
def rangeWithout (range other : Nat × Nat) : CharSet :=
  if other.2 < range.1 || range.2 < other.1 then [range]
  else
    (if range.1 < other.1 then [(range.1, other.1 - 1)] else []) ++
      (if other.2 < range.2 then [(other.2 + 1, range.2)] else [])

/-- The code points of a set that are not in another one. -/
def without (set removed : CharSet) : CharSet :=
  removed.foldl (fun set other => set.flatMap (rangeWithout · other)) set

/-- The value of a hexadecimal digit. -/
def hexDigit? (char : Char) : Option Nat :=
  if '0' ≤ char ∧ char ≤ '9' then some (char.toNat - '0'.toNat)
  else if 'a' ≤ char ∧ char ≤ 'f' then some (char.toNat - 'a'.toNat + 10)
  else if 'A' ≤ char ∧ char ≤ 'F' then some (char.toNat - 'A'.toNat + 10)
  else none

/-- How the number before stands to the one being read. -/
inductive Link where
  | none
  | through (first : Nat)
  | everySecond (first : Nat)

/-- The ranges that a link and the number that follows it stand for. -/
def Link.ranges (link : Link) (last : Nat) : CharSet :=
  match link with
  | .none => [(last, last)]
  | .through first => [(first, last)]
  | .everySecond first =>
      (List.range ((last - first) / 2 + 1)).map fun index => (first + 2 * index, first + 2 * index)

/-- Reads a table; `value` is the number read so far, if there is one. -/
def readTable : List Char → Link → Option Nat → CharSet
  | [], _, .none => []
  | [], link, .some value => link.ranges value
  | char :: chars, link, value =>
      match hexDigit? char, value with
      | .some digit, _ => readTable chars link (some (value.getD 0 * 16 + digit))
      | .none, .none => readTable chars link .none
      | .none, .some value =>
          if char = '-' then readTable chars (.through value) .none
          else if char = '~' then readTable chars (.everySecond value) .none
          else link.ranges value ++ readTable chars .none .none

/-- The set that a table describes. -/
def ofTable (table : String) : CharSet := readTable table.toList .none none

end CharSet

end Untranslated
