import Untranslated.Text.CharSet
import Untranslated.Text.Basic

/-!
# Reading JSON

A reader takes what it expects from the front of a text.  It fails in one of three ways: the text
ends too early, it is not JSON, or it is JSON of another type than expected.  Reading stops at the
first fault, so which of two faults is reported depends only on their order.

Values that nobody asked for can be skipped; they are checked for form only, however deep they
nest.
-/

namespace Untranslated.Json

inductive Error where
  | unexpectedEnd
  | malformed
  | wrongType
  deriving DecidableEq, Repr, Inhabited

def Error.message : Error → String
  | unexpectedEnd => "the text ends in the middle of a value"
  | malformed => "the text is not JSON"
  | wrongType => "a value has an unexpected type"

abbrev Reader (α : Type) := StateT Text (Except Error) α

namespace Reader

def fail {α : Type} (error : Error) : Reader α := throw error

def isSpace (char : Char) : Bool := char == ' ' || char == '\n' || char == '\t' || char == '\r'

/-- The next character after spaces, if there is one; it is left. -/
def peek? : Reader (Option Char) := do
  let rest := (← get).dropWhile isSpace
  set rest
  return rest.head?

/-- Drops one character. -/
def advance : Reader Unit := modify (·.drop 1)

/-- Reads exactly the given characters. -/
def exactly : Text → Reader Unit
  | [] => return
  | char :: chars => do
      match ← get with
      | [] => fail .unexpectedEnd
      | next :: rest =>
          if next = char then
            set rest
            exactly chars
          else fail .malformed

/-! ### Strings -/

/-- Four hexadecimal digits. -/
def hexUnit : Reader Nat := do
  let text ← get
  if Text.byteSize text < 4 then fail .unexpectedEnd
  match (text.take 4).mapM CharSet.hexDigit? with
  | some [a, b, c, d] =>
      set (text.drop 4)
      return ((a * 16 + b) * 16 + c) * 16 + d
  | _ => fail .malformed

/-- The character of an escape `\u`, whose two halves may come apart. -/
def unicodeEscape : Reader Char := do
  let unit ← hexUnit
  if 0xDC00 ≤ unit && unit ≤ 0xDFFF then fail .malformed
  if 0xD800 ≤ unit && unit ≤ 0xDBFF then
    exactly ['\\', 'u']
    let low ← hexUnit
    if 0xDC00 ≤ low && low ≤ 0xDFFF then
      return Char.ofNat (0x10000 + (unit - 0xD800) * 0x400 + (low - 0xDC00))
    fail .malformed
  return Char.ofNat unit

/-- The character after a backslash.  In a string that is skipped any code unit will do. -/
def escape (skipped : Bool) : Reader Char := do
  match ← get with
  | [] => fail .unexpectedEnd
  | char :: rest =>
      set rest
      match char with
      | '"' | '\\' | '/' => return char
      | 'b' => return '\x08'
      | 'f' => return '\x0c'
      | 'n' => return '\n'
      | 'r' => return '\r'
      | 't' => return '\t'
      | 'u' =>
          if skipped then
            let _ ← hexUnit
            return char
          else unicodeEscape
      | _ => fail .malformed

/-- The characters of a string up to and including its closing quote. -/
def stringBody (skipped : Bool) : Nat → Text → Reader Text
  | 0, _ => fail .unexpectedEnd
  | fuel + 1, found => do
      match ← get with
      | [] => fail .unexpectedEnd
      | char :: rest =>
          set rest
          if char = '"' then return found.reverse
          else if char = '\\' then
            let char ← escape skipped
            stringBody skipped fuel (char :: found)
          else if char.toNat < 0x20 then fail .malformed
          else stringBody skipped fuel (char :: found)

/-- A string from its opening quote on. -/
def quoted (skipped : Bool) : Reader Text := do
  advance
  stringBody skipped ((← get).length + 1) []

/-! ### Numbers -/

/-- Digits, of which there must be one.  A skipped number that lacks them is malformed even at the
end of the text. -/
def digits (skipped : Bool) : Reader Text := do
  let text ← get
  let found := text.takeWhile Char.isDigit
  if found.isEmpty then
    fail (if text.isEmpty && !skipped then .unexpectedEnd else .malformed)
  set (text.drop found.length)
  return found

def valueOf (digits : Text) : Nat :=
  digits.foldl (fun value char => value * 10 + (char.toNat - '0'.toNat)) 0

/-- Whether a number written with these digits and power of ten is too large for a double. -/
def isTooLarge (digits : Text) (power : Int) : Bool :=
  let digits := digits.dropWhile (· == '0')
  let size : Int := digits.length + power
  if digits.isEmpty || size < 300 then false
  else if size > 310 then true
  else
    let value := valueOf digits
    let limit := Nat.pow 2 1024 - Nat.pow 2 970
    if 0 ≤ power then decide (limit ≤ value * Nat.pow 10 power.toNat)
    else decide (limit * Nat.pow 10 (-power).toNat ≤ value)

/-- A number after its sign.  Where a number is not skipped it must also fit a double. -/
def number (skipped : Bool) : Reader Unit := do
  let whole ← digits skipped
  if whole.length > 1 && whole.head? == some '0' then fail .malformed
  let fraction ← do
    if (← get).head? == some '.' then
      advance
      digits skipped
    else pure []
  let power ← do
    if (← get).head? == some 'e' || (← get).head? == some 'E' then
      advance
      let sign := (← get).head?
      if sign == some '+' || sign == some '-' then advance
      let power := valueOf (← digits skipped)
      pure (if sign == some '-' then -(power : Int) else power)
    else pure 0
  if !skipped && isTooLarge (whole ++ fraction) (power - fraction.length) then fail .malformed

/-! ### Values -/

/-- Fails because the next value has the wrong type, unless it has a worse fault. -/
def mismatch {α : Type} : Reader α := do
  match ← peek? with
  | none => fail .unexpectedEnd
  | some 'n' => exactly ['n', 'u', 'l', 'l']
  | some 't' => exactly ['t', 'r', 'u', 'e']
  | some 'f' => exactly ['f', 'a', 'l', 's', 'e']
  | some '"' =>
      let _ ← quoted false
  | some '-' =>
      advance
      number false
  | some '[' | some '{' => pure ()
  | some char => if char.isDigit then number false else fail .malformed
  fail .wrongType

def string : Reader String := do
  if (← peek?) == some '"' then return String.ofList (← quoted false)
  mismatch

def bool : Reader Bool := do
  match ← peek? with
  | some 't' =>
      exactly ['t', 'r', 'u', 'e']
      return true
  | some 'f' =>
      exactly ['f', 'a', 'l', 's', 'e']
      return false
  | _ => mismatch

/-- Moves to the next element of an array; says whether there is one. -/
def nextElement (isFirst : Bool) : Reader Bool := do
  match ← peek? with
  | none => fail .unexpectedEnd
  | some ']' => return false
  | some ',' =>
      if isFirst then return true
      advance
      match ← peek? with
      | none => fail .unexpectedEnd
      | some ']' => fail .malformed
      | some _ => return true
  | some _ => if isFirst then return true else fail .malformed

/-- Reads the end of an array. -/
def endArray : Reader Unit := do
  match ← peek? with
  | none => fail .unexpectedEnd
  | some ']' => advance
  | some _ => fail .malformed

/-- The elements of an array after its opening bracket. -/
def elements {α : Type} (element : Reader α) : Nat → Bool → Reader (List α)
  | 0, _ => fail .malformed
  | fuel + 1, isFirst => do
      if ← nextElement isFirst then
        let value ← element
        return value :: (← elements element fuel false)
      endArray
      return []

def array {α : Type} (element : Reader α) : Reader (List α) := do
  if (← peek?) == some '[' then
    advance
    elements element ((← get).length + 1) true
  else mismatch

/-- The key of the next member of an object, if there is one; its colon is left. -/
def nextKey? (isFirst : Bool) : Reader (Option String) := do
  match ← peek? with
  | none => fail .unexpectedEnd
  | some '}' => return none
  | some char =>
      if !isFirst then
        unless char == ',' do fail .malformed
        advance
      match ← peek? with
      | none => fail .unexpectedEnd
      | some '"' => return some (String.ofList (← quoted false))
      | some _ => fail .malformed

/-- Reads a colon. -/
def colon : Reader Unit := do
  match ← peek? with
  | none => fail .unexpectedEnd
  | some ':' => advance
  | some _ => fail .malformed

/-! ### Skipping -/

/-- Reads the key and colon of a member that is skipped. -/
def skipKey : Reader Unit := do
  match ← peek? with
  | none => fail .unexpectedEnd
  | some '"' =>
      let _ ← quoted true
      colon
  | some _ => fail .malformed

/-- Reads a value that is no array or object. -/
def skipScalar (first : Char) : Reader Unit := do
  match first with
  | 'n' => exactly ['n', 'u', 'l', 'l']
  | 't' => exactly ['t', 'r', 'u', 'e']
  | 'f' => exactly ['f', 'a', 'l', 's', 'e']
  | '"' =>
      let _ ← quoted true
  | '-' =>
      advance
      number true
  | _ => if first.isDigit then number true else fail .malformed

/-- What a skip is about to read: a value, or what follows the start or an element of the
innermost open array or object. -/
inductive Skip where
  | value
  | afterOpening
  | afterElement

/-- Skips a value.  `closers` are the brackets that still have to come, the innermost first. -/
def skipLoop : Nat → Skip → Text → Reader Unit
  | 0, _, _ => fail .malformed
  | fuel + 1, .value, closers => do
      match ← peek? with
      | none => fail .unexpectedEnd
      | some '[' =>
          advance
          skipLoop fuel .afterOpening (']' :: closers)
      | some '{' =>
          advance
          skipLoop fuel .afterOpening ('}' :: closers)
      | some char =>
          skipScalar char
          skipLoop fuel .afterElement closers
  | _ + 1, .afterElement, [] => return
  | _ + 1, .afterOpening, [] => return
  | fuel + 1, state, closer :: closers => do
      match ← peek? with
      | none => fail .unexpectedEnd
      | some char =>
          if char = closer then
            advance
            skipLoop fuel .afterElement closers
          else
            if let .afterElement := state then
              unless char = ',' do fail .malformed
              advance
            if closer = '}' then skipKey
            skipLoop fuel .value (closer :: closers)

/-- Skips the next value. -/
def skip : Reader Unit := do
  skipLoop (2 * (← get).length + 2) .value []

/-- Nothing may be left but spaces. -/
def finish : Reader Unit := do
  if (← peek?).isSome then fail .malformed

end Reader

end Untranslated.Json
