import Untranslated.Pattern.Regex.Size
import Untranslated.Text.Blank

/-!
# Reading regular expressions

The notation of regular expressions: groups with flags, classes with set operations, counted
repetition and Unicode properties.  Look-around and back references are refused, because no
regular expression can express them.
-/

namespace Untranslated.Pattern

/-- Why a text is no regular expression. -/
inductive RegexError where
  | nothingToRepeat
  | unclosedGroup
  | unopenedGroup
  | unclosedClass
  | unclosedCount
  | invalidCount
  | invalidRange
  | invalidEscape
  | invalidGroupName
  | invalidFlags
  | unknownProperty
  | lookAround
  | notText
  | tooDeep
  | tooLarge
  deriving DecidableEq, Repr, Inhabited

def RegexError.message : RegexError → String
  | nothingToRepeat => "repetition operator missing expression"
  | unclosedGroup => "unclosed group"
  | unopenedGroup => "unopened group"
  | unclosedClass => "unclosed character class"
  | unclosedCount => "unclosed counted repetition"
  | invalidCount => "invalid repetition count"
  | invalidRange => "invalid character class range"
  | invalidEscape => "unrecognized escape sequence"
  | invalidGroupName => "invalid capture group name"
  | invalidFlags => "unrecognized flags"
  | unknownProperty => "Unicode property not found"
  | lookAround => "look-around is not supported"
  | notText => "pattern can match what is not text"
  | tooDeep => "expression nests too deeply"
  | tooLarge => "compiled expression is too large"

structure Flags where
  ignoreCase : Bool := false
  multiLine : Bool := false
  dotMatchesNewline : Bool := false
  unicode : Bool := true
  crlf : Bool := false
  verbose : Bool := false
  deriving DecidableEq, Repr, Inhabited

namespace RegexParser

structure State where
  rest : Text
  flags : Flags
  names : List Text
  deriving Inhabited

abbrev Reader (α : Type) := StateT State (Except RegexError) α

def fail {α : Type} (error : RegexError) : Reader α := throw error

def peek? : Reader (Option Char) := do return (← get).rest.head?

def flags : Reader Flags := do return (← get).flags

def setRest (rest : Text) : Reader Unit := modify fun state => { state with rest }

/-- Drops blanks and comments. -/
def dropIgnored : Bool → Text → Text
  | _, [] => []
  | true, char :: chars => dropIgnored (char != '\n') chars
  | false, char :: chars =>
      if isBlank char then dropIgnored false chars
      else if char == '#' then dropIgnored true chars
      else char :: chars

/-- In verbose mode, steps over blanks and comments. -/
def skipIgnored : Reader Unit := do
  if (← flags).verbose then setRest (dropIgnored false (← get).rest)

/-- Steps over a character and over what verbose mode ignores after it. -/
def bump : Reader Unit := do
  setRest ((← get).rest.drop 1)
  skipIgnored

/-- Reads a character if it comes next. -/
def eat (char : Char) : Reader Bool := do
  if (← peek?) == some char then
    bump
    return true
  return false

/-- Reads the characters if they come next. -/
def eatAll (chars : Text) : Reader Bool := do
  if chars.isPrefixOf (← get).rest then
    setRest ((← get).rest.drop chars.length)
    return true
  return false

/-- The next character, of which there must be one. -/
def next (error : RegexError) : Reader Char := do
  match ← peek? with
  | some char => return char
  | none => fail error

/-! ### Escapes -/

/-- What one unit of the notation stands for. -/
inductive Atom where
  | literal (char : Char) (byte : Bool)
  | set (set : CharClass)
  | assertion (assertion : Assertion)

def charOf (code : Nat) : Reader Char :=
  if code.isValidChar then return Char.ofNat code else fail .invalidEscape

def hexValue (digits : Text) : Reader Nat :=
  digits.foldlM (fun value char =>
    match CharSet.hexDigit? char with
    | some digit => pure (value * 16 + digit)
    | none => fail .invalidEscape) 0

/-- A code point in hexadecimal digits: in braces, or exactly as many as `count`. -/
def hexEscape (count : Nat) : Reader Char := do
  let rest := (← get).rest
  match rest with
  | '{' :: chars =>
      let digits := chars.takeWhile (· != '}')
      if digits.isEmpty || digits.length == chars.length then fail .invalidEscape
      setRest (chars.drop digits.length)
      bump
      charOf (← hexValue digits)
  | _ =>
      let digits := rest.take count
      if digits.length < count then fail .invalidEscape
      setRest (rest.drop count)
      skipIgnored
      charOf (← hexValue digits)

/-- Splits a text at the first place where the mark stands. -/
def splitAt? (mark : Text) : Text → Option (Text × Text)
  | [] => none
  | char :: chars =>
      if mark.isPrefixOf (char :: chars) then some ([], (char :: chars).drop mark.length)
      else (splitAt? mark chars).map fun (left, right) => (char :: left, right)

/-- The property that the text between braces names, and whether its complement is meant. -/
def propertyNamed? (name : Text) : Option (Property × Bool) :=
  match splitAt? ['!', '='] name with
  | some (name, value) => (propertyWithValue? name value).map (·, true)
  | none =>
      match splitAt? [':'] name with
      | some (name, value) => (propertyWithValue? name value).map (·, false)
      | none =>
          match splitAt? ['='] name with
          | some (name, value) => (propertyWithValue? name value).map (·, false)
          | none => (property? name).map (·, false)

/-- A Unicode property after `\p` or `\P`. -/
def propertyEscape (negated : Bool) : Reader CharClass := do
  let flags ← flags
  let name ← do
    match ← next .invalidEscape with
    | '{' =>
        let chars := (← get).rest.drop 1
        let name := chars.takeWhile (· != '}')
        if name.length == chars.length then fail .invalidEscape
        setRest (chars.drop name.length)
        bump
        pure (if flags.verbose then name.filter (!isBlank ·) else name)
    | '\\' => fail .invalidEscape
    | char =>
        bump
        pure [char]
  unless flags.unicode do fail .notText
  match propertyNamed? name with
  | none => fail .unknownProperty
  | some (property, inverted) =>
      let set := CharClass.foldedIf flags.ignoreCase (.ofProperty property)
      return .negatedIf (negated != inverted) set

/-- The classes `\d`, `\s` and `\w` and their complements. -/
def perlClass (letter : Char) (negated : Bool) : Reader CharClass := do
  let unicode := (← flags).unicode
  if negated && !unicode then fail .notText
  let set :=
    match letter with
    | 'd' => if unicode then category "nd" else [(0x30, 0x39)]
    | 's' =>
        if unicode then (tabulated? "whitespace").getD [] else [(0x9, 0xD), (0x20, 0x20)]
    | _ => if unicode then wordChars else asciiWordChars
  return .negatedIf negated (.set set)

/-- A word boundary, which a name in braces may make more precise. -/
def wordBoundary : Reader Assertion := do
  let ascii := !(← flags).unicode
  let rest := (← get).rest
  let isNameChar (char : Char) : Bool := char.isAlpha || char == '-'
  match rest with
  | '{' :: first :: chars =>
      if isNameChar first then
        let name := (first :: chars).takeWhile isNameChar
        match (first :: chars).drop name.length with
        | '}' :: after =>
            setRest after
            skipIgnored
            match String.ofList name with
            | "start" => return .wordStart ascii
            | "end" => return .wordEnd ascii
            | "start-half" => return .wordStartHalf ascii
            | "end-half" => return .wordEndHalf ascii
            | _ => fail .invalidEscape
        | _ => fail .invalidEscape
      else return .wordBoundary ascii false
  | _ => return .wordBoundary ascii false

/-- An ASCII character that is neither a letter nor a digit may be escaped. -/
def isEscapable (char : Char) : Bool :=
  char.toNat < 0x80 && !char.isAlphanum && char != '<' && char != '>'

/-- An escape from its backslash on; what stands directly after it is never ignored. -/
def escape : Reader Atom := do
  setRest ((← get).rest.drop 1)
  let char ← next .invalidEscape
  bump
  match char with
  | 'x' => return .literal (← hexEscape 2) true
  | 'u' => return .literal (← hexEscape 4) true
  | 'U' => return .literal (← hexEscape 8) true
  | 'p' => return .set (← propertyEscape false)
  | 'P' => return .set (← propertyEscape true)
  | 'd' => return .set (← perlClass 'd' false)
  | 'D' => return .set (← perlClass 'd' true)
  | 's' => return .set (← perlClass 's' false)
  | 'S' => return .set (← perlClass 's' true)
  | 'w' => return .set (← perlClass 'w' false)
  | 'W' => return .set (← perlClass 'w' true)
  | 'a' => return .literal '\x07' false
  | 'f' => return .literal '\x0c' false
  | 't' => return .literal '\t' false
  | 'n' => return .literal '\n' false
  | 'r' => return .literal '\r' false
  | 'v' => return .literal '\x0b' false
  | 'A' => return .assertion .textStart
  | 'z' => return .assertion .textEnd
  | 'b' => return .assertion (← wordBoundary)
  | 'B' => return .assertion (.wordBoundary (!(← flags).unicode) true)
  | '<' => return .assertion (.wordStart (!(← flags).unicode))
  | '>' => return .assertion (.wordEnd (!(← flags).unicode))
  | _ => if isEscapable char then return .literal char false else fail .invalidEscape

/-! ### Classes in brackets -/

/-- One character or class in brackets. -/
def classItem : Reader Atom := do
  let char ← next .unclosedClass
  if char == '\\' then escape
  else
    bump
    return .literal char false

/-- Outside Unicode mode a class holds bytes, and only ASCII ones are text. -/
def checkText (char : Char) : Reader Unit := do
  if !(← flags).unicode && 0x80 ≤ char.toNat then fail .notText

/-- An item of a class, or a range of characters. -/
def classRange : Reader CharClass := do
  let first ← classItem
  let rest := (← get).rest
  let second := (if (← flags).verbose then dropIgnored false (rest.drop 1) else rest.drop 1).head?
  if rest.head? == some '-' && second != some ']' && second != some '-' then
    bump
    let last ← classItem
    match first, last with
    | .literal first _, .literal last _ =>
        checkText first
        checkText last
        if last < first then fail .invalidRange
        return .set [(first.toNat, last.toNat)]
    | _, _ => fail .invalidRange
  match first with
  | .literal char _ =>
      checkText char
      return .char char
  | .set set => return set
  | .assertion _ => fail .invalidEscape

/-- A named ASCII class such as `[:alpha:]`, if one comes next. -/
def namedClass? : Reader (Option CharClass) := do
  match (← get).rest with
  | '[' :: ':' :: chars =>
      let (negated, chars) := match chars with
        | '^' :: chars => (true, chars)
        | chars => (false, chars)
      let name := chars.takeWhile (· != ':')
      match chars.drop name.length with
      | ':' :: ']' :: after =>
          match asciiClass? (String.ofList name) with
          | some set =>
              setRest after
              skipIgnored
              let flags ← flags
              if negated && !flags.unicode then fail .notText
              return some (.negatedIf negated (.foldedIf flags.ignoreCase (.set set)))
          | none => return none
      | _ => return none
  | _ => return none

/-- The operations that combine classes. -/
inductive SetOperation where
  | intersection
  | difference
  | symmetricDifference

def SetOperation.apply : SetOperation → CharClass → CharClass → CharClass
  | intersection => .intersection
  | difference => .difference
  | symmetricDifference => .symmetricDifference

/-- An operator between classes, if one comes next. -/
def setOperation? : Reader (Option SetOperation) := do
  let operation :=
    match (← get).rest with
    | '&' :: '&' :: _ => some .intersection
    | '-' :: '-' :: _ => some .difference
    | '~' :: '~' :: _ => some .symmetricDifference
    | _ => none
  if operation.isSome then
    bump
    bump
  return operation

/-- Combines the items read so far with the operand of a pending operation. -/
def combine (fold : Bool) (pending : Option (SetOperation × CharClass)) (items : CharClass) :
    CharClass :=
  match pending with
  | none => items
  | some (operation, left) => operation.apply (.foldedIf fold left) (.foldedIf fold items)

/-- The items of a class up to its closing bracket, which is read too. -/
def classItems (nested : Reader CharClass) :
    Nat → Option (SetOperation × CharClass) → CharClass → Reader CharClass
  | 0, _, _ => fail .tooDeep
  | fuel + 1, pending, items => do
      let fold := (← flags).ignoreCase
      let char ← next .unclosedClass
      if char == ']' then
        bump
        return combine fold pending items
      if char == '[' then
        match ← namedClass? with
        | some set => classItems nested fuel pending (.union items set)
        | none =>
            let set ← nested
            classItems nested fuel pending (.union items set)
      else
        match ← setOperation? with
        | some operation =>
            classItems nested fuel (some (operation, combine fold pending items)) (.set [])
        | none =>
            let set ← classRange
            classItems nested fuel pending (.union items set)

/-- Hyphens at the start of a class stand for themselves. -/
def leadingHyphens : Nat → CharClass → Reader CharClass
  | 0, items => return items
  | fuel + 1, items => do
      if ← eat '-' then
        let _ ← next .unclosedClass
        leadingHyphens fuel (.union items (.char '-'))
      else return items

/-- A class from its opening bracket on. -/
def bracketClass : Nat → Reader CharClass
  | 0 => fail .tooDeep
  | depth + 1 => do
      bump
      let _ ← next .unclosedClass
      let negated ← eat '^'
      let hyphen := (← peek?) == some '-'
      let fuel := (← get).rest.length + 1
      let items ← leadingHyphens fuel (.set [])
      let items ←
        if !hyphen && (← peek?) == some ']' then do
          bump
          pure (CharClass.char ']')
        else pure items
      let items ← classItems (bracketClass depth) fuel none items
      let flags ← flags
      if negated && !flags.unicode then fail .notText
      return .negatedIf negated (.foldedIf flags.ignoreCase items)

/-! ### Expressions -/

/-- One character, up to case if the flags say so. -/
def literal (char : Char) (byte : Bool) : Reader Regex := do
  let flags ← flags
  if byte && !flags.unicode && 0x80 ≤ char.toNat then fail .notText
  if flags.ignoreCase then
    if flags.unicode then return .one (.folded (.char char))
    return .one (.union (.char char.toLower) (.char char.toUpper))
  return .one (.char char)

def atomRegex : Atom → Reader Regex
  | .literal char byte => literal char byte
  | .set set => return .one set
  | .assertion assertion => return .assert assertion

/-- Any character, or any but the end of a line. -/
def dot : Reader Regex := do
  let flags ← flags
  unless flags.unicode do fail .notText
  if flags.dotMatchesNewline then return .one (.set allChars)
  if flags.crlf then return .one (.complement (.set [(0xA, 0xA), (0xD, 0xD)]))
  return .one (.complement (.set [(0xA, 0xA)]))

/-- A decimal number with blanks around it. -/
def decimal : Reader Nat := do
  let rest := (← get).rest.dropWhile isBlank
  let digits := rest.takeWhile Char.isDigit
  if digits.isEmpty then fail .invalidCount
  let value := digits.foldl (fun value char => value * 10 + (char.toNat - '0'.toNat)) 0
  if value < UInt32.size then
    setRest ((rest.drop digits.length).dropWhile isBlank)
    skipIgnored
    return value
  fail .invalidCount

/-- The bounds of a counted repetition from its opening brace on. -/
def count : Reader (Nat × Option Nat) := do
  bump
  let _ ← next .unclosedCount
  let least ← decimal
  let most ←
    if ← eat ',' then do
      if (← next .unclosedCount) == '}' then pure none
      else
        let most ← decimal
        pure (some most)
    else pure (some least)
  unless (← peek?) == some '}' do fail .unclosedCount
  bump
  if let some most := most then
    if most < least then fail .invalidCount
  return (least, most)

/-- Whether a repetition prefers few or many makes no difference here. -/
def skipPreference : Reader Unit := do
  let _ ← eat '?'

/-- An expression and how deep it nests: a class, a group, a repetition, a sequence and a choice
are one level each. -/
structure Nested where
  regex : Regex
  depth : Nat
  deriving Inhabited

/-- Applies a repetition to the last atom; flags and the start of a branch cannot be repeated. -/
def repeatLast (atoms : List (Option Nested)) (least : Nat) (most : Option Nat) :
    Reader (List (Option Nested)) := do
  match atoms with
  | some ⟨atom, depth⟩ :: atoms => return some ⟨.repeated atom least most, depth + 1⟩ :: atoms
  | _ => fail .nothingToRepeat

def setFlag (flags : Flags) (value : Bool) : Char → Option Flags
  | 'i' => some { flags with ignoreCase := value }
  | 'm' => some { flags with multiLine := value }
  | 's' => some { flags with dotMatchesNewline := value }
  | 'u' => some { flags with unicode := value }
  | 'R' => some { flags with crlf := value }
  | 'x' => some { flags with verbose := value }
  | 'U' => some flags
  | _ => none

/-- Flags up to a colon or a closing parenthesis, which is left, and whether there were any;
`seen` are those given already. -/
def readFlags : Nat → Flags → Bool → Text → Reader (Flags × Bool)
  | 0, _, _, _ => fail .invalidFlags
  | fuel + 1, flags, value, seen => do
      let char ← next .invalidFlags
      if char == ':' || char == ')' then
        if seen.head? == some '-' then fail .invalidFlags
        return (flags, !seen.isEmpty)
      if seen.contains char then fail .invalidFlags
      setRest ((← get).rest.drop 1)
      if char == '-' then readFlags fuel flags false (char :: seen)
      else
        match setFlag flags value char with
        | none => fail .invalidFlags
        | some flags => readFlags fuel flags value (char :: seen)

/-- Alphabetic characters may start the name of a group. -/
def isAlphabetic (char : Char) : Bool :=
  char.isAlpha || (0x80 ≤ char.toNat && ((tabulated? "alphabetic").getD []).has char)

def isNumeric (char : Char) : Bool :=
  char.isDigit || (0x80 ≤ char.toNat &&
    (category "nd" ++ category "nl" ++ category "no").has char)

/-- The name of a group, up to and including `>`. -/
def groupName : Reader Unit := do
  let rest := (← get).rest
  let name := rest.takeWhile (· != '>')
  if name.isEmpty || name.length == rest.length then fail .invalidGroupName
  let isFirst (char : Char) : Bool := char == '_' || isAlphabetic char
  let isLater (char : Char) : Bool :=
    isFirst char || isNumeric char || char == '.' || char == '[' || char == ']'
  unless (name.head?.map isFirst).getD false && name.all isLater do fail .invalidGroupName
  if (← get).names.contains name then fail .invalidGroupName
  modify fun state => { state with names := name :: state.names }
  setRest (rest.drop (name.length + 1))
  skipIgnored

/-- What an opening parenthesis starts: a group, or new flags for the rest of this one. -/
inductive Opening where
  | group
  | flags

/-- Reads an opening parenthesis and what belongs to it.  In `(?)` nothing is set, so its question
mark has nothing to repeat. -/
def openGroup : Reader Opening := do
  bump
  for mark in [['?', '='], ['?', '!'], ['?', '<', '='], ['?', '<', '!']] do
    if ← eatAll mark then fail .lookAround
  for mark in [['?', 'P', '<'], ['?', '<']] do
    if ← eatAll mark then
      groupName
      return .group
  if ← eatAll ['?'] then
    let (flags, given) ← readFlags ((← get).rest.length + 1) (← flags) true []
    let closes := (← peek?) == some ')'
    if closes && !given then fail .nothingToRepeat
    modify fun state => { state with flags }
    bump
    return if closes then .flags else .group
  return .group

/-- The depth of parts that are joined: one of them is not joined to anything. -/
def joinedDepth (parts : List Nat) : Nat :=
  let deepest := parts.foldl max 0
  if parts.length < 2 then deepest else deepest + 1

/-- Joins the atoms of a branch, which are listed last one first. -/
def branch (atoms : List (Option Nested)) : Nested where
  regex := atoms.reverse.foldr (fun atom rest =>
    match atom with
    | none => rest
    | some ⟨atom, _⟩ => match rest with
        | .empty => atom
        | rest => .sequence atom rest) .empty
  depth := joinedDepth (atoms.map fun atom => (atom.map Nested.depth).getD 0)

/-- Joins branches, which are listed last one first. -/
def branches (last : Nested) (earlier : List Nested) : Nested where
  regex := earlier.foldl (fun rest alternative => .either alternative.regex rest) last.regex
  depth := joinedDepth ((last :: earlier).map Nested.depth)

/-- Branches up to the end of the text or a closing parenthesis, which is left. -/
def items (nested : Reader Nested) :
    Nat → List (Option Nested) → List Nested → Reader Nested
  | 0, _, _ => fail .tooDeep
  | fuel + 1, atoms, earlier => do
      skipIgnored
      match ← peek? with
      | none | some ')' => return branches (branch atoms) earlier
      | some '|' =>
          bump
          items nested fuel [] (branch atoms :: earlier)
      | some '(' =>
          let outer := (← get).flags
          match ← openGroup with
          | .flags => items nested fuel (none :: atoms) earlier
          | .group =>
              let inner ← nested
              unless (← peek?) == some ')' do fail .unclosedGroup
              modify fun state => { state with flags := outer }
              bump
              items nested fuel (some ⟨inner.regex, inner.depth + 1⟩ :: atoms) earlier
      | some '[' =>
          let set ← bracketClass ((← get).rest.length + 1)
          items nested fuel (some ⟨.one set, 1⟩ :: atoms) earlier
      | some '*' =>
          bump
          skipPreference
          items nested fuel (← repeatLast atoms 0 none) earlier
      | some '+' =>
          bump
          skipPreference
          items nested fuel (← repeatLast atoms 1 none) earlier
      | some '?' =>
          bump
          skipPreference
          items nested fuel (← repeatLast atoms 0 (some 1)) earlier
      | some '{' =>
          let _ ← repeatLast atoms 0 none
          let (least, most) ← count
          skipPreference
          items nested fuel (← repeatLast atoms least most) earlier
      | some '.' =>
          bump
          items nested fuel (some ⟨← dot, 0⟩ :: atoms) earlier
      | some '^' =>
          bump
          let flags ← flags
          let start := if flags.multiLine then .lineStart flags.crlf else .textStart
          items nested fuel (some ⟨.assert start, 0⟩ :: atoms) earlier
      | some '$' =>
          bump
          let flags ← flags
          let stop := if flags.multiLine then .lineEnd flags.crlf else .textEnd
          items nested fuel (some ⟨.assert stop, 0⟩ :: atoms) earlier
      | some '\\' =>
          let found ← escape
          items nested fuel (some ⟨← atomRegex found, 0⟩ :: atoms) earlier
      | some char =>
          bump
          items nested fuel (some ⟨← literal char false, 0⟩ :: atoms) earlier

/-- An expression whose groups nest less deep than `depth`. -/
def expression : Nat → Reader Nested
  | 0 => fail .tooDeep
  | depth + 1 => do
      items (expression depth) ((← get).rest.length + 1) [] []

end RegexParser

/-- How deep an expression may nest. -/
def Regex.maxDepth : Nat := 250

/-- Reads a regular expression.  The depth to which groups are read at all is only a first bound:
their number cannot exceed that of the characters. -/
def Regex.parse (text : Text) : Except RegexError Regex :=
  match (RegexParser.expression (text.length + 1)).run ⟨text, {}, []⟩ with
  | .error error => .error error
  | .ok (⟨regex, depth⟩, state) =>
      if !state.rest.isEmpty then .error .unopenedGroup
      else if Regex.maxDepth < depth then .error .tooDeep
      else if Regex.maxSize < regex.size then .error .tooLarge
      else .ok regex

end Untranslated.Pattern
