import Untranslated.Syntax.Module
import Untranslated.Syntax.Progress

/-!
# Parsers

A parser reads tokens from a state that always holds the current token, not yet consumed, and the
text around it.  The state also keeps the literal texts read so far, with what each was read as and
why it is listed out of turn, if it is.  A parser only goes forward in the text, what was read
before stays read, and what is listed out of turn is so for a reason that the text shows.  The parts
of the grammar refer to each other through a `Grammar`, a record of the productions that other
productions need; `Untranslated.Syntax.grammar` ties the knot.
-/

namespace Untranslated.Syntax

/-- Which dialect of the language a text is written in. -/
structure Dialect where
  typescript : Bool
  jsx : Bool
  deriving DecidableEq, Repr, Inhabited

/-- The three ways to write literal text. -/
inductive TextForm where
  /-- A string literal, which has its quotes around it. -/
  | string
  /-- Template text between two substitutions. -/
  | segment
  /-- Text between JSX tags. -/
  | markupText
  deriving DecidableEq, Repr, Inhabited

/-- What literal text is read as. -/
inductive TextUse where
  /-- The value of an expression. -/
  | expression
  /-- The value of a JSX attribute. -/
  | attributeValue
  /-- The name of a property of an object, a pattern, a class or an enumeration. -/
  | propertyName
  /-- The name of a member of an interface or a type literal. -/
  | memberName
  /-- A type of its own. -/
  | literalType
  | moduleName
  /-- A name in an import or export list. -/
  | exportName
  /-- In the attributes of an import declaration. -/
  | importAttribute
  /-- In the attributes of an export from another module. -/
  | exportAttribute
  /-- In the attributes of an imported type. -/
  | typeAttribute
  | segment
  | markupText
  deriving DecidableEq, Repr, Inhabited

def TextUse.form : TextUse → TextForm
  | segment => .segment
  | markupText => .markupText
  | _ => .string

namespace Token

def isSymbol (token : Token) (symbol : String) : Bool :=
  match token with
  | punctuator found => found == symbol
  | _ => false

/-- The token is one of the symbols. -/
def isSymbolIn (token : Token) (symbols : List String) : Bool :=
  match token with
  | punctuator found => symbols.contains found
  | _ => false

/-- The token is the keyword, or the identifier of that name. -/
def isWord (token : Token) (name : String) : Bool :=
  match token with
  | word found true => found == name
  | _ => false

theorem eq_word_of_isWord {token : Token} {name : String} (hword : token.isWord name = true) :
    token = .word name true := by
  unfold isWord at hword
  split at hword
  · rw [beq_iff_eq.mp hword]
  · cases hword

def isWordIn (token : Token) (names : List String) : Bool :=
  match token with
  | word found true => names.contains found
  | _ => false

def isAnyWord : Token → Bool
  | word _ _ => true
  | _ => false

/-- The words that cannot be identifiers. -/
def reservedWords : List String := [
  "break", "case", "catch", "class", "const", "continue", "debugger", "default", "delete", "do",
  "else", "enum", "export", "extends", "false", "finally", "for", "function", "if", "import", "in",
  "instanceof", "new", "null", "return", "super", "switch", "this", "throw", "true", "try",
  "typeof", "var", "void", "while", "with"]

def isIdentifier (token : Token) : Bool :=
  match token with
  | word name plain => !plain || !reservedWords.contains name
  | _ => false

/-- The token can start the name of a property. -/
def startsPropertyName : Token → Bool
  | word _ _ => true
  | privateName => true
  | string _ => true
  | number => true
  | punctuator symbol => symbol == "["
  | _ => false

end Token

/-- Why a construct lists a part after parts that follow it. -/
inductive Delay where
  /-- The body of a `do` statement is listed after the condition. -/
  | body
  /-- The superclass is listed after the members of the class. -/
  | superclass
  /-- Types, with all that stands in them, are listed after other parts of their construct. -/
  | types
  deriving DecidableEq, Repr, Inhabited

namespace Delay

/-- The word that a part with such a delay starts with. -/
def word? : Delay → Option String
  | body => some "do"
  | superclass => some "extends"
  | types => none

/-- A part with such a delay can start with the token. -/
def applies (delay : Delay) (dialect : Dialect) (token : Token) : Bool :=
  match delay.word? with
  | some word => token.isWord word
  | none => dialect.typescript

/-- A part with such a delay can stand in the text. -/
def ArisesIn (delay : Delay) (dialect : Dialect) (text : Text) : Prop :=
  match delay.word? with
  | some word => word.toList <:+: text
  | none => dialect.typescript = true

theorem ArisesIn.mono {delay : Delay} {dialect : Dialect} {text more : Text}
    (harises : delay.ArisesIn dialect text) (hmore : text <:+: more) :
    delay.ArisesIn dialect more := by
  unfold ArisesIn at harises ⊢
  split at harises
  · exact harises.trans hmore
  · exact harises

end Delay

/-- Literal text that was read. -/
structure Reading where
  use : TextUse
  range : Range
  start_lt_stop : use.form = .string → range.start < range.stop
  /-- Why the text is listed after texts that follow it, if it stands in a part that is. -/
  delay : Option Delay := none

namespace Reading

/-- The text stands somewhere from the cursor on. -/
def StandsFrom (cursor : Cursor) (reading : Reading) : Prop :=
  ∃ opening closing : Cursor, cursor.Leads opening ∧ opening.Leads closing ∧
    reading.range = ⟨opening.offset, closing.offset⟩

theorem StandsFrom.of_leads {earlier later : Cursor} {reading : Reading}
    (hreading : reading.StandsFrom later) (hleads : earlier.Leads later) :
    reading.StandsFrom earlier := by
  obtain ⟨opening, closing, hopening, hrest⟩ := hreading
  exact ⟨opening, closing, hleads.trans hopening, hrest⟩

def postponed (reading : Reading) : Bool := reading.delay.isSome

def postpone (delay : Delay) (reading : Reading) : Reading := { reading with delay := some delay }

/-- Marks the first `count` of a list as postponed. -/
def postponeFirst (delay : Delay) (count : Nat) (readings : List Reading) : List Reading :=
  (readings.take count).map (postpone delay) ++ readings.drop count

theorem map_range_postponeFirst (delay : Delay) (count : Nat) (readings : List Reading) :
    (postponeFirst delay count readings).map range = readings.map range := by
  have hrange : range ∘ postpone delay = range := rfl
  rw [postponeFirst, List.map_append, List.map_map, hrange, ← List.map_append,
    List.take_append_drop]

end Reading

/-- Literal text that is found from a cursor on: where it starts and stops, and where to read on
after it. -/
structure Stretch (use : TextUse) (cursor : Cursor) where
  opening : Cursor
  closing : Cursor
  after : Cursor
  leads_opening : cursor.Leads opening
  leads_closing : opening.Leads closing
  leads_after : closing.Leads after
  start_lt_stop : use.form = .string → opening.offset < closing.offset

namespace Stretch

variable {use : TextUse} {cursor : Cursor}

/-- A string literal from one cursor up to another. -/
def quoted (after : Cursor) (hleads : cursor.Leads after) (hlt : cursor.offset < after.offset) :
    Stretch use cursor where
  opening := cursor
  closing := after
  after
  leads_opening := .refl cursor
  leads_closing := hleads
  leads_after := .refl after
  start_lt_stop _ := hlt

def range (stretch : Stretch use cursor) : Range :=
  ⟨stretch.opening.offset, stretch.closing.offset⟩

def reading (stretch : Stretch use cursor) : Reading where
  use
  range := stretch.range
  start_lt_stop := stretch.start_lt_stop

theorem leads (stretch : Stretch use cursor) : cursor.Leads stretch.after :=
  stretch.leads_opening.trans (stretch.leads_closing.trans stretch.leads_after)

theorem standsFrom_reading (stretch : Stretch use cursor) : stretch.reading.StandsFrom cursor :=
  ⟨stretch.opening, stretch.closing, stretch.leads_opening, stretch.leads_closing, rfl⟩

end Stretch

/-- What the surroundings of a production allow. -/
structure Surroundings where
  /-- Inside a generator, where `yield` is an operator. -/
  generator : Bool := false
  /-- `in` is an operator, which it is not in the head of a `for` statement. -/
  allowIn : Bool := true
  /-- Between `?` and `:`, where a colon after a parenthesis starts no return type. -/
  beforeColon : Bool := false
  /-- `extends` may continue a conditional type. -/
  conditionalTypes : Bool := true
  /-- What is declared here exists elsewhere, so no value need be given. -/
  ambient : Bool := false
  /-- What the strings in expressions are read as. -/
  stringUse : TextUse := .expression

namespace Surroundings

/-- The surroundings inside brackets: nothing outside them restricts what stands there. -/
def enclosed (around : Surroundings) : Surroundings :=
  { around with allowIn := true, beforeColon := false, conditionalTypes := true }

/-- The surroundings in the body of a function. -/
def inFunction (generator : Bool) (around : Surroundings) : Surroundings :=
  { around.enclosed with generator }

end Surroundings

/-- What a production may depend on besides the state: what is the same in the whole text, and the
surroundings. -/
structure Context extends Surroundings where
  dialect : Dialect
  /-- At least the number of characters of the whole text; every loop takes fewer steps. -/
  limit : Nat

/-- The literal texts read before an offset, the last one first: none of them reaches beyond the
offset, and none into the next. -/
structure Readings (offset : Nat) where
  list : List Reading
  stop_le : ∀ reading ∈ list, reading.range.stop ≤ offset
  apart : list.Pairwise fun later earlier => earlier.range.stop ≤ later.range.start

namespace Readings

def empty (offset : Nat) : Readings offset := ⟨[], nofun, .nil⟩

/-- The same texts before an offset further on. -/
def upTo {offset further : Nat} (readings : Readings offset) (hle : offset ≤ further) :
    Readings further :=
  ⟨readings.list, fun reading hreading => Nat.le_trans (readings.stop_le reading hreading) hle,
    readings.apart⟩

/-- Adds the text that is found from the cursor on. -/
def push {use : TextUse} {cursor : Cursor} (readings : Readings cursor.offset)
    (stretch : Stretch use cursor) : Readings stretch.after.offset where
  list := stretch.reading :: readings.list
  stop_le := List.forall_mem_cons.mpr ⟨stretch.leads_after.offset_le, fun reading hreading =>
    Nat.le_trans (readings.stop_le reading hreading) stretch.leads.offset_le⟩
  apart := .cons
    (fun reading hreading =>
      Nat.le_trans (readings.stop_le reading hreading) stretch.leads_opening.offset_le)
    readings.apart

/-- Marks the last `count` texts as postponed. -/
def postponeLast {offset : Nat} (readings : Readings offset) (delay : Delay) (count : Nat) :
    Readings offset where
  list := Reading.postponeFirst delay count readings.list
  stop_le := by
    have hstop : ∀ range ∈ readings.list.map Reading.range, range.stop ≤ offset :=
      List.forall_mem_map.mpr readings.stop_le
    rw [← Reading.map_range_postponeFirst delay count] at hstop
    exact List.forall_mem_map.mp hstop
  apart := by
    have hapart : (readings.list.map Reading.range).Pairwise
        fun later earlier => earlier.stop ≤ later.start :=
      List.pairwise_map.mpr readings.apart
    rw [← Reading.map_range_postponeFirst delay count] at hapart
    exact List.pairwise_map.mp hapart

end Readings

structure State where
  token : Token
  /-- The offset of the first byte of the token. -/
  start : Nat
  /-- The text from the first character of the token on. -/
  here : Text
  /-- The text and the offset just after the token. -/
  after : Cursor
  /-- A line break stands between the previous token and this one. -/
  newline : Bool
  /-- The offset just after the previous token. -/
  lastStop : Nat
  readings : Readings start
  leads : Cursor.Leads ⟨here, start⟩ after
  start_lt_after : ∀ codes, token = .string codes → start < after.offset
  word_isPrefix : ∀ name, token = .word name true → name.toList <+: here

namespace State

/-- The place of the current token. -/
def cursor (state : State) : Cursor := ⟨state.here, state.start⟩

/-- The state at the first token from the cursor on. -/
def scanFrom (limit : Nat) (cursor : Cursor) (lastStop : Nat)
    (readings : Readings cursor.offset) : State :=
  match hskip : skipTrivia .blank cursor.rest cursor.offset false with
  | some (first, newline) =>
      match hscan : scanToken limit first with
      | (token, after) =>
          { token, start := first.offset, here := first.rest, after, newline, lastStop,
            readings := readings.upTo (leads_skipTrivia hskip).offset_le
            leads := by
              have hleads := leads_scanToken limit first
              rwa [hscan] at hleads
            start_lt_after := by
              rintro codes rfl
              have hlt := offset_lt_scanToken (congrArg Prod.fst hscan)
              rwa [hscan] at hlt
            word_isPrefix := by
              rintro name rfl
              exact word_isPrefix_of_scanToken (congrArg Prod.fst hscan) }
  | none =>
      { token := .invalid, start := cursor.offset, here := cursor.rest, after := cursor.skip,
        newline := false, lastStop, readings, leads := cursor.leads_skip,
        start_lt_after := nofun, word_isPrefix := nofun }

/-- The state at the first token from a cursor ahead on. -/
def goTo (state : State) (limit : Nat) (cursor : Cursor) (hleads : state.cursor.Leads cursor) :
    State :=
  scanFrom limit cursor cursor.offset (state.readings.upTo hleads.offset_le)

/-- The state at the first token after literal text. -/
def goPast {use : TextUse} (state : State) (limit : Nat) (stretch : Stretch use state.cursor) :
    State :=
  scanFrom limit stretch.after stretch.after.offset (state.readings.push stretch)

/-- The state just after literal text, where no token has been read yet. -/
def standPast {use : TextUse} (state : State) (stretch : Stretch use state.cursor) : State where
  token := .invalid
  start := stretch.after.offset
  here := stretch.after.rest
  after := stretch.after
  newline := false
  lastStop := stretch.after.offset
  readings := state.readings.push stretch
  leads := .refl stretch.after
  start_lt_after := nofun
  word_isPrefix := nofun

/-- The state at the next token. -/
def next (state : State) (limit : Nat) : State := state.goTo limit state.after state.leads

/-- The last token before this one ended in the text, and no text that was read reaches beyond its
end. -/
structure SettledIn (text : Text) (state : State) : Prop where
  last : ∃ last : Cursor, Cursor.Leads ⟨text, 0⟩ last ∧ last.Leads state.cursor ∧
    last.offset = state.lastStop
  stop_le : ∀ reading ∈ state.readings.list, reading.range.stop ≤ state.lastStop

theorem SettledIn.leads {text : Text} {state : State} (hsettled : state.SettledIn text) :
    Cursor.Leads ⟨text, 0⟩ state.cursor := by
  obtain ⟨last, hlast, hleads, -⟩ := hsettled.last
  exact hlast.trans hleads

/-- A state that is reached by reading on: what was read before stays read, the rest stands further
on, and what is postponed of it is so for a reason. -/
structure Ahead (dialect : Dialect) (before after : State) : Prop where
  leads : before.cursor.Leads after.cursor
  reads : ∃ new, after.readings.list = new ++ before.readings.list ∧
    ∀ reading ∈ new, reading.StandsFrom before.cursor ∧
      ∀ delay ∈ reading.delay, delay.ArisesIn dialect before.here
  settles : ∀ {text : Text}, before.SettledIn text → after.SettledIn text

theorem ahead_of_list_eq {dialect : Dialect} {before after : State}
    (hleads : before.cursor.Leads after.cursor)
    (hlist : after.readings.list = before.readings.list)
    (hsettles : ∀ {text : Text}, before.SettledIn text → after.SettledIn text) :
    before.Ahead dialect after :=
  ⟨hleads, ⟨[], hlist, nofun⟩, hsettles⟩

theorem ahead_of_list_cons {dialect : Dialect} {before after : State} {use : TextUse}
    {stretch : Stretch use before.cursor} (hleads : before.cursor.Leads after.cursor)
    (hlist : after.readings.list = stretch.reading :: before.readings.list)
    (hsettles : ∀ {text : Text}, before.SettledIn text → after.SettledIn text) :
    before.Ahead dialect after :=
  ⟨hleads, ⟨[stretch.reading], hlist,
    List.forall_mem_singleton.mpr ⟨stretch.standsFrom_reading, nofun⟩⟩, hsettles⟩

theorem Ahead.refl {dialect : Dialect} (state : State) : state.Ahead dialect state :=
  ahead_of_list_eq (.refl _) rfl id

theorem Ahead.trans {dialect : Dialect} {first second third : State}
    (hfirst : first.Ahead dialect second) (hsecond : second.Ahead dialect third) :
    first.Ahead dialect third := by
  obtain ⟨new, hnew, hfound⟩ := hfirst.reads
  obtain ⟨more, hmore, hafter⟩ := hsecond.reads
  refine ⟨hfirst.leads.trans hsecond.leads, ⟨more ++ new, ?_, ?_⟩,
    fun hsettled => hsecond.settles (hfirst.settles hsettled)⟩
  · rw [hmore, hnew, List.append_assoc]
  · have hsuffix : second.here <:+ first.here := hfirst.leads.rest_suffix
    exact List.forall_mem_append.mpr ⟨fun reading hreading =>
      ⟨(hafter reading hreading).1.of_leads hfirst.leads, fun delay hdelay =>
        ((hafter reading hreading).2 delay hdelay).mono hsuffix.isInfix⟩, hfound⟩

theorem leads_scanFrom (limit : Nat) (cursor : Cursor) (lastStop : Nat)
    (readings : Readings cursor.offset) :
    cursor.Leads (scanFrom limit cursor lastStop readings).cursor := by
  unfold scanFrom
  split
  · next hskip => exact leads_skipTrivia hskip
  · exact .refl _

theorem list_scanFrom (limit : Nat) (cursor : Cursor) (lastStop : Nat)
    (readings : Readings cursor.offset) :
    (scanFrom limit cursor lastStop readings).readings.list = readings.list := by
  unfold scanFrom
  split <;> rfl

theorem lastStop_scanFrom (limit : Nat) (cursor : Cursor) (lastStop : Nat)
    (readings : Readings cursor.offset) :
    (scanFrom limit cursor lastStop readings).lastStop = lastStop := by
  unfold scanFrom
  split <;> rfl

/-- After a token that ends where the cursor is. -/
theorem settledIn_scanFrom {text : Text} {cursor : Cursor}
    (hcursor : Cursor.Leads ⟨text, 0⟩ cursor) (limit : Nat) (readings : Readings cursor.offset) :
    (scanFrom limit cursor cursor.offset readings).SettledIn text where
  last := ⟨cursor, hcursor, leads_scanFrom .., (lastStop_scanFrom ..).symm⟩
  stop_le := by
    rw [list_scanFrom, lastStop_scanFrom]
    exact readings.stop_le

theorem ahead_goTo {dialect : Dialect} (state : State) (limit : Nat) (cursor : Cursor)
    (hleads : state.cursor.Leads cursor) :
    state.Ahead dialect (state.goTo limit cursor hleads) :=
  ahead_of_list_eq (hleads.trans (leads_scanFrom ..)) (list_scanFrom ..)
    fun hsettled => settledIn_scanFrom (hsettled.leads.trans hleads) ..

theorem list_goPast {use : TextUse} (state : State) (limit : Nat)
    (stretch : Stretch use state.cursor) :
    (state.goPast limit stretch).readings.list = stretch.reading :: state.readings.list := by
  rw [goPast, list_scanFrom]
  rfl

theorem ahead_goPast {dialect : Dialect} {use : TextUse} (state : State) (limit : Nat)
    (stretch : Stretch use state.cursor) : state.Ahead dialect (state.goPast limit stretch) :=
  ahead_of_list_cons (stretch.leads.trans (leads_scanFrom ..)) (list_goPast ..)
    fun hsettled => settledIn_scanFrom (hsettled.leads.trans stretch.leads) ..

theorem ahead_standPast {dialect : Dialect} {use : TextUse} (state : State)
    (stretch : Stretch use state.cursor) : state.Ahead dialect (state.standPast stretch) :=
  ahead_of_list_cons stretch.leads rfl fun hsettled =>
    ⟨⟨stretch.after, hsettled.leads.trans stretch.leads, .refl _, rfl⟩,
      (state.standPast stretch).readings.stop_le⟩

/-- The same state, with the texts read since an earlier one marked as postponed. -/
def postponeSince (after : State) (delay : Delay) (before : State) : State :=
  { after with
    readings := after.readings.postponeLast delay
      (after.readings.list.length - before.readings.list.length) }

theorem list_postponeSince {before after : State} {new : List Reading} (delay : Delay)
    (hnew : after.readings.list = new ++ before.readings.list) :
    (after.postponeSince delay before).readings.list =
      new.map (Reading.postpone delay) ++ before.readings.list := by
  simp [postponeSince, Readings.postponeLast, Reading.postponeFirst, hnew]

/-- Marking texts as postponed does not move them. -/
theorem SettledIn.postponeSince {text : Text} {after : State} (hsettled : after.SettledIn text)
    (delay : Delay) (before : State) : (after.postponeSince delay before).SettledIn text where
  last := hsettled.last
  stop_le := by
    have hstop : ∀ range ∈ after.readings.list.map Reading.range, range.stop ≤ after.lastStop :=
      List.forall_mem_map.mpr hsettled.stop_le
    rw [← Reading.map_range_postponeFirst delay] at hstop
    exact List.forall_mem_map.mp hstop

theorem arisesIn_here {dialect : Dialect} {state : State} {delay : Delay}
    (happlies : delay.applies dialect state.token = true) :
    delay.ArisesIn dialect state.here := by
  unfold Delay.applies at happlies
  unfold Delay.ArisesIn
  split at happlies
  · next word _ =>
      exact (state.word_isPrefix word (Token.eq_word_of_isWord happlies)).isInfix
  · exact happlies

theorem Ahead.postponeSince {dialect : Dialect} {before after : State} {delay : Delay}
    (hahead : before.Ahead dialect after)
    (happlies : delay.applies dialect before.token = true) :
    before.Ahead dialect (after.postponeSince delay before) := by
  obtain ⟨new, hnew, hfound⟩ := hahead.reads
  refine ⟨hahead.leads, ⟨_, list_postponeSince delay hnew, ?_⟩, fun hsettled =>
    (hahead.settles hsettled).postponeSince delay before⟩
  rw [List.forall_mem_map]
  intro reading hreading
  refine ⟨(hfound reading hreading).1, ?_⟩
  rintro _ ⟨⟩
  exact arisesIn_here happlies

end State

/-- The text does not follow the grammar: the token at the offset cannot stand there. -/
structure SyntaxError where
  offset : Nat
  expected : String
  deriving DecidableEq, Repr, Inhabited

def SyntaxError.message (error : SyntaxError) : String :=
  "expected " ++ error.expected ++ " at byte " ++ toString error.offset

/-- A parser reads on from a state, or fails. -/
structure Parser (α : Type) where
  run : Context → State → Except SyntaxError (α × State)
  ahead : ∀ {context : Context} {before after : State} {value : α},
    run context before = .ok (value, after) → before.Ahead context.dialect after

namespace Parser

/-- Runs a parser, and then the one that is chosen by what the first gives. -/
def andThen {α β : Type} (first : Parser α) (next : α → Parser β) : Parser β where
  run context state :=
    match first.run context state with
    | .error error => .error error
    | .ok (value, state) => (next value).run context state
  ahead := by
    intro context before after value hrun
    split at hrun
    · cases hrun
    · next hfirst => exact (first.ahead hfirst).trans ((next _).ahead hrun)

instance : Monad Parser where
  pure value := {
    run := fun _ state => .ok (value, state)
    ahead := by
      rintro _ _ _ _ ⟨⟩
      exact .refl _ }
  bind := andThen

def fail {α : Type} (expected : String) : Parser α where
  run _ state := .error ⟨state.start, expected⟩
  ahead := nofun

/-- Looks at the surroundings and the state, and reads nothing. -/
def inspect {α : Type} (look : Context → State → α) : Parser α where
  run context state := .ok (look context state, state)
  ahead := by
    rintro _ _ _ _ ⟨⟩
    exact .refl _

def context : Parser Context := inspect fun context _ => context

def state : Parser State := inspect fun _ state => state

/-- A parser that is made when it runs. -/
def delay {α : Type} (parser : Unit → Parser α) : Parser α where
  run context state := (parser ()).run context state
  ahead := (parser ()).ahead

/-- Runs a parser in changed surroundings. -/
def within {α : Type} (change : Surroundings → Surroundings) (parser : Parser α) : Parser α where
  run context state :=
    parser.run { context with toSurroundings := change context.toSurroundings } state
  ahead := parser.ahead

/-- Runs a parser and takes back what it read if it fails. -/
def attempt {α : Type} (parser : Parser α) : Parser (Option α) where
  run context state :=
    match parser.run context state with
    | .ok (value, state) => .ok (some value, state)
    | .error _ => .ok (none, state)
  ahead := by
    intro context before after value hrun
    split at hrun
    · next hparser =>
        cases hrun
        exact parser.ahead hparser
    · cases hrun
      exact .refl _

/-- Runs a parser and keeps what it read only if it gives a value. -/
def attempt? {α : Type} (parser : Parser (Option α)) : Parser (Option α) where
  run context state :=
    match parser.run context state with
    | .ok (some value, state) => .ok (some value, state)
    | _ => .ok (none, state)
  ahead := by
    intro context before after value hrun
    split at hrun
    · next hparser =>
        cases hrun
        exact parser.ahead hparser
    · cases hrun
      exact .refl _

/-- Runs a parser where such a delay applies, and marks the texts that it read as postponed; gives
`absent` elsewhere.  This is said of parts that their construct lists after parts that follow
them. -/
def postponed {α : Type} (delay : Delay) (absent : α) (parser : Parser α) : Parser α where
  run context state :=
    if delay.applies context.dialect state.token then
      match parser.run context state with
      | .error error => .error error
      | .ok (value, after) => .ok (value, after.postponeSince delay state)
    else .ok (absent, state)
  ahead := by
    intro context before after value hrun
    split at hrun
    · next happlies =>
        split at hrun
        · cases hrun
        · next hparser =>
            cases hrun
            exact (parser.ahead hparser).postponeSince happlies
    · cases hrun
      exact .refl _

/-- A value that must be there; `expected` says what the text should have had without it. -/
def require {α : Type} (value? : Option α) (expected : String) : Parser α :=
  match value? with
  | some value => pure value
  | none => fail expected

/-- What the first parser gives, or else what the second gives. -/
def orElse {α : Type} (first : Parser (Option α)) (second : Parser α) : Parser α := do
  match ← first with
  | some value => return value
  | none => second

/-- Tells whether a parser would succeed, and reads nothing. -/
def lookAhead {α : Type} (parser : Parser α) : Parser Bool :=
  inspect fun context state => (parser.run context state).toBool

/-- Repeats a step until it gives a result, at most `limit` times. -/
def repeatFrom {α β : Type} (step : α → Parser (α ⊕ β)) : Nat → α → Parser β
  | 0, _ => fail "an end"
  | count + 1, value => do
      match ← step value with
      | .inl value => repeatFrom step count value
      | .inr result => pure result

/-- A loop: every step but the last reads at least one character. -/
def loop {α β : Type} (initial : α) (step : α → Parser (α ⊕ β)) : Parser β := do
  repeatFrom step ((← context).limit + 1) initial

/-- Reads text from the current token on: `read` tells what it finds and where that ends, or what
it expected.  Continues with the first token from there on. -/
def readText {α : Type} (read : State → Except String (α × Cursor))
    (hread : ∀ {state : State} {value : α} {cursor : Cursor},
      read state = .ok (value, cursor) → state.cursor.Leads cursor) : Parser α where
  run context state :=
    match hfound : read state with
    | .error expected => .error ⟨state.start, expected⟩
    | .ok (value, cursor) => .ok (value, state.goTo context.limit cursor (hread hfound))
  ahead := by
    intro context before after value hrun
    split at hrun
    · cases hrun
    · cases hrun
      exact before.ahead_goTo ..

/-- Reads literal text that is found from the current token on, and gives its range and what `read`
makes of it. -/
def readLiteral {α : Type} (use : TextUse)
    (read : (state : State) → Except String (α × Stretch use state.cursor)) :
    Parser (Range × α) where
  run context state :=
    match read state with
    | .error expected => .error ⟨state.start, expected⟩
    | .ok (value, stretch) => .ok ((stretch.range, value), state.goPast context.limit stretch)
  ahead := by
    intro context before after value hrun
    split at hrun
    · cases hrun
    · cases hrun
      exact before.ahead_goPast ..

/-- Steps to the next token. -/
def advance : Parser Unit where
  run context state := .ok ((), state.next context.limit)
  ahead := by
    rintro _ before _ _ ⟨⟩
    exact before.ahead_goTo ..

/-- The state at the next token, without going there. -/
def peek : Parser State := inspect fun context state => state.next context.limit

/-- The state two tokens on, without going there. -/
def peekTwo : Parser State := inspect fun context state =>
  (state.next context.limit).next context.limit

/-- The state three tokens on, without going there. -/
def peekThree : Parser State := inspect fun context state =>
  ((state.next context.limit).next context.limit).next context.limit

def start : Parser Nat := inspect fun _ state => state.start

/-- The range from an offset to the end of the last token that was read. -/
def rangeFrom (start : Nat) : Parser Range :=
  inspect fun _ state => ⟨start, max start state.lastStop⟩

def typescript : Parser Bool := inspect fun context _ => context.dialect.typescript

/-- Reads a string literal, and gives its range and the code points that it denotes. -/
def stringLiteral (use : TextUse) : Parser (Range × List Nat) :=
  readLiteral use fun state =>
    match htoken : state.token with
    | .string codes =>
        .ok (codes, .quoted state.after state.leads (state.start_lt_after codes htoken))
    | _ => .error "a string"

def atSymbol (symbol : String) : Parser Bool := inspect fun _ state => state.token.isSymbol symbol

def atSymbolIn (symbols : List String) : Parser Bool :=
  inspect fun _ state => state.token.isSymbolIn symbols

def atWord (name : String) : Parser Bool := inspect fun _ state => state.token.isWord name

def atWordIn (names : List String) : Parser Bool :=
  inspect fun _ state => state.token.isWordIn names

def atIdentifier : Parser Bool := inspect fun _ state => state.token.isIdentifier

/-- Reads the symbol if it comes next. -/
def eatSymbol (symbol : String) : Parser Bool := do
  if ← atSymbol symbol then
    advance
    return true
  return false

/-- Reads the word if it comes next. -/
def eatWord (name : String) : Parser Bool := do
  if ← atWord name then
    advance
    return true
  return false

def expectSymbol (symbol : String) : Parser Unit := do
  unless ← eatSymbol symbol do fail symbol

def expectWord (name : String) : Parser Unit := do
  unless ← eatWord name do fail name

/-- Steps over the first characters of the current token. -/
def splitToken (count : Nat) : Parser Unit :=
  readText (fun state => .ok ((), state.cursor.skipMany count))
    (by
      rintro state _ _ ⟨⟩
      exact state.cursor.leads_skipMany count)

/-- Reads a symbol that a longer one may start with: of `>>`, for example, only the first `>`. -/
def eatSplit (symbol : String) : Parser Bool := do
  match (← state).token with
  | .punctuator found =>
      if found == symbol then
        advance
        return true
      else if symbol.toList.isPrefixOf found.toList then
        splitToken symbol.length
        return true
      else return false
  | _ => return false

def expectSplit (symbol : String) : Parser Unit := do
  unless ← eatSplit symbol do fail symbol

/-- Reads an identifier and gives its name. -/
def identifier : Parser String := do
  let state ← state
  match state.token with
  | .word name _ =>
      if state.token.isIdentifier then
        advance
        return name
      else fail "an identifier"
  | _ => fail "an identifier"

/-- Reads any word, keywords included, and gives it. -/
def anyWord : Parser String := do
  match (← state).token with
  | .word name _ =>
      advance
      return name
  | _ => fail "a name"

/-- A statement may end here: at a semicolon, or where one is understood. -/
def atStatementEnd : Parser Bool := inspect fun _ state =>
  state.token.isSymbol ";" || state.token.isSymbol "\x7d" || state.token == .eof || state.newline

/-- Ends a statement: reads a semicolon, or sees that one is understood. -/
def eatSemicolon : Parser Bool := do
  if ← eatSymbol ";" then return true
  atStatementEnd

def semicolon : Parser Unit := do
  unless ← eatSemicolon do fail ";"

end Parser

/-- An expression as it is read.  What was read as an expression may turn out to be a binding
pattern or an assignment target, so what those readings hold is kept beside it. -/
structure Operand where
  expr : Expr
  /-- What is visited when the operand stands in a pattern. -/
  pattern : List Part
  /-- What is visited when `=` gives the operand a value, if it can be given one. -/
  target : Option (List Part)
  /-- What is visited when an operator such as `+=` changes the operand, if it can be changed. -/
  updated : Option (List Part)
  /-- An operator stands before the operand, and so the operand cannot be raised to a power. -/
  operated : Bool := false

namespace Operand

/-- An operand that is a value only. -/
def ofExpr (expr : Expr) : Operand :=
  { expr, pattern := [.expr expr], target := none, updated := none }

/-- An operand that can be given a value. -/
def ofPlace (expr : Expr) : Operand :=
  { expr, pattern := [.expr expr], target := some expr.targetParts,
    updated := some expr.targetParts }

def value (range : Range) (parts : List Part) : Operand := ofExpr (.other range parts)

def place (range : Range) (parts : List Part) : Operand := ofPlace (.other range parts)

end Operand

/-- The productions that other productions refer to. -/
structure Grammar where
  /-- An assignment expression, the unit between commas. -/
  assignment : Parser Operand
  /-- An expression with prefix operators. -/
  unary : Parser Operand
  /-- What follows an operand: operators that bind tighter than the level, and their operands. -/
  operators : Operand → Nat → Parser Operand
  /-- A member expression, which may start with `new` and holds no call of its own. -/
  memberOrNew : Parser Operand
  /-- An expression that calls and member accesses may end. -/
  leftHandSide : Parser Operand
  /-- A JSX element or fragment, read from its opening `<` up to its last `>`, which is left as
  the current token. -/
  markup : Parser Expr
  type : Parser (List Part)
  typeOperator : Parser (List Part)
  pattern : Parser (List Part)
  statement : Parser Part
  item : Parser Part

end Untranslated.Syntax
