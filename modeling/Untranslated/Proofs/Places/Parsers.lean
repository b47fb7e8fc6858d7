import Untranslated.Proofs.Places.Values

/-!
# Parsers that account for literal texts

A parser accounts for literal texts when every value that it gives lists only texts that were
read as something that may have a node, in the order in which they were read but for those that are
postponed.  The rules below say so of each way to put parsers together, as instances, so that for a
production it is found from the way it is written.  Two things are followed on the way: which flags
can only be set where there are types, since some strings have a node there only, and what strings
in expressions are read as.
-/

namespace Untranslated.Syntax

namespace TextUse

/-- The text is a value, which the program computes with or shows. -/
def isValue : TextUse → Bool
  | expression | attributeValue | segment | markupText => true
  | _ => false

/-- The text is no value, but among types it is read like one. -/
def passesForValue : TextUse → Bool
  | memberName | exportAttribute | typeAttribute => true
  | _ => false

/-- Texts that are read so may have a node. -/
def hasNode (dialect : Dialect) (use : TextUse) : Bool :=
  use.isValue || dialect.typescript && use.passesForValue

end TextUse

/-- There are types in the dialect. -/
class Typed (dialect : Dialect) : Prop where
  typescript : dialect.typescript = true

abbrev TypedDialect := {dialect : Dialect // dialect.typescript = true}

/-- The flag is set only where there are types. -/
class OnlyTyped (dialect : Dialect) (flag : Bool) : Prop where
  typed : flag = true → Typed dialect

abbrev TypedFlag (dialect : Dialect) := {flag : Bool // flag = true → Typed dialect}

/-- String literals that are read so may have a node. -/
class StringNode (dialect : Dialect) (use : TextUse) : Prop where
  form : use.form = .string
  hasNode : use.hasNode dialect = true

section Uses

variable {dialect : Dialect}

instance (dialect : TypedDialect) : Typed dialect.1 := ⟨dialect.2⟩

instance (flag : TypedFlag dialect) : OnlyTyped dialect flag.1 := ⟨flag.2⟩

instance (flag more : Bool) [hflag : OnlyTyped dialect flag] :
    OnlyTyped dialect (flag && more) :=
  ⟨fun hboth => hflag.typed (Bool.and_eq_true_iff.mp hboth).1⟩

instance : StringNode dialect .expression := ⟨rfl, rfl⟩

instance : StringNode dialect .attributeValue := ⟨rfl, rfl⟩

instance [htyped : Typed dialect] : StringNode dialect .memberName :=
  ⟨rfl, Bool.and_eq_true_iff.mpr ⟨htyped.typescript, rfl⟩⟩

instance [htyped : Typed dialect] : StringNode dialect .exportAttribute :=
  ⟨rfl, Bool.and_eq_true_iff.mpr ⟨htyped.typescript, rfl⟩⟩

instance [htyped : Typed dialect] : StringNode dialect .typeAttribute :=
  ⟨rfl, Bool.and_eq_true_iff.mpr ⟨htyped.typescript, rfl⟩⟩

end Uses

/-- Surroundings in which strings in expressions may have nodes, and the texts that may have nodes
are counted. -/
structure Context.Admits (dialect : Dialect) (ledger : Ledger) (context : Context) : Prop where
  dialect_eq : context.dialect = dialect
  stringNode : StringNode dialect context.stringUse
  counts : ∀ use : TextUse, use.hasNode dialect = true → ledger.counts use = true

/-- Where strings in expressions may have nodes, they may after the change. -/
class KeepsStringNode (dialect : Dialect) (change : Surroundings → Surroundings) : Prop where
  stringNode : ∀ {around}, StringNode dialect around.stringUse →
    StringNode dialect (change around).stringUse

section Changes

variable {dialect : Dialect}

instance : KeepsStringNode dialect Surroundings.enclosed := ⟨id⟩

instance (generator : Bool) : KeepsStringNode dialect (Surroundings.inFunction generator) := ⟨id⟩

instance (generator : Bool) :
    KeepsStringNode dialect (fun around => { around with generator }) :=
  ⟨id⟩

instance (conditionalTypes : Bool) :
    KeepsStringNode dialect (fun around => { around with conditionalTypes }) :=
  ⟨id⟩

instance (ambient : Bool) : KeepsStringNode dialect (fun around => { around with ambient }) :=
  ⟨id⟩

instance (allowIn : Bool) :
    KeepsStringNode dialect (fun around => { around.enclosed with allowIn }) :=
  ⟨id⟩

instance (allowIn beforeColon : Bool) :
    KeepsStringNode dialect (fun around => { around with allowIn, beforeColon }) :=
  ⟨id⟩

instance (stringUse : TextUse) [huse : StringNode dialect stringUse] :
    KeepsStringNode dialect (fun around => { around with stringUse }) :=
  ⟨fun _ => huse⟩

end Changes

/-- What is read from one state up to another, in the order of the text. -/
def State.Reads (before : State) (read : List Reading) (after : State) : Prop :=
  after.readings.list = read.reverse ++ before.readings.list

namespace State

variable {dialect : Dialect} {before between after : State} {read more : List Reading}

theorem Ahead.exists_reads (hahead : before.Ahead dialect after) :
    ∃ read, before.Reads read after := by
  obtain ⟨new, hnew, -⟩ := hahead.reads
  exact ⟨new.reverse, by rw [Reads, List.reverse_reverse, hnew]⟩

theorem Reads.unique (hread : before.Reads read after) (hmore : before.Reads more after) :
    read = more :=
  List.reverse_inj.mp (List.append_cancel_right (hread.symm.trans hmore))

theorem reads_nil (state : State) : state.Reads [] state := rfl

theorem Reads.trans (hread : before.Reads read between) (hmore : between.Reads more after) :
    before.Reads (read ++ more) after := by
  rw [Reads, hmore, hread, List.reverse_append, List.append_assoc]

/-- What is read on the way is read up to a state in between, and from there on. -/
theorem Reads.split (hread : before.Reads read after) (hbetween : before.Ahead dialect between)
    (hafter : between.Ahead dialect after) :
    ∃ first second, before.Reads first between ∧ between.Reads second after ∧
      read = first ++ second := by
  obtain ⟨first, hfirst⟩ := hbetween.exists_reads
  obtain ⟨second, hsecond⟩ := hafter.exists_reads
  exact ⟨first, second, hfirst, hsecond, hread.unique (hfirst.trans hsecond)⟩

theorem Reads.postponeSince (hread : before.Reads read after) (delay : Delay) :
    before.Reads (read.map (Reading.postpone delay)) (after.postponeSince delay before) := by
  rw [Reads, list_postponeSince delay hread, List.map_reverse]

end State

/-- The state stands somewhere in the text. -/
def State.StandsIn (text : Text) (state : State) : Prop :=
  Cursor.Leads ⟨text, 0⟩ state.cursor

theorem State.Ahead.standsIn {dialect : Dialect} {text : Text} {before after : State}
    (hahead : before.Ahead dialect after) (hbefore : before.StandsIn text) : after.StandsIn text :=
  hbefore.trans hahead.leads

/-- What stands between two places of a text can be cut out of it. -/
theorem Cursor.Passes.slice? {text raw : Text} {opening closing : Cursor}
    (hpasses : opening.Passes raw closing) (hopening : Cursor.Leads ⟨text, 0⟩ opening) :
    text.slice? ⟨opening.offset, closing.offset⟩ = some raw := by
  obtain ⟨front, hfront, hoffset⟩ := hopening
  have htext : text = front ++ raw ++ closing.rest := by
    rw [List.append_assoc, ← hpasses.1]
    exact hfront
  rw [htext, hpasses.2, hoffset, Nat.zero_add]
  exact Text.slice?_middle front raw closing.rest

namespace Parser

/-- The texts in what the parser gives follow those that are given and those that it reads. -/
class Accounts {α : Type} [Offers α] (dialect : Dialect) (ledger : Ledger) (given : List Reading)
    (parser : Parser α) : Prop where
  listed : ∀ {context : Context} {before after : State} {value : α} {read : List Reading},
    context.Admits dialect ledger → before.StandsIn ledger.source →
      parser.run context before = .ok (value, after) → before.Reads read after →
        Listed ledger (given ++ read) value

section Rules

variable {α β : Type} {dialect : Dialect} {ledger : Ledger} {given : List Reading}

/-- A sequence succeeds when both of its parsers do. -/
theorem run_bind {first : Parser α} {next : α → Parser β} {context : Context}
    {before after : State} {value : β}
    (hrun : (first >>= next).run context before = .ok (value, after)) :
    ∃ found between, first.run context before = .ok (found, between) ∧
      (next found).run context between = .ok (value, after) := by
  change (andThen first next).run context before = .ok (value, after) at hrun
  simp only [andThen] at hrun
  split at hrun
  · cases hrun
  · next found between hfirst => exact ⟨found, between, hfirst, hrun⟩

variable [Offers β]

/-- An empty list may stand before what is given. -/
theorem Accounts.ofGiven {parser : Parser β}
    (hparser : Accounts dialect ledger ([] ++ given) parser) :
    Accounts dialect ledger given parser :=
  hparser

/-- A parser need not make use of all that is given. -/
theorem Accounts.mono {parser : Parser β} {more : List Reading}
    (hparser : Accounts dialect ledger given parser) (hsublist : given.Sublist more) :
    Accounts dialect ledger more parser where
  listed hcontext hbefore hrun hread :=
    (hparser.listed hcontext hbefore hrun hread).mono (hsublist.append (.refl _))

-- The last rule to try: a sequence is first taken apart.
instance (priority := 10) (more : List Reading) (parser : Parser β)
    [hparser : Accounts dialect ledger [] parser] :
    Accounts dialect ledger (given ++ more) parser :=
  hparser.mono (List.nil_sublist _)

instance (value : β) [hvalue : Listed ledger given value] :
    Accounts dialect ledger given (pure value : Parser β) where
  listed _ _ hrun hread := by
    cases hrun
    rw [hread.unique (State.reads_nil _), List.append_nil]
    exact hvalue

theorem Accounts.bind [Offers α] {first : Parser α} {next : α → Parser β}
    (hfirst : Accounts dialect ledger [] first)
    (hnext : ∀ read value, Listed ledger read value →
      Accounts dialect ledger (given ++ read) (next value)) :
    Accounts dialect ledger given (first >>= next) where
  listed hcontext hbefore hrun hread := by
    obtain ⟨found, between, hfound, hrest⟩ := run_bind hrun
    have hahead := first.ahead hfound
    obtain ⟨read, more, hfront, hmore, rfl⟩ := hread.split hahead ((next found).ahead hrest)
    have hlisted := hfirst.listed hcontext hbefore hfound hfront
    rw [← List.append_assoc]
    exact (hnext read found hlisted).listed hcontext (hahead.standsIn hbefore) hrest hmore

/-- What the first parser gives need not be looked at if it does not get into the value. -/
theorem Accounts.skip {first : Parser α} {next : α → Parser β}
    (hnext : ∀ value, Accounts dialect ledger given (next value)) :
    Accounts dialect ledger given (first >>= next) where
  listed hcontext hbefore hrun hread := by
    obtain ⟨found, between, hfound, hrest⟩ := run_bind hrun
    have hahead := first.ahead hfound
    obtain ⟨read, more, hfront, hmore, rfl⟩ := hread.split hahead ((next found).ahead hrest)
    have hlisted := (hnext found).listed hcontext (hahead.standsIn hbefore) hrest hmore
    exact hlisted.mono ((List.Sublist.refl given).append (List.sublist_append_right read more))

instance [Offers α] (first : Parser α) (next : α → Parser β)
    [hfirst : Accounts dialect ledger [] first]
    [hnext : ∀ (read : List Reading) (value : ListedValue α ledger read),
      Accounts dialect ledger (given ++ read) (next value.1)] :
    Accounts dialect ledger given (first >>= next) :=
  hfirst.bind fun read value hvalue => hnext read ⟨value, hvalue.all⟩

/-- What the first parser gives may hold what was given last, which is not looked at any more
then. -/
instance (priority := mid) [Offers α] (last : List Reading) (first : Parser α)
    (next : α → Parser β) [hfirst : Accounts dialect ledger ([] ++ last) first]
    [hnext : ∀ (read : List Reading) (value : ListedValue α ledger read),
      Accounts dialect ledger (given ++ read) (next value.1)] :
    Accounts dialect ledger (given ++ last) (first >>= next) where
  listed hcontext hbefore hrun hread := by
    obtain ⟨found, between, hfound, hrest⟩ := run_bind hrun
    have hahead := first.ahead hfound
    obtain ⟨read, more, hfront, hmore, rfl⟩ := hread.split hahead ((next found).ahead hrest)
    have hlisted := hfirst.listed hcontext hbefore hfound hfront
    rw [← List.append_assoc, List.append_assoc given]
    exact (hnext _ ⟨found, hlisted.all⟩).listed hcontext (hahead.standsIn hbefore) hrest hmore

instance (priority := low) (first : Parser α) (next : α → Parser β)
    [hnext : ∀ value, Accounts dialect ledger given (next value)] :
    Accounts dialect ledger given (first >>= next) :=
  .skip hnext

instance (priority := high) (value : α) (next : α → Parser β)
    [hnext : Accounts dialect ledger given (next value)] :
    Accounts dialect ledger given (pure value >>= next) :=
  ⟨hnext.listed⟩

/-- What a parser reads is marked as postponed, and its texts follow it as before; where no such
part can stand nothing is read. -/
theorem Accounts.postponed {delay : Delay} {absent : β} {parser : Parser β}
    (habsent : Listed ledger [] absent) (hparser : Accounts dialect ledger [] parser)
    {context : Context} {before after : State} {value : β} {read : List Reading}
    (hcontext : context.Admits dialect ledger) (hbefore : before.StandsIn ledger.source)
    (hrun : (postponed delay absent parser).run context before = .ok (value, after))
    (hread : before.Reads read after) :
    (∀ reading ∈ read, reading.postponed = true) ∧ Listed ledger read value := by
  simp only [Parser.postponed] at hrun
  split at hrun
  · split at hrun
    · cases hrun
    · next reached hvalue =>
        cases hrun
        obtain ⟨plain, hplain⟩ := (parser.ahead hvalue).exists_reads
        obtain rfl := hread.unique (hplain.postponeSince delay)
        refine ⟨List.forall_mem_map.mpr fun _ _ => rfl, ?_⟩
        exact (hparser.listed hcontext hbefore hvalue hplain).ofPostpone delay
  · cases hrun
    obtain rfl := hread.unique (State.reads_nil _)
    exact ⟨List.forall_mem_nil _, habsent⟩

theorem Accounts.bindPostponed [Offers α] {delay : Delay} {absent : α} {first : Parser α}
    {next : α → Parser β} (habsent : Listed ledger [] absent)
    (hfirst : Accounts dialect ledger [] first)
    (hnext : ∀ (read : PostponedReadings) value, Listed ledger read.1 value →
      Accounts dialect ledger (given ++ read.1) (next value)) :
    Accounts dialect ledger given (Parser.postponed delay absent first >>= next) where
  listed hcontext hbefore hrun hread := by
    obtain ⟨found, between, hfound, hrest⟩ := run_bind hrun
    have hahead := (Parser.postponed delay absent first).ahead hfound
    obtain ⟨read, more, hfront, hmore, rfl⟩ := hread.split hahead ((next found).ahead hrest)
    obtain ⟨hpostponed, hlisted⟩ := hfirst.postponed habsent hcontext hbefore hfound hfront
    rw [← List.append_assoc]
    exact (hnext ⟨read, hpostponed⟩ found hlisted).listed hcontext (hahead.standsIn hbefore)
      hrest hmore

instance (priority := high) [Offers α] (delay : Delay) (absent : α) (first : Parser α)
    (next : α → Parser β) [habsent : Listed ledger [] absent]
    [hfirst : Accounts dialect ledger [] first]
    [hnext : ∀ (read : PostponedReadings) (value : ListedValue α ledger read.1),
      Accounts dialect ledger (given ++ read.1) (next value.1)] :
    Accounts dialect ledger given (postponed delay absent first >>= next) :=
  .bindPostponed habsent hfirst fun read value hvalue => hnext read ⟨value, hvalue.all⟩

instance (delay : Delay) (absent : β) (parser : Parser β) [habsent : Listed ledger [] absent]
    [hparser : Accounts dialect ledger [] parser] :
    Accounts dialect ledger [] (postponed delay absent parser) :=
  ⟨fun hcontext hbefore hrun hread =>
    (hparser.postponed habsent hcontext hbefore hrun hread).2⟩

instance (priority := high) (next : Bool → Parser β)
    [hnext : ∀ flag : TypedFlag dialect, Accounts dialect ledger given (next flag.1)] :
    Accounts dialect ledger given (typescript >>= next) where
  listed {context _ _ _ _} hcontext hbefore hrun hread := by
    obtain ⟨flag, between, hflag, hrest⟩ := run_bind hrun
    cases hflag
    have htyped (hset : context.dialect.typescript = true) : Typed dialect :=
      ⟨hcontext.dialect_eq ▸ hset⟩
    exact (hnext ⟨_, htyped⟩).listed hcontext hbefore hrest hread

instance (condition : Prop) [Decidable condition] (yes no : Parser β)
    [hyes : Accounts dialect ledger given yes] [hno : Accounts dialect ledger given no] :
    Accounts dialect ledger given (if condition then yes else no) := by
  split
  · exact hyes
  · exact hno

instance (priority := high) (flag : Bool) (yes no : Parser β) [hflag : OnlyTyped dialect flag]
    [hyes : ∀ typed : TypedDialect, Accounts typed.1 ledger given yes]
    [hno : Accounts dialect ledger given no] :
    Accounts dialect ledger given (if flag then yes else no) := by
  split
  · next hset => exact hyes ⟨dialect, (hflag.typed hset).typescript⟩
  · exact hno

instance (expected : String) : Accounts dialect ledger given (fail expected : Parser β) where
  listed _ _ hrun := by cases hrun

instance (parser : Unit → Parser β) [hparser : Accounts dialect ledger given (parser ())] :
    Accounts dialect ledger given (delay parser) :=
  ⟨hparser.listed⟩

instance (change : Surroundings → Surroundings) (parser : Parser β)
    [hchange : KeepsStringNode dialect change] [hparser : Accounts dialect ledger given parser] :
    Accounts dialect ledger given (within change parser) where
  listed hcontext := hparser.listed
    ⟨hcontext.dialect_eq, hchange.stringNode hcontext.stringNode, hcontext.counts⟩

instance (parser : Parser β) [hparser : Accounts dialect ledger given parser] :
    Accounts dialect ledger given (attempt parser) where
  listed hcontext hbefore hrun hread := by
    simp only [attempt] at hrun
    split at hrun
    · next hvalue =>
        cases hrun
        have := hparser.listed hcontext hbefore hvalue hread
        infer_instance
    · cases hrun
      infer_instance

instance (parser : Parser (Option β)) [hparser : Accounts dialect ledger given parser] :
    Accounts dialect ledger given (attempt? parser) where
  listed hcontext hbefore hrun hread := by
    simp only [attempt?] at hrun
    split at hrun
    · next hvalue =>
        cases hrun
        exact hparser.listed hcontext hbefore hvalue hread
    · cases hrun
      infer_instance

instance (value? : Option β) (expected : String) [hvalue : Listed ledger given value?] :
    Accounts dialect ledger given (require value? expected) := by
  cases value? with
  | some value =>
      have := hvalue.ofSome
      exact inferInstanceAs (Accounts dialect ledger given (pure value))
  | none => exact inferInstanceAs (Accounts dialect ledger given (fail expected))

/-- To require a value reads nothing, so what was given last stays so. -/
instance (priority := high) [Offers α] (last : List Reading) (value? : Option α)
    (expected : String) (next : α → Parser β) [hvalue : Listed ledger last value?]
    [hnext : ∀ value : ListedValue α ledger last,
      Accounts dialect ledger (given ++ last) (next value.1)] :
    Accounts dialect ledger (given ++ last) (require value? expected >>= next) := by
  cases value? with
  | some value =>
      have hrest := hnext ⟨value, hvalue.ofSome.all⟩
      exact ⟨hrest.listed⟩
  | none => exact ⟨fun _ _ hrun => by cases hrun⟩

instance (first : Parser (Option β)) (second : Parser β)
    [hfirst : Accounts dialect ledger given first]
    [hsecond : Accounts dialect ledger given second] :
    Accounts dialect ledger given (orElse first second) where
  listed hcontext hbefore hrun hread := by
    obtain ⟨found, between, hfound, hrest⟩ := run_bind hrun
    cases found with
    | some value =>
        cases hrest
        exact (hfirst.listed hcontext hbefore hfound hread).ofSome
    | none =>
        have hahead := first.ahead hfound
        obtain ⟨read, more, hfront, hmore, rfl⟩ := hread.split hahead (second.ahead hrest)
        have hlisted := hsecond.listed hcontext (hahead.standsIn hbefore) hrest hmore
        exact hlisted.mono ((List.Sublist.refl given).append (List.sublist_append_right read more))

/-- What a step keeps, repeating it keeps. -/
theorem Accounts.repeatFrom [Offers α] {step : α → Parser (α ⊕ β)} {value : α} {count : Nat}
    (hvalue : Listed ledger given value)
    (hstep : ∀ read value, Listed ledger read value → Accounts dialect ledger read (step value)) :
    Accounts dialect ledger given (repeatFrom step count value) := by
  induction count generalizing value given with
  | zero => exact inferInstanceAs (Accounts dialect ledger given (fail _))
  | succ count ih =>
      refine ⟨fun hcontext hbefore hrun hread => ?_⟩
      obtain ⟨found, between, hfound, hrest⟩ := run_bind hrun
      have hahead := (step value).ahead hfound
      cases found with
      | inl next =>
          obtain ⟨read, more, hfront, hmore, rfl⟩ := hread.split hahead (Parser.ahead _ hrest)
          have hlisted := (hstep given value hvalue).listed hcontext hbefore hfound hfront
          rw [← List.append_assoc]
          exact (ih ⟨hlisted.all⟩).listed hcontext (hahead.standsIn hbefore) hrest hmore
      | inr result =>
          cases hrest
          have hlisted := (hstep given value hvalue).listed hcontext hbefore hfound hread
          exact ⟨hlisted.all⟩

instance [Offers α] (initial : α) (step : α → Parser (α ⊕ β))
    [hinitial : Listed ledger given initial]
    [hstep : ∀ (read : List Reading) (value : ListedValue α ledger read),
      Accounts dialect ledger ([] ++ read) (step value.1)] :
    Accounts dialect ledger given (loop initial step) :=
  .skip fun _ => .repeatFrom hinitial fun read value hvalue => hstep read ⟨value, hvalue.all⟩

/-- Literal text that is read is all that is read. -/
theorem run_readLiteral {use : TextUse}
    {read : (state : State) → Except String (α × Stretch use state.cursor)} {context : Context}
    {before after : State} {range : Range} {value : α}
    (hrun : (readLiteral use read).run context before = .ok ((range, value), after)) :
    ∃ stretch, read before = .ok (value, stretch) ∧ stretch.range = range ∧
      before.Reads [stretch.reading] after := by
  simp only [readLiteral] at hrun
  split at hrun
  · cases hrun
  · next stretch hread =>
      cases hrun
      exact ⟨stretch, hread, rfl, State.list_goPast ..⟩

instance [hvalues : ∀ (read : List Reading) (value : β), Listed ledger read value] (use : TextUse)
    [huse : StringNode dialect use]
    (read : (state : State) → Except String (β × Stretch use state.cursor)) :
    Accounts dialect ledger [] (readLiteral use read) where
  listed {_ _ _ value _} hcontext _ hrun hread := by
    obtain ⟨range, value⟩ := value
    obtain ⟨stretch, -, rfl, hreading⟩ := run_readLiteral hrun
    rw [hread.unique hreading]
    have hcounts : ledger.counts stretch.reading.use = true :=
      hcontext.counts use huse.hasNode
    have hpassage : stretch.reading.passage ledger.source = ⟨.string, stretch.range, none⟩ := by
      simp [Reading.passage, Stretch.reading, huse.form]
    have hfollows := Ledger.follows_singleton hcounts
    rw [hpassage] at hfollows
    exact ⟨hfollows, (hvalues _ value).all⟩

instance (use : TextUse) [StringNode dialect use] :
    Accounts dialect ledger [] (stringLiteral use) := by
  unfold stringLiteral
  infer_instance

/-- What strings in expressions are read as is known from the surroundings. -/
instance (next : Range × List Nat → Parser β)
    [∀ (read : List Reading) (value : ListedValue (Range × List Nat) ledger read),
      Accounts dialect ledger (given ++ read) (next value.1)] :
    Accounts dialect ledger given
      (context >>= fun context => stringLiteral context.stringUse >>= next) where
  listed {context _ _ _ _} hcontext hbefore hrun hread := by
    have := hcontext.stringNode
    have hsequence : Accounts dialect ledger given (stringLiteral context.stringUse >>= next) :=
      inferInstance
    exact hsequence.listed hcontext hbefore hrun hread

end Rules

end Parser

end Untranslated.Syntax
