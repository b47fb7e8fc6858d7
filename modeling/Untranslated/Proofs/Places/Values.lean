import Untranslated.Proofs.Outline
import Untranslated.Syntax.Parser

/-!
# The literal texts of a value, in order

The nodes with literal text in a tree are the strings, segments and markup texts of the syntax
that it is made of.  A value that a parser gives, be it syntax or a pair or a list of such, offers a
list of these for each way in which it may be used: what was read as an expression may turn out to
be a pattern.  A value is listed when all its lists follow the texts that were read, in the order of
the text but for those that are postponed.  That a value is listed follows from how it is built, so
instances say it: one for every constructor of the syntax and every way to put values together.
-/

namespace Untranslated

/-- Literal text in its place.  Of template text it is kept what the text says. -/
structure Passage where
  form : Syntax.TextForm
  range : Range
  raw : Option Text
  deriving DecidableEq

/-- The text that a node of this kind holds, if it holds any. -/
def NodeKind.passages (range : Range) : NodeKind → List Passage
  | .string _ => [⟨.string, range, none⟩]
  | .segment raw => [⟨.segment, range, some raw⟩]
  | .markupText _ => [⟨.markupText, range, none⟩]
  | _ => []

namespace Outline

/-- The texts of the nodes, in the order of the nodes. -/
def passages : Outline → List Passage
  | nil => []
  | node kind range _ held arguments rest =>
      kind.passages range ++ held.passages ++ arguments.passages ++ rest.passages

@[simp] theorem passages_append (outline others : Outline) :
    (outline ++ others).passages = outline.passages ++ others.passages := by
  induction outline with
  | nil => rfl
  | node kind range raw held arguments rest _ _ ih =>
      simp only [node_append, passages, ih, List.append_assoc]

@[simp] theorem passages_leaf (kind : NodeKind) (range : Range) (raw : Text) :
    (leaf kind range raw).passages = kind.passages range := by
  simp only [leaf, passages, List.append_nil]

@[simp] theorem passages_branch (kind : NodeKind) (range : Range) (held : Outline) :
    (branch kind range held).passages = kind.passages range ++ held.passages := by
  simp only [branch, passages, List.append_nil]

theorem passages_withArguments (kind : NodeKind) (arguments : List Nat) (range : Range) :
    (withArguments kind arguments).passages range = kind.passages range := by
  cases kind <;> rfl

theorem passages_nodes (outline : Outline) (parent next : Nat) :
    (outline.nodes parent next).flatMap (fun node => node.kind.passages node.range) =
      outline.passages := by
  induction outline generalizing parent next with
  | nil => rfl
  | node kind range raw held arguments rest hheld harguments hrest =>
      simp only [nodes, passages, List.flatMap_cons, List.flatMap_append, passages_withArguments,
        hheld, harguments, hrest, List.append_assoc]

end Outline

namespace Syntax

def Reading.passage (source : Text) (reading : Reading) : Passage :=
  ⟨reading.use.form, reading.range,
    if reading.use.form = .segment then source.slice? reading.range else none⟩

/-- How literal texts are counted: which uses give a text a node, in which text their ranges are
counted, and the text of the tree. -/
structure Ledger where
  text : Text
  source : Text
  counts : TextUse → Bool

namespace Ledger

variable (ledger : Ledger)

/-- The texts that may have a node, in the order in which they were read. -/
def passages (read : List Reading) : List Passage :=
  (read.filter fun reading => ledger.counts reading.use).map (·.passage ledger.source)

/-- Whatever is postponed, the chosen passages keep their order: after a postponed one there is
none but itself. -/
def InOrder (chosen : Passage → Bool) (read : List Reading) : Prop :=
  read.Pairwise fun earlier later => earlier.postponed = true →
    chosen (earlier.passage ledger.source) = true → chosen (later.passage ledger.source) = true →
      later.passage ledger.source = earlier.passage ledger.source

/-- The passages are among those that were read, in their order but for the postponed ones, which
may come later. -/
def Follows (passages : List Passage) (read : List Reading) : Prop :=
  ∀ chosen : Passage → Bool, ledger.InOrder chosen read →
    (passages.filter chosen).Sublist ((ledger.passages read).filter chosen)

variable {ledger}

@[simp] theorem passages_append (read more : List Reading) :
    ledger.passages (read ++ more) = ledger.passages read ++ ledger.passages more := by
  simp only [passages, List.filter_append, List.map_append]

theorem mem_passages {passage : Passage} {read : List Reading} :
    passage ∈ ledger.passages read ↔
      ∃ reading ∈ read, ledger.counts reading.use = true ∧
        reading.passage ledger.source = passage := by
  simp only [passages, List.mem_map, List.mem_filter, and_assoc]

theorem Follows.mono {passages : List Passage} {read more : List Reading}
    (hfollows : ledger.Follows passages read) (hsublist : read.Sublist more) :
    ledger.Follows passages more := fun chosen hchosen =>
  (hfollows chosen (hchosen.sublist hsublist)).trans
    (((hsublist.filter _).map _).filter chosen)

/-- Marking texts as postponed changes nothing else about them. -/
theorem Follows.ofPostpone {passages : List Passage} {read : List Reading}
    (hfollows : ledger.Follows passages read) (delay : Delay) :
    ledger.Follows passages (read.map (Reading.postpone delay)) := by
  intro chosen hchosen
  have hread : ledger.InOrder chosen read :=
    (List.pairwise_map.mp hchosen).imp fun hpair _ => hpair rfl
  have hpassages :
      ledger.passages (read.map (Reading.postpone delay)) = ledger.passages read := by
    rw [Ledger.passages, Ledger.passages, List.filter_map, List.map_map]
    rfl
  rw [hpassages]
  exact hfollows chosen hread

theorem follows_nil (read : List Reading) : ledger.Follows [] read := fun _ _ =>
  List.nil_sublist _

theorem follows_singleton {reading : Reading} (hcounts : ledger.counts reading.use = true) :
    ledger.Follows [reading.passage ledger.source] [reading] := by
  intro chosen _
  have hpassages : [reading.passage ledger.source] = ledger.passages [reading] := by
    simp [passages, hcounts]
  exact hpassages ▸ List.Sublist.refl _

theorem Follows.mem {passages : List Passage} {read : List Reading}
    (hfollows : ledger.Follows passages read) {passage : Passage} (hpassage : passage ∈ passages) :
    passage ∈ ledger.passages read := by
  have hchosen : ledger.InOrder (· == passage) read :=
    List.pairwise_of_forall fun earlier later _ hearlier hlater =>
      (eq_of_beq hlater).trans (eq_of_beq hearlier).symm
  have hmem : passage ∈ passages.filter (· == passage) :=
    List.mem_filter.mpr ⟨hpassage, beq_self_eq_true passage⟩
  exact (List.mem_filter.mp ((hfollows _ hchosen).subset hmem)).1

theorem Follows.append {passages others : List Passage} {read more : List Reading}
    (hfollows : ledger.Follows passages read) (hothers : ledger.Follows others more) :
    ledger.Follows (passages ++ others) (read ++ more) := by
  intro chosen hchosen
  have ⟨hread, hmore, _⟩ := List.pairwise_append.mp hchosen
  rw [passages_append, List.filter_append, List.filter_append]
  exact (hfollows chosen hread).append (hothers chosen hmore)

theorem append_comm_of_forall_eq {α : Type} {values others : List α}
    (heq : ∀ value ∈ values, ∀ other ∈ others, other = value) :
    values ++ others = others ++ values := by
  cases values with
  | nil => rw [List.nil_append, List.append_nil]
  | cons value values =>
      have hothers : others = List.replicate others.length value :=
        List.eq_replicate_iff.mpr ⟨rfl, fun other => heq value List.mem_cons_self other⟩
      cases others with
      | nil => rw [List.nil_append, List.append_nil]
      | cons other others =>
          have hvalues : value :: values = List.replicate (value :: values).length value := by
            refine List.eq_replicate_iff.mpr ⟨rfl, fun same hsame => ?_⟩
            rw [← heq same hsame other List.mem_cons_self,
              heq value List.mem_cons_self other List.mem_cons_self]
          rw [hothers, hvalues, List.replicate_append_replicate, List.replicate_append_replicate,
            Nat.add_comm]

/-- Texts that are postponed may be listed after all that was read with them. -/
theorem Follows.postpone {passages own : List Passage} {front read back : List Reading}
    (hfollows : ledger.Follows passages (front ++ back)) (hown : ledger.Follows own read)
    (hpostponed : ∀ reading ∈ read, reading.postponed = true) :
    ledger.Follows (passages ++ own) (front ++ read ++ back) := by
  intro chosen hchosen
  have hrest : ledger.InOrder chosen (front ++ back) :=
    hchosen.sublist ((List.sublist_append_left front read).append (.refl back))
  have ⟨hfront, _, hacross⟩ := List.pairwise_append.mp hchosen
  have ⟨_, hread, _⟩ := List.pairwise_append.mp hfront
  -- Once one of the postponed texts is chosen, all that is chosen after it is the same text.
  have hcomm : (ledger.passages read).filter chosen ++ (ledger.passages back).filter chosen =
      (ledger.passages back).filter chosen ++ (ledger.passages read).filter chosen := by
    refine append_comm_of_forall_eq fun passage hpassage other hother => ?_
    obtain ⟨hpassage, hchosenPassage⟩ := List.mem_filter.mp hpassage
    obtain ⟨hother, hchosenOther⟩ := List.mem_filter.mp hother
    obtain ⟨reading, hreading, -, rfl⟩ := mem_passages.mp hpassage
    obtain ⟨later, hlater, -, rfl⟩ := mem_passages.mp hother
    exact hacross reading (List.mem_append_right front hreading) later hlater
      (hpostponed reading hreading) hchosenPassage hchosenOther
  have heq : (ledger.passages (front ++ read ++ back)).filter chosen =
      (ledger.passages (front ++ back)).filter chosen ++
        (ledger.passages read).filter chosen := by
    simp only [passages_append, List.filter_append, List.append_assoc, hcomm]
  rw [heq, List.filter_append]
  exact (hfollows chosen hrest).append (hown chosen hread)

end Ledger

/-- Types whose values list literal texts, in the order in which a tree has them. -/
class HasPassages (α : Type) where
  passages : Text → α → List Passage

export HasPassages (passages)

/-- Types whose values offer lists of literal texts, one for each way to use the value. -/
class Offers (α : Type) where
  /-- All the lists have the property. -/
  All : (List Passage → Prop) → Text → α → Prop
  mono : ∀ {property weaker : List Passage → Prop} {text : Text} {value : α},
    (∀ passages, property passages → weaker passages) → All property text value →
      All weaker text value

section Instances

variable {α β : Type}

/-- A range is given for the string literal that it belongs to. -/
instance : HasPassages Range := ⟨fun _ range => [⟨.string, range, none⟩]⟩

instance : HasPassages Segment :=
  ⟨fun _ segment => (NodeKind.segment segment.raw).passages segment.range⟩

instance : HasPassages Expr := ⟨fun text expr => (expr.outline text).passages⟩

instance : HasPassages Part := ⟨fun text part => (part.outline text).passages⟩

instance : HasPassages Substitution :=
  ⟨fun text ⟨expr, segment⟩ => passages text expr ++ passages text segment⟩

instance : HasPassages PropertyName := ⟨fun text name => name.computed.flatMap (passages text)⟩

instance : HasPassages Bool := ⟨fun _ _ => []⟩

instance : HasPassages Nat := ⟨fun _ _ => []⟩

instance : HasPassages Char := ⟨fun _ _ => []⟩

instance [HasPassages α] : HasPassages (List α) :=
  ⟨fun text values => values.flatMap (passages text)⟩

instance (priority := low) [HasPassages α] : Offers α where
  All property text value := property (passages text value)
  mono himp := himp _

instance [Offers α] : Offers (Option α) where
  All property text value? := ∀ value ∈ value?, Offers.All property text value
  mono himp hvalue value hmem := Offers.mono himp (hvalue value hmem)

instance [Offers α] [Offers β] : Offers (α × β) where
  All property text pair := Offers.All property text pair.1 ∧ Offers.All property text pair.2
  mono himp hpair := ⟨Offers.mono himp hpair.1, Offers.mono himp hpair.2⟩

instance [Offers α] [Offers β] : Offers (α ⊕ β) where
  All property text value :=
    match value with
    | .inl value => Offers.All property text value
    | .inr value => Offers.All property text value
  mono {_ _ _ value} himp hvalue := by
    cases value with
    | inl value => exact Offers.mono himp hvalue
    | inr value => exact Offers.mono himp hvalue

instance : Offers Operand where
  All property text operand :=
    property (passages text operand.expr) ∧ property (passages text operand.pattern) ∧
      Offers.All property text operand.target ∧ Offers.All property text operand.updated
  mono himp hoperand :=
    ⟨himp _ hoperand.1, himp _ hoperand.2.1, Offers.mono himp hoperand.2.2.1,
      Offers.mono himp hoperand.2.2.2⟩

instance : Offers Parser.ParenItem where
  All property text item :=
    Offers.All property text item.expr ∧ property (passages text item.pattern)
  mono himp hitem := ⟨Offers.mono himp hitem.1, himp _ hitem.2⟩

/-- Items in parentheses are either all expressions or all parameters. -/
instance : Offers (List Parser.ParenItem) where
  All property text items :=
    Offers.All property text (items.mapM (·.expr)) ∧
      property (passages text (items.flatMap (·.pattern)))
  mono himp hitems := ⟨Offers.mono himp hitems.1, himp _ hitems.2⟩

end Instances

/-- Every list of texts that the value offers follows what was read. -/
class Listed {α : Type} [Offers α] (ledger : Ledger) (read : List Reading) (value : α) :
    Prop where
  all : Offers.All (ledger.Follows · read) ledger.text value

/-- The values whose literal texts follow what was read. -/
abbrev ListedValue (α : Type) [Offers α] (ledger : Ledger) (read : List Reading) :=
  {value : α // Offers.All (ledger.Follows · read) ledger.text value}

/-- The texts of the value may be listed last of all that was read, after the texts of the rest. -/
class EndsWith {α : Type} [HasPassages α] (ledger : Ledger) (read : List Reading) (value : α)
    (rest : outParam (List Reading)) : Prop where
  follows : ∀ {others : List Passage}, ledger.Follows others rest →
    ledger.Follows (others ++ passages ledger.text value) read

/-- The texts of the value may be listed last, whatever else is read. -/
class Postpones {α : Type} [HasPassages α] (ledger : Ledger) (read : List Reading) (value : α)
    (rest : outParam (List Reading)) : Prop where
  follows : ∀ {others : List Passage} {more : List Reading},
    ledger.Follows others (rest ++ more) →
      ledger.Follows (others ++ passages ledger.text value) (read ++ more)

/-- Readings all of which are postponed. -/
abbrev PostponedReadings := {read : List Reading // ∀ reading ∈ read, reading.postponed = true}

section Passages

variable (text : Text)

theorem passages_nil {α : Type} [HasPassages α] : passages text ([] : List α) = [] := rfl

theorem passages_cons {α : Type} [HasPassages α] (value : α) (values : List α) :
    passages text (value :: values) = passages text value ++ passages text values :=
  List.flatMap_cons

theorem passages_append {α : Type} [HasPassages α] (values others : List α) :
    passages text (values ++ others) = passages text values ++ passages text others :=
  List.flatMap_append

theorem Expr.passages_outlines (exprs : List Expr) :
    (Expr.outlines text exprs).passages = passages text exprs := by
  induction exprs with
  | nil => rfl
  | cons expr exprs ih =>
      rw [Expr.outlines, Outline.passages_append, ih, passages_cons]
      rfl

theorem Part.passages_outlines (parts : List Part) :
    (Part.outlines text parts).passages = passages text parts := by
  induction parts with
  | nil => rfl
  | cons part parts ih =>
      rw [Part.outlines, Outline.passages_append, ih, passages_cons]
      rfl

theorem Substitution.passages_outlines (substitutions : List Substitution) :
    (Substitution.outlines text substitutions).passages = passages text substitutions := by
  induction substitutions with
  | nil => rfl
  | cons substitution substitutions ih =>
      obtain ⟨expr, segment⟩ := substitution
      rw [Substitution.outlines, Outline.passages_append, Outline.passages_append,
        Outline.passages_leaf, ih, passages_cons, ← List.append_assoc]
      rfl

theorem Part.passages_branch {kind : NodeKind} {range : Range} (parts : List Part)
    (hkind : kind.passages range = []) :
    (Outline.branch kind range (Part.outlines text parts)).passages = passages text parts := by
  rw [Outline.passages_branch, hkind, List.nil_append, Part.passages_outlines]

theorem Expr.passages_call (range : Range) (callee : Expr) (arguments : List Expr) :
    passages text (Expr.call range callee arguments) =
      passages text callee ++ passages text arguments := by
  rw [← Expr.passages_outlines]
  exact List.append_nil _

theorem Expr.passages_template (range : Range) (first : Segment) (rest : List Substitution) :
    passages text (Expr.template range first rest) =
      passages text first ++ passages text rest := by
  rw [← Substitution.passages_outlines]
  exact (Outline.passages_branch ..).trans (Outline.passages_append ..)

end Passages

section Rules

variable {α β : Type} {ledger : Ledger} {read more rest further : List Reading}

theorem Listed.mono [Offers α] {value : α} (hvalue : Listed ledger read value)
    (hsublist : read.Sublist more) : Listed ledger more value :=
  ⟨Offers.mono (fun _ hfollows => hfollows.mono hsublist) hvalue.all⟩

theorem Listed.ofPostpone [Offers α] {value : α} (hvalue : Listed ledger read value)
    (delay : Delay) : Listed ledger (read.map (Reading.postpone delay)) value :=
  ⟨Offers.mono (fun _ hfollows => hfollows.ofPostpone delay) hvalue.all⟩

instance [Offers α] (value : ListedValue α ledger read) : Listed ledger read value.1 := ⟨value.2⟩

instance [Offers α] (condition : Prop) [Decidable condition] (yes no : α)
    [hyes : Listed ledger read yes] [hno : Listed ledger read no] :
    Listed ledger read (if condition then yes else no) := by
  split
  · exact hyes
  · exact hno

instance (priority := low) [Offers α] (value : α) [hvalue : Listed ledger more value] :
    Listed ledger (read ++ more) value :=
  hvalue.mono (List.sublist_append_right read more)

instance (priority := low) [Offers α] (value : α) [hvalue : Listed ledger read value] :
    Listed ledger (read ++ more) value :=
  hvalue.mono (List.sublist_append_left read more)

/-! ### What comes last -/

theorem EndsWith.ofEq [HasPassages α] [HasPassages β] {value : α} {same : β}
    (hsame : EndsWith ledger read same rest)
    (heq : passages ledger.text value = passages ledger.text same) :
    EndsWith ledger read value rest :=
  ⟨fun hothers => heq ▸ hsame.follows hothers⟩

/-- What is made of two values one after the other ends with the second, then with the first. -/
theorem EndsWith.ofAppend [HasPassages α] [HasPassages β] {γ : Type} [HasPassages γ] {value : α}
    {first : β} {second : γ} (hsecond : EndsWith ledger read second rest)
    (hfirst : EndsWith ledger rest first further)
    (heq : passages ledger.text value =
      passages ledger.text first ++ passages ledger.text second) :
    EndsWith ledger read value further where
  follows hothers := by
    rw [heq, ← List.append_assoc]
    exact hsecond.follows (hfirst.follows hothers)

instance (priority := low) [HasPassages α] (value : α) [hvalue : EndsWith ledger read value rest] :
    Listed ledger read value :=
  ⟨hvalue.follows (Ledger.follows_nil rest)⟩

-- A value is looked for from the back: in what was read last, then in all that is postponed, and
-- only then in what was read before, which gives up what was read last.
instance [HasPassages α] (value : α) [hvalue : Listed ledger more value] :
    EndsWith ledger (read ++ more) value read :=
  ⟨fun hothers => hothers.append hvalue.all⟩

instance (priority := low) [HasPassages α] (value : α)
    [hvalue : EndsWith ledger read value rest] : EndsWith ledger (read ++ more) value rest :=
  ⟨fun hothers => (hvalue.follows hothers).mono (List.sublist_append_left read more)⟩

instance (priority := mid) [HasPassages α] (value : α)
    [hvalue : Postpones ledger read value rest] : EndsWith ledger read value rest where
  follows hothers := by
    rw [← List.append_nil read]
    exact hvalue.follows (by rwa [List.append_nil])

instance [HasPassages α] (value : α) (postponed : PostponedReadings)
    [hvalue : Listed ledger postponed.1 value] :
    Postpones ledger (read ++ postponed.1) value read :=
  ⟨fun hothers => hothers.postpone hvalue.all postponed.2⟩

instance [HasPassages α] (value : α) [hvalue : Postpones ledger read value rest] :
    Postpones ledger (read ++ more) value (rest ++ more) where
  follows hothers := by
    rw [List.append_assoc] at hothers ⊢
    exact hvalue.follows hothers

instance (priority := high) [HasPassages α] : Postpones ledger read ([] : List α) read where
  follows hothers := by rwa [passages_nil, List.append_nil]

instance (priority := high) [HasPassages α] : EndsWith ledger read ([] : List α) read where
  follows hothers := by rwa [passages_nil, List.append_nil]

instance [HasPassages α] (value : α) (values : List α)
    [hvalues : EndsWith ledger read values rest] [hvalue : EndsWith ledger rest value further] :
    EndsWith ledger read (value :: values) further :=
  hvalues.ofAppend hvalue (passages_cons ..)

instance [HasPassages α] (values others : List α) [hothers : EndsWith ledger read others rest]
    [hvalues : EndsWith ledger rest values further] :
    EndsWith ledger read (values ++ others) further :=
  hothers.ofAppend hvalues (passages_append ..)

instance (range : Range) (name : String) : EndsWith ledger read (Expr.identifier range name) read :=
  have hnil : EndsWith ledger read ([] : List Expr) read := inferInstance
  hnil.ofEq rfl

instance (range : Range) (value : Text) [hrange : EndsWith ledger read range rest] :
    EndsWith ledger read (Expr.string range value) rest :=
  hrange.ofEq rfl

instance (range : Range) (inner : Expr) [hinner : EndsWith ledger read inner rest] :
    EndsWith ledger read (Expr.paren range inner) rest :=
  hinner.ofEq rfl

instance (range : Range) (callee : Expr) (arguments : List Expr)
    [harguments : EndsWith ledger read arguments rest]
    [hcallee : EndsWith ledger rest callee further] :
    EndsWith ledger read (Expr.call range callee arguments) further :=
  harguments.ofAppend hcallee (Expr.passages_call ..)

instance (range : Range) (arguments : List Expr)
    [harguments : EndsWith ledger read arguments rest] :
    EndsWith ledger read (Expr.bareCall range arguments) rest :=
  harguments.ofEq ((List.append_nil _).trans (Expr.passages_outlines ..))

instance (range : Range) (first : Segment) (substitutions : List Substitution)
    [hsubstitutions : EndsWith ledger read substitutions rest]
    [hfirst : EndsWith ledger rest first further] :
    EndsWith ledger read (Expr.template range first substitutions) further :=
  hsubstitutions.ofAppend hfirst (Expr.passages_template ..)

instance (expr : Expr) (segment : Segment) [hsegment : EndsWith ledger read segment rest]
    [hexpr : EndsWith ledger rest expr further] :
    EndsWith ledger read (Substitution.mk expr segment) further :=
  hsegment.ofAppend hexpr rfl

instance (range : Range) (parts : List Part) [hparts : EndsWith ledger read parts rest] :
    EndsWith ledger read (Expr.object range parts) rest :=
  hparts.ofEq (Part.passages_branch _ parts rfl)

instance (range : Range) (parts : List Part) [hparts : EndsWith ledger read parts rest] :
    EndsWith ledger read (Expr.markup range parts) rest :=
  hparts.ofEq (Part.passages_branch _ parts rfl)

instance (range : Range) (parts : List Part) [hparts : EndsWith ledger read parts rest] :
    EndsWith ledger read (Expr.other range parts) rest :=
  hparts.ofEq (Part.passages_branch _ parts rfl)

instance (expr : Expr) [hexpr : EndsWith ledger read expr rest] :
    EndsWith ledger read (Part.expr expr) rest :=
  hexpr.ofEq rfl

instance (role : Role) (range : Range) (parts : List Part)
    [hparts : EndsWith ledger read parts rest] :
    EndsWith ledger read (Part.plain role range parts) rest :=
  hparts.ofEq (Part.passages_branch _ parts (by cases role <;> rfl))

instance (range : Range) (key : Option String) (parts : List Part)
    [hparts : EndsWith ledger read parts rest] :
    EndsWith ledger read (Part.keyed range key parts) rest :=
  hparts.ofEq (Part.passages_branch _ parts rfl)

instance (range : Range) (name : String) (parts : List Part)
    [hparts : EndsWith ledger read parts rest] :
    EndsWith ledger read (Part.attribute range name parts) rest :=
  hparts.ofEq (Part.passages_branch _ parts rfl)

instance (range : Range) (declaration : ImportDeclaration) :
    EndsWith ledger read (Part.imports range declaration) read :=
  have hnil : EndsWith ledger read ([] : List Part) read := inferInstance
  hnil.ofEq rfl

instance (name : Option String) (computed : List Part)
    [hcomputed : EndsWith ledger read computed rest] :
    EndsWith ledger read (PropertyName.mk name computed) rest :=
  hcomputed.ofEq rfl

/-! ### Values that are listed -/

theorem Listed.ofEq [HasPassages α] [HasPassages β] {value : α} {same : β}
    (hsame : Listed ledger read same)
    (heq : passages ledger.text value = passages ledger.text same) : Listed ledger read value where
  all := by
    have hall : ledger.Follows (passages ledger.text same) read := hsame.all
    rw [← heq] at hall
    exact hall

instance (value : Bool) : Listed ledger read value := ⟨Ledger.follows_nil read⟩

instance (value : Nat) : Listed ledger read value := ⟨Ledger.follows_nil read⟩

theorem listed_of_forall [HasPassages α] {values : List α}
    (hvalues : ∀ value ∈ values, passages ledger.text value = []) : Listed ledger read values where
  all := by
    have hnil : passages ledger.text values = [] := List.flatMap_eq_nil_iff.mpr hvalues
    change ledger.Follows (passages ledger.text values) read
    rw [hnil]
    exact Ledger.follows_nil read

instance (values : List Nat) : Listed ledger read values := listed_of_forall fun _ _ => rfl

instance (text : Text) : Listed ledger read text := listed_of_forall fun _ _ => rfl

instance [Offers α] : Listed ledger read (none : Option α) := ⟨nofun⟩

instance [Offers α] (value : α) [hvalue : Listed ledger read value] :
    Listed ledger read (some value) :=
  ⟨by
    rintro _ ⟨⟩
    exact hvalue.all⟩

theorem Listed.ofSome [Offers α] {value : α} (h : Listed ledger read (some value)) :
    Listed ledger read value :=
  ⟨h.all value rfl⟩

instance (value? : Option (List Part)) [hvalue : Listed ledger read value?] :
    Listed ledger read (value?.getD []) := by
  cases value? with
  | none => exact inferInstanceAs (Listed ledger read ([] : List Part))
  | some value => exact hvalue.ofSome

instance [Offers α] [Offers β] (value : α) (other : β) [hvalue : Listed ledger read value]
    [hother : Listed ledger read other] : Listed ledger read (value, other) :=
  ⟨hvalue.all, hother.all⟩

instance [Offers α] [Offers β] (pair : α × β) [hpair : Listed ledger read pair] :
    Listed ledger read pair.1 :=
  ⟨hpair.all.1⟩

instance [Offers α] [Offers β] (pair : α × β) [hpair : Listed ledger read pair] :
    Listed ledger read pair.2 :=
  ⟨hpair.all.2⟩

instance [Offers α] [Offers β] (value : α) [hvalue : Listed ledger read value] :
    Listed ledger read (Sum.inl value : α ⊕ β) :=
  ⟨hvalue.all⟩

instance [Offers α] [Offers β] (value : β) [hvalue : Listed ledger read value] :
    Listed ledger read (Sum.inr value : α ⊕ β) :=
  ⟨hvalue.all⟩

theorem passages_map_expr (text : Text) (exprs : List Expr) :
    passages text (exprs.map Part.expr) = passages text exprs :=
  List.flatMap_map ..

instance (exprs : List Expr) [hexprs : Listed ledger read exprs] :
    Listed ledger read (exprs.map Part.expr) :=
  hexprs.ofEq (passages_map_expr ..)

instance (name : PropertyName) [hname : Listed ledger read name] :
    Listed ledger read name.computed :=
  ⟨hname.all⟩

instance (expr : Expr) [hexpr : Listed ledger read expr] : Listed ledger read expr.targetParts := by
  cases expr with
  | paren range inner => exact hexpr.ofEq (List.append_nil _)
  | other range parts => exact hexpr.ofEq (Part.passages_branch _ parts rfl).symm
  | identifier range name => exact inferInstanceAs (Listed ledger read ([] : List Part))
  | _ => exact hexpr.ofEq (List.append_nil _)

instance (expr : Expr) [hexpr : Listed ledger read expr] : Listed ledger read expr.objectParts := by
  cases expr with
  | object range parts => exact hexpr.ofEq (Part.passages_branch _ parts rfl).symm
  | _ => exact inferInstanceAs (Listed ledger read ([] : List Part))

instance (expr : Expr) (pattern : List Part) (target updated : Option (List Part))
    (operated : Bool) [hexpr : Listed ledger read expr] [hpattern : Listed ledger read pattern]
    [htarget : Listed ledger read target] [hupdated : Listed ledger read updated] :
    Listed ledger read (Operand.mk expr pattern target updated operated) :=
  ⟨hexpr.all, hpattern.all, htarget.all, hupdated.all⟩

instance (operand : Operand) [hoperand : Listed ledger read operand] :
    Listed ledger read operand.expr :=
  ⟨hoperand.all.1⟩

instance (operand : Operand) [hoperand : Listed ledger read operand] :
    Listed ledger read operand.pattern :=
  ⟨hoperand.all.2.1⟩

instance (operand : Operand) [hoperand : Listed ledger read operand] :
    Listed ledger read operand.target :=
  ⟨hoperand.all.2.2.1⟩

instance (operand : Operand) [hoperand : Listed ledger read operand] :
    Listed ledger read operand.updated :=
  ⟨hoperand.all.2.2.2⟩

instance (expr : Expr) [hexpr : Listed ledger read expr] :
    Listed ledger read (Operand.ofExpr expr) :=
  have : Listed ledger read [Part.expr expr] := hexpr.ofEq (List.append_nil _)
  inferInstanceAs (Listed ledger read (Operand.mk expr [.expr expr] none none false))

instance (expr : Expr) [hexpr : Listed ledger read expr] :
    Listed ledger read (Operand.ofPlace expr) :=
  have : Listed ledger read [Part.expr expr] := hexpr.ofEq (List.append_nil _)
  inferInstanceAs (Listed ledger read
    (Operand.mk expr [.expr expr] (some expr.targetParts) (some expr.targetParts) false))

theorem Listed.other {parts : List Part} (hparts : Listed ledger read parts) (range : Range) :
    Listed ledger read (Expr.other range parts) :=
  hparts.ofEq (Part.passages_branch _ parts rfl)

instance (range : Range) (parts : List Part) [hparts : Listed ledger read parts] :
    Listed ledger read (Operand.value range parts) :=
  have := hparts.other range
  inferInstanceAs (Listed ledger read (Operand.ofExpr (.other range parts)))

instance (range : Range) (parts : List Part) [hparts : Listed ledger read parts] :
    Listed ledger read (Operand.place range parts) :=
  have := hparts.other range
  inferInstanceAs (Listed ledger read (Operand.ofPlace (.other range parts)))

instance (expr : Option Expr) (pattern : List Part) (spread : Bool)
    [hexpr : Listed ledger read expr] [hpattern : Listed ledger read pattern] :
    Listed ledger read (Parser.ParenItem.mk expr pattern spread) :=
  ⟨hexpr.all, hpattern.all⟩

instance : Listed ledger read ([] : List Parser.ParenItem) where
  all := by
    refine ⟨?_, Ledger.follows_nil read⟩
    rintro _ ⟨⟩
    exact Ledger.follows_nil read

instance (items : List Parser.ParenItem) (item : Parser.ParenItem)
    [hitems : Listed ledger read items] [hitem : Listed ledger more item] :
    Listed ledger (read ++ more) (items ++ [item]) where
  all := by
    refine ⟨fun exprs hexprs => ?_, ?_⟩
    · simp only [List.mapM_append, List.mapM_cons, List.mapM_nil, Option.mem_def,
        Option.bind_eq_bind, Option.pure_def, Option.bind_eq_some_iff] at hexprs
      obtain ⟨front, hfront, _, ⟨last, hlast, _, ⟨⟩, ⟨⟩⟩, ⟨⟩⟩ := hexprs
      change ledger.Follows (passages ledger.text (front ++ [last])) (read ++ more)
      rw [passages_append, passages_cons, passages_nil, List.append_nil]
      exact (hitems.all.1 front hfront).append (hitem.all.1 last hlast)
    · change ledger.Follows (passages ledger.text (List.flatMap _ (items ++ [item]))) (read ++ more)
      rw [List.flatMap_append, List.flatMap_singleton, passages_append]
      exact hitems.all.2.append hitem.all.2

instance (items : List Parser.ParenItem) [hitems : Listed ledger read items] :
    Listed ledger read (items.mapM (·.expr)) :=
  ⟨hitems.all.1⟩

instance (items : List Parser.ParenItem) [hitems : Listed ledger read items] :
    Listed ledger read (items.flatMap (·.pattern)) :=
  ⟨hitems.all.2⟩

end Rules

end Syntax

end Untranslated
