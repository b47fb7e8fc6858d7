import Untranslated.Proofs.Convergence
import Untranslated.Proofs.Growth

/-!
# Byte-order marks

A byte-order mark at the start of a file is dropped before positions are counted,
but it stays in the text of the tree.  So with a mark before it a file has the
nodes that it has without, in the same ranges, and every range stops three bytes
short of what it is the range of.  The ranges of the longer text would be those
moved by three bytes: they select what the nodes stand for.
-/

namespace Untranslated

open Syntax

/-- The range as many bytes further on. -/
def Range.shift (range : Range) (count : Nat) : Range :=
  ⟨range.start + count, range.stop + count⟩

namespace Text

/-- The character that marks the byte order when it starts a file. -/
def mark : Char := '\uFEFF'

variable {char : Char} {text middle : Text} {range : Range}

theorem dropBytes?_cons_add (char : Char) (text : Text) (count : Nat) :
    dropBytes? (char :: text) (count + char.utf8Size) = dropBytes? text count := by
  have hsize := char.utf8Size_pos
  obtain ⟨size, hsize⟩ : ∃ size, count + char.utf8Size = size + 1 :=
    ⟨count + char.utf8Size - 1, by omega⟩
  have hrest : size + 1 - char.utf8Size = count := by omega
  rw [hsize, dropBytes?, if_pos (by omega), hrest]

/-- What stands in a text stands as many bytes further on when a character comes
before it as that character takes. -/
theorem slice?_cons_shift (char : Char) (text : Text) (range : Range) :
    slice? (char :: text) (range.shift char.utf8Size) = slice? text range := by
  simp only [slice?, Range.shift, dropBytes?_cons_add, Nat.add_le_add_iff_right,
    Nat.add_sub_add_right]

/-- A range that starts inside the first character selects nothing, unless it
starts with that character. -/
theorem slice?_cons_of_start_lt (hstart : range.start < char.utf8Size)
    (hslice : slice? (char :: text) range = some middle) :
    middle = [] ∨ ∃ more, middle = char :: more := by
  obtain ⟨front, back, htext, hfront, -⟩ := slice?_eq_some_iff.mp hslice
  cases front with
  | cons first front =>
      obtain ⟨rfl, -⟩ := List.cons_eq_cons.mp htext
      rw [byteSize_cons] at hfront
      omega
  | nil =>
      cases middle with
      | nil => exact .inl rfl
      | cons first more =>
          obtain ⟨rfl, -⟩ := List.cons_eq_cons.mp htext
          exact .inr ⟨more, rfl⟩

end Text

namespace Syntax

open Text (mark)

theorem withoutMark_mark (text : Text) : withoutMark (mark :: text) = text := by
  simp [withoutMark, mark]

/-- The parser does not tell a text with a mark from the text without. -/
theorem parse_mark (dialect : Dialect) {text : Text} (hmark : withoutMark text = text) :
    parse dialect (mark :: text) = parse dialect text := by
  unfold parse readModule
  rw [withoutMark_mark, hmark]

end Syntax

/-! ## The nodes of a module do not depend on the text -/

namespace Outline

/-- The outline without the source text of its literals. -/
def silent : Outline → Outline
  | nil => nil
  | node kind range _ held arguments rest =>
      node kind range [] held.silent arguments.silent rest.silent

theorem silent_append (outline others : Outline) :
    (outline ++ others).silent = outline.silent ++ others.silent := by
  induction outline with
  | nil => rfl
  | node kind range raw held arguments rest _ _ ih =>
      simp only [node_append, silent, ih]

theorem count_silent (outline : Outline) : outline.silent.count = outline.count := by
  induction outline with
  | nil => rfl
  | node kind range raw held arguments rest ihHeld ihArguments ihRest =>
      simp only [silent, count, ihHeld, ihArguments, ihRest]

theorem ids_silent (outline : Outline) (next : Nat) :
    outline.silent.ids next = outline.ids next := by
  induction outline generalizing next with
  | nil => rfl
  | node kind range raw held arguments rest _ _ ih =>
      simp only [silent, ids, count_silent, ih]

theorem nodes_silent (outline : Outline) (parent next : Nat) :
    outline.silent.nodes parent next = outline.nodes parent next := by
  induction outline generalizing parent next with
  | nil => rfl
  | node kind range raw held arguments rest ihHeld ihArguments ihRest =>
      simp only [silent, nodes, count_silent, ids_silent, ihHeld, ihArguments, ihRest]

theorem silent_branch {kind : NodeKind} {range : Range} {held other : Outline}
    (hheld : held.silent = other.silent) :
    (branch kind range held).silent = (branch kind range other).silent := by
  simp only [branch, silent, hheld]

end Outline

namespace Syntax

open Outline

variable (text other : Text)

mutual

theorem Expr.silent_outline : ∀ expr : Expr,
    (expr.outline text).silent = (expr.outline other).silent
  | .paren _ inner => by
      rw [Expr.outline, Expr.outline]
      exact Expr.silent_outline inner
  | .identifier _ _ => rfl
  | .string _ _ => by
      rw [Expr.outline, Expr.outline]
      rfl
  | .template range first rest => by
      rw [Expr.outline, Expr.outline]
      apply silent_branch
      rw [silent_append, silent_append, Substitution.silent_outlines rest]
  | .call range callee arguments => by
      simp only [Expr.outline, silent, Expr.silent_outline callee,
        Expr.silent_outlines arguments]
  | .bareCall range arguments => by
      simp only [Expr.outline, silent, Expr.silent_outlines arguments]
  | .object range parts | .markup range parts | .other range parts => by
      rw [Expr.outline, Expr.outline]
      exact silent_branch (Part.silent_outlines parts)

theorem Expr.silent_outlines : ∀ exprs : List Expr,
    (Expr.outlines text exprs).silent = (Expr.outlines other exprs).silent
  | [] => rfl
  | expr :: exprs => by
      rw [Expr.outlines, Expr.outlines, silent_append, silent_append,
        Expr.silent_outline expr, Expr.silent_outlines exprs]

theorem Substitution.silent_outlines : ∀ rest : List Substitution,
    (Substitution.outlines text rest).silent = (Substitution.outlines other rest).silent
  | [] => rfl
  | .mk expr segment :: rest => by
      rw [Substitution.outlines, Substitution.outlines]
      simp only [silent_append, Expr.silent_outline expr, Substitution.silent_outlines rest]

theorem Part.silent_outline : ∀ part : Part,
    (part.outline text).silent = (part.outline other).silent
  | .expr expr => by
      rw [Part.outline, Part.outline]
      exact Expr.silent_outline expr
  | .plain _ range parts | .keyed range _ parts | .attribute range _ parts => by
      rw [Part.outline, Part.outline]
      exact silent_branch (Part.silent_outlines parts)
  | .text _ _ => by
      rw [Part.outline, Part.outline]
      rfl
  | .imports _ _ => rfl

theorem Part.silent_outlines : ∀ parts : List Part,
    (Part.outlines text parts).silent = (Part.outlines other parts).silent
  | [] => rfl
  | part :: parts => by
      rw [Part.outlines, Part.outlines, silent_append, silent_append,
        Part.silent_outline part, Part.silent_outlines parts]

end

end Syntax

namespace Tree

open Text (mark)

variable {tree : Tree}

theorem ext_node? {other : Tree} (htext : tree.text = other.text)
    (hnode : ∀ id, tree.node? id = other.node? id) (hbody : tree.body = other.body) :
    tree = other := by
  obtain ⟨text, nodes, body⟩ := tree
  rw [mk.injEq]
  exact ⟨htext, Array.ext_getElem? hnode, hbody⟩

/-- The tree over another text: the root spans that text, and the ranges of the
other nodes are moved. -/
def movedTo (tree : Tree) (text : Text) (move : Range → Range) : Tree where
  text
  nodes := tree.nodes.mapIdx fun id node =>
    { node with range := if id = 0 then ⟨0, Text.byteSize text⟩ else move node.range }
  body := tree.body

/-- The text of the node with this number. -/
def textAt (tree : Tree) (id : Nat) : Text := ((tree.node? id).map tree.textOf).getD []

theorem node?_movedTo (text : Text) (move : Range → Range) (id : Nat) :
    (tree.movedTo text move).node? id = (tree.node? id).map fun node =>
      { node with range := if id = 0 then ⟨0, Text.byteSize text⟩ else move node.range } := by
  simp [node?, movedTo]

theorem textAt_movedTo (text : Text) (move : Range → Range) {id : Nat} {node : Node}
    (hid : id ≠ 0) (hnode : tree.node? id = some node) :
    (tree.movedTo text move).textAt id = (text.slice? (move node.range)).getD [] := by
  rw [textAt, node?_movedTo, hnode, Option.map_some, Option.map_some, Option.getD_some, textOf,
    if_neg hid]
  rfl

/-- It takes a node besides the root to tell how ranges are moved. -/
theorem movedTo_eq_movedTo_iff {text : Text} {move move' : Range → Range}
    (hmove : ∀ range, move range ≠ move' range) :
    tree.movedTo text move = tree.movedTo text move' ↔ tree.nodes.size ≤ 1 := by
  constructor
  · intro heq
    apply Nat.le_of_not_lt
    intro hsize
    have hnode : tree.node? 1 = some tree.nodes[1] := Array.getElem?_eq_getElem hsize
    have hone := congrArg (·.node? 1) heq
    simp only [node?_movedTo, hnode, Option.map_some, Option.some.injEq, Node.mk.injEq] at hone
    exact hmove _ hone.2.2
  · intro hsize
    refine ext_node? rfl (fun id => ?_) rfl
    rw [node?_movedTo, node?_movedTo]
    cases id with
    | zero => rfl
    | succ id =>
        have hnone : tree.node? (id + 1) = none := Array.getElem?_eq_none (by omega)
        rw [hnone]
        rfl

section OfModule

variable (text other : Text) (program : Module)

theorem node?_succ_ofModule (id : Nat) : (ofModule text program).node? (id + 1) =
    ((program.outline text).nodes 0 1)[id]? := by
  rw [ofModule_eq_grow]
  simp [grow, ofText, node?]

/-- A module has the same nodes over any text, the root apart. -/
theorem ofModule_eq_movedTo :
    ofModule other program = (ofModule text program).movedTo other fun range => range := by
  have hsilent : (program.outline other).silent = (program.outline text).silent :=
    Part.silent_outlines other text program.items
  refine ext_node? (text_ofModule other program) (fun id => ?_) ?_
  · rw [node?_movedTo]
    cases id with
    | zero =>
        rw [node?_zero_ofModule, node?_zero_ofModule]
        rfl
    | succ id =>
        rw [node?_succ_ofModule, node?_succ_ofModule, ← Outline.nodes_silent, hsilent,
          Outline.nodes_silent]
        simp
  · apply Array.toList_inj.mp
    rw [movedTo, toList_body_ofModule, toList_body_ofModule, ← Outline.ids_silent, hsilent,
      Outline.ids_silent]

end OfModule

/-- Reading a text with a mark before it gives the tree of the text: the ranges stay
as they are. -/
theorem parse_mark (path : String) {text : Text} (hmark : withoutMark text = text) :
    parse path (mark :: text) =
      (parse path text).map (·.movedTo (mark :: text) fun range => range) := by
  unfold parse
  rw [Syntax.parse_mark _ hmark]
  cases Syntax.parse (Dialect.ofPath path) text with
  | error error => rfl
  | ok program => exact congrArg Except.ok (ofModule_eq_movedTo text (mark :: text) program)

theorem utf8Size_mark : mark.utf8Size = 3 := by decide

theorem textAt_eq {id : Nat} {node : Node} (hnode : tree.node? id = some node) :
    tree.textAt id = (tree.text.slice? node.range).getD [] := by
  rw [textAt, hnode]
  rfl

theorem text_parse {path : String} {text : Text} (hparse : parse path text = .ok tree) :
    tree.text = text := by
  unfold parse at hparse
  cases hread : Syntax.parse (Dialect.ofPath path) text with
  | error error =>
      rw [hread] at hparse
      cases hparse
  | ok program =>
      rw [hread] at hparse
      cases hparse
      exact text_ofModule text program

/-- In ranges that are moved by the size of the mark, nodes have the text that they
have without the mark. -/
theorem textAt_movedTo_shift {id : Nat} (hid : id ≠ 0) :
    (tree.movedTo (mark :: tree.text) (·.shift 3)).textAt id = tree.textAt id := by
  cases hnode : tree.node? id with
  | none => simp [textAt, node?_movedTo, hnode]
  | some node =>
      rw [textAt_movedTo _ _ hid hnode, textAt_eq hnode, ← utf8Size_mark,
        Text.slice?_cons_shift]

/-- In ranges that stay as they are, a node has the text of what stands before it by
the size of the mark; near the start of the file it has none, or one that begins
with the mark. -/
theorem textAt_movedTo_mark {id : Nat} {node : Node} (hid : id ≠ 0)
    (hnode : tree.node? id = some node) :
    let found := (tree.movedTo (mark :: tree.text) fun range => range).textAt id
    (∀ before, node.range = before.shift 3 → found = (tree.text.slice? before).getD []) ∧
      (node.range.start < 3 → found = [] ∨ ∃ more, found = mark :: more) := by
  intro found
  have hfound : found = (Text.slice? (mark :: tree.text) node.range).getD [] :=
    textAt_movedTo _ _ hid hnode
  refine ⟨fun before hbefore => ?_, fun hstart => ?_⟩
  · rw [hfound, hbefore, ← utf8Size_mark, Text.slice?_cons_shift]
  · rw [hfound]
    cases hslice : Text.slice? (mark :: tree.text) node.range with
    | none => exact .inl rfl
    | some middle =>
        rw [← utf8Size_mark] at hstart
        exact Text.slice?_cons_of_start_lt hstart hslice

/-- With a mark before it a text is read as without, and the ranges stay as they are.
So the ranges are not those of the longer text, in which nodes would have the text
that they have without the mark, unless there is no node but the root: a node has
the text of what stands three bytes before it, or, near the start of the file, none
or one that begins with the mark. -/
theorem ranges_ignore_mark (path : String) (text : Text) (hmark : withoutMark text = text) :
    parse path (mark :: text) =
        (parse path text).map (·.movedTo (mark :: text) fun range => range) ∧
      ∀ tree, parse path text = .ok tree →
        (parse path (mark :: text) = .ok (tree.movedTo (mark :: text) (·.shift 3)) ↔
          tree.nodes.size = 1) ∧
        ∀ id node, id ≠ 0 → tree.node? id = some node →
          let found := (tree.movedTo (mark :: text) fun range => range).textAt id
          (tree.movedTo (mark :: text) (·.shift 3)).textAt id = tree.textAt id ∧
            (∀ before, node.range = before.shift 3 → found = (text.slice? before).getD []) ∧
            (node.range.start < 3 → found = [] ∨ ∃ more, found = mark :: more) := by
  refine ⟨parse_mark path hmark, fun tree hparse => ?_⟩
  have htext := text_parse hparse
  subst htext
  refine ⟨?_, fun id node hid hnode => ⟨textAt_movedTo_shift hid, textAt_movedTo_mark hid hnode⟩⟩
  have hmove (range : Range) : range ≠ range.shift 3 := by
    intro heq
    have hstart : range.start = range.start + 3 := congrArg Range.start heq
    omega
  have hsize : 0 < tree.nodes.size := by
    have hgrown := grown_parse path tree.text
    rw [hparse] at hgrown
    exact hgrown.built.rooted.size_pos
  rw [parse_mark path hmark, hparse, Except.map, Except.ok.injEq, movedTo_eq_movedTo_iff hmove]
  omega

/-- A file with two strings, the first of which starts in its third byte. -/
def twoStrings : Text := "f('да', 'нет')".toList

theorem ranges_ignore_mark_twoStrings :
    let tree := ofModule twoStrings (readOf "a.ts" twoStrings)
    let marked := tree.movedTo (mark :: twoStrings) fun range => range
    withoutMark twoStrings = twoStrings ∧ parse "a.ts" twoStrings = .ok tree ∧
      parse "a.ts" (mark :: twoStrings) = .ok marked ∧
      (tree.movedTo (mark :: twoStrings) (·.shift 3)).textAt 6 = tree.textAt 6 ∧
      marked.textAt 6 = ((twoStrings.slice? ⟨7, 15⟩).getD []) ∧
      parse "a.ts" (mark :: twoStrings) ≠ .ok (tree.movedTo (mark :: twoStrings) (·.shift 3)) := by
  intro tree marked
  have hmark : withoutMark twoStrings = twoStrings := by decide
  have hparse : parse "a.ts" twoStrings = .ok tree := by
    rw [parse, parse_eq_readOf (by decide +kernel)]
    rfl
  have hnode : tree.node? 6 = some ⟨.string "нет".toList, some 3, ⟨10, 18⟩⟩ := by
    decide +kernel
  obtain ⟨hread, htree⟩ := ranges_ignore_mark "a.ts" twoStrings hmark
  obtain ⟨hmoved, hnodes⟩ := htree tree hparse
  obtain ⟨hshifted, hbefore, -⟩ := hnodes 6 _ (by decide) hnode
  refine ⟨hmark, hparse, by rw [hread, hparse]; rfl, hshifted, hbefore ⟨7, 15⟩ rfl, ?_⟩
  rw [Ne, hmoved]
  decide +kernel

/-- The strings of a file with a mark before it do not have their text: the first
has none, since its range starts inside the mark, and the second has part of what
stands before it. -/
theorem twoStrings_cut_off :
    let tree := ofModule twoStrings (readOf "a.ts" twoStrings)
    let marked := ofModule (mark :: twoStrings) (readOf "a.ts" (mark :: twoStrings))
    marked ≠ tree.movedTo (mark :: twoStrings) (·.shift 3) ∧
      (tree.textAt 5 = "'да'".toList ∧ marked.textAt 5 = []) ∧
      tree.textAt 6 = "'нет'".toList ∧ marked.textAt 6 = "', 'не".toList := by
  decide +kernel

end Tree

end Untranslated
