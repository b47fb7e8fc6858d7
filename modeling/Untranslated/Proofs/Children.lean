import Mathlib.Data.List.Forall2
import Mathlib.Data.List.Sort
import Untranslated.Proofs.Findings
import Untranslated.Proofs.Preorder

/-!
# The children of calls and templates

A call is given its arguments only when they and all that they hold have been added,
and a template has its segments and substitutions as brothers of one another.  In the
finished tree the children of a call are the node of its callee, if that is an
expression, and then one node for each argument; and the children of a template are
its first segment and then, for each substitution, the node of the expression and
the segment after it.  The calls and templates of a tree are those of the module, one
node for each and in the order in which they are visited.
-/

namespace Untranslated

open Syntax

namespace Syntax

/-- A call or a template as it is written. -/
inductive Construct where
  /-- The callee is an expression unless it is the keyword `super` or `import`. -/
  | call (range : Range) (callee? : Option Expr) (arguments : List Expr)
  | template (range : Range) (first : Segment) (rest : List Substitution)

def Substitution.expr : Substitution → Expr
  | mk expr _ => expr

/-- The template text after the substitution. -/
def Substitution.after : Substitution → Segment
  | mk _ after => after

mutual

/-- The calls and templates in an expression, each before those that it holds. -/
def Expr.constructs : Expr → List Construct
  | .paren _ inner => inner.constructs
  | .identifier _ _ | .string _ _ => []
  | .template range first rest =>
      .template range first rest :: Substitution.constructs rest
  | .call range callee arguments =>
      .call range (some callee) arguments ::
        (callee.constructs ++ Expr.listConstructs arguments)
  | .bareCall range arguments =>
      .call range none arguments :: Expr.listConstructs arguments
  | .object _ parts | .markup _ parts | .other _ parts => Part.listConstructs parts

def Expr.listConstructs : List Expr → List Construct
  | [] => []
  | expr :: exprs => expr.constructs ++ Expr.listConstructs exprs

def Substitution.constructs : List Substitution → List Construct
  | [] => []
  | .mk expr _ :: rest => expr.constructs ++ Substitution.constructs rest

def Part.constructs : Part → List Construct
  | .expr expr => expr.constructs
  | .plain _ _ parts | .keyed _ _ parts | .attribute _ _ parts => Part.listConstructs parts
  | .text _ _ | .imports _ _ => []

def Part.listConstructs : List Part → List Construct
  | [] => []
  | part :: parts => part.constructs ++ Part.listConstructs parts

end

def Module.constructs (program : Module) : List Construct := Part.listConstructs program.items

end Syntax

def NodeKind.isConstruct : NodeKind → Bool
  | .call _ _ | .template => true
  | _ => false

namespace Outline

/-- The numbers of the calls and templates, when the first node is `next`. -/
def constructIds : Outline → Nat → List Nat
  | nil, _ => []
  | node kind _ _ held arguments rest, next =>
      (if kind.isConstruct then [next] else []) ++
        (held.constructIds (next + 1) ++
          (arguments.constructIds (next + 1 + held.count) ++
            rest.constructIds (next + 1 + held.count + arguments.count)))

theorem constructIds_append (outline others : Outline) (next : Nat) :
    (outline ++ others).constructIds next =
      outline.constructIds next ++ others.constructIds (next + outline.count) := by
  induction outline generalizing next with
  | nil => rfl
  | node kind range raw held arguments rest _ _ ih =>
      simp only [node_append, constructIds, ih, count, List.append_assoc]
      congr 5
      omega

theorem constructIds_branch {kind : NodeKind} (hkind : kind.isConstruct = false) (range : Range)
    (held : Outline) (next : Nat) :
    (branch kind range held).constructIds next = held.constructIds (next + 1) := by
  simp [branch, constructIds, hkind]

end Outline

namespace Tree

variable {tree : Tree} {parent next : Nat}

/-- The nodes right below a node, in order. -/
def children (tree : Tree) (id : Nat) : List Nat :=
  (List.range tree.nodes.size).filter fun child => tree.parent? child == some id

/-- The node is a call or a template. -/
def isConstruct (tree : Tree) (id : Nat) : Bool :=
  match tree.kind? id with
  | some kind => kind.isConstruct
  | none => false

/-- The calls and templates of a tree, in order. -/
def constructIds (tree : Tree) : List Nat :=
  (List.range tree.nodes.size).filter tree.isConstruct

/-! ## Outlines that stand in a tree -/

/-- A tree that has grown has the nodes of an outline below an earlier node, and nothing
that comes after them is below one of them. -/
structure Stands (tree : Tree) (parent next : Nat) (outline : Outline) : Prop where
  grown : tree.Grown
  holds : tree.Holds parent next outline
  parent_lt : parent < next
  closed : tree.Closed next (next + outline.count)

namespace Stands

section Node

variable {kind : NodeKind} {range : Range} {raw : Text} {held arguments rest : Outline}
  (hstands : tree.Stands parent next (.node kind range raw held arguments rest))

include hstands

theorem ofHeld : tree.Stands next (next + 1) held :=
  ⟨hstands.grown, hstands.holds.ofHeld, Nat.lt_succ_self next,
    hstands.holds.closed_held hstands.parent_lt hstands.closed⟩

theorem ofArguments : tree.Stands next (next + 1 + held.count) arguments :=
  ⟨hstands.grown, hstands.holds.ofArguments, by omega,
    hstands.holds.closed_arguments hstands.parent_lt hstands.closed⟩

end Node

theorem ofAppend {outline others : Outline}
    (hstands : tree.Stands parent next (outline ++ others)) :
    tree.Stands parent next outline ∧
      tree.Stands parent (next + outline.count) others := by
  have hcount : (outline ++ others).count = outline.count + others.count := by
    have hlength := congrArg List.length (Outline.nodes_append outline others parent next)
    simpa using hlength
  obtain ⟨hholds, hothers⟩ := hstands.holds.ofAppend
  have hlt := hstands.parent_lt
  have hclosed := hstands.closed
  rw [hcount] at hclosed
  refine ⟨⟨hstands.grown, hholds, hlt, fun id above hid habove => ?_⟩,
    ⟨hstands.grown, hothers, by omega, fun id above hid habove => ?_⟩⟩
  · by_cases hinside : id < next + outline.count + others.count
    · have := hothers.parent_cases hid hinside habove
      omega
    · have := hclosed id above (by omega) habove
      omega
  · have := hclosed id above (by omega) habove
    omega

end Stands

/-- A node of an outline whose parent is the node that holds the outline is an
outermost one. -/
theorem Holds.mem_ids {outline : Outline} (hholds : tree.Holds parent next outline)
    (hlt : parent < next) {id : Nat} (hnext : next ≤ id) (hid : id < next + outline.count)
    (hparent : tree.parent? id = some parent) : id ∈ outline.ids next := by
  induction outline generalizing next with
  | nil => exact absurd hid (Nat.not_lt.mpr hnext)
  | node kind range raw held arguments rest _ _ ih =>
      rw [Outline.count] at hid
      rw [Outline.ids, List.mem_cons]
      by_cases hfirst : id = next
      · exact .inl hfirst
      by_cases hheld : id < next + 1 + held.count
      · have := hholds.ofHeld.parent_cases (by omega) hheld hparent
        omega
      by_cases harguments : id < next + 1 + held.count + arguments.count
      · have := hholds.ofArguments.parent_cases (by omega) harguments hparent
        omega
      · exact .inr (ih hholds.ofRest (by omega) (by omega) (by omega))

/-- The children of a node are the outermost nodes of what it holds and then those of
its arguments. -/
theorem Stands.children_eq {kind : NodeKind} {range : Range} {raw : Text}
    {held arguments rest : Outline}
    (hstands : tree.Stands parent next (.node kind range raw held arguments rest)) :
    tree.children next = held.ids (next + 1) ++ arguments.ids (next + 1 + held.count) := by
  have hholds := hstands.holds
  have hown := hholds.closed_own hstands.parent_lt hstands.closed
  have hsorted : (held.ids (next + 1) ++ arguments.ids (next + 1 + held.count)).Pairwise
      (· < ·) := by
    rw [← Outline.ids_append]
    exact Outline.pairwise_ids _ _
  refine (List.pairwise_lt_range.filter _).eq_of_mem_iff hsorted fun id => ?_
  simp only [List.mem_filter, List.mem_range, beq_iff_eq, List.mem_append]
  constructor
  · rintro ⟨-, hparent⟩
    have hbelow : tree.Below next id := .child hparent
    have hafter := hstands.grown.lt_of_below hbelow
    have hbefore := hown.lt_of_below hstands.grown (by omega) hbelow
    by_cases hheld : id < next + 1 + held.count
    · exact .inl (hholds.ofHeld.mem_ids (by omega) hafter hheld hparent)
    · exact .inr (hholds.ofArguments.mem_ids (by omega) (by omega) hbefore hparent)
  · have hsize {id : Nat} (hparent : tree.parent? id = some next) : id < tree.nodes.size := by
      apply Nat.lt_of_not_le
      intro hsize
      rw [parent?_eq_none hsize] at hparent
      cases hparent
    rintro (hid | hid)
    · have hparent := hholds.ofHeld.parent?_of_mem_ids hid
      exact ⟨hsize hparent, hparent⟩
    · have hparent := hholds.ofArguments.parent?_of_mem_ids hid
      exact ⟨hsize hparent, hparent⟩

/-- The calls and templates among the nodes of an outline. -/
theorem Holds.filter_isConstruct {outline : Outline} (hholds : tree.Holds parent next outline) :
    (List.range' next outline.count).filter tree.isConstruct = outline.constructIds next := by
  induction outline generalizing parent next with
  | nil => rfl
  | node kind range raw held arguments rest ihHeld ihArguments ihRest =>
      have hkind : tree.isConstruct next = kind.isConstruct := by
        rw [isConstruct, kind?, hholds.own]
        cases kind <;> rfl
      rw [Outline.range'_count_node, List.filter_cons, hkind, List.filter_append,
        List.filter_append, ihHeld hholds.ofHeld, ihArguments hholds.ofArguments,
        ihRest hholds.ofRest, Outline.constructIds]
      split <;> rfl

/-! ## What a node keeps of a call or a template -/

/-- The nodes from `id` on are those of an expression. -/
def HoldsExpr (tree : Tree) (text : Text) (parent id : Nat) (expr : Expr) : Prop :=
  tree.Holds parent id (expr.outline text)

/-- The node is that of a call or a template and has its children: for a call that of
the callee and then its arguments, for a template the first segment and then the
expression and the segment of each substitution, where the node of an expression is
no segment. -/
def Keeps (tree : Tree) (text : Text) (id : Nat) : Construct → Prop
  | .call range callee? arguments =>
      ∃ callee ids above,
        tree.node? id = some ⟨.call (callee?.bind Expr.name?) ids, above, range⟩ ∧
        tree.children id = callee ++ ids ∧
        List.Forall₂ (tree.HoldsExpr text id) callee callee?.toList ∧
        List.Forall₂ (tree.HoldsExpr text id) ids arguments
  | .template range first rest =>
      ∃ (firstId : Nat) (pairs : List (Nat × Nat)) (above : Option Nat),
        tree.node? id = some ⟨.template, above, range⟩ ∧
        tree.children id = firstId :: pairs.flatMap (fun pair => [pair.1, pair.2]) ∧
        tree.node? firstId = some ⟨.segment first.raw, id, first.range⟩ ∧
        List.Forall₂ (fun pair substitution =>
          tree.HoldsExpr text id pair.1 substitution.expr ∧
          (∀ kind ∈ tree.kind? pair.1, kind.isSegment = false) ∧
          tree.node? pair.2 =
            some ⟨.segment substitution.after.raw, id, substitution.after.range⟩) pairs rest

/-- The node of an expression is no template segment. -/
theorem HoldsExpr.isSegment_eq_false {text : Text} {id : Nat} {expr : Expr}
    (hexpr : tree.HoldsExpr text parent id expr) :
    ∀ kind ∈ tree.kind? id, kind.isSegment = false := by
  have hfree := expr.segmentFree_outline text
  have hids := Expr.ids_outline text id expr
  unfold HoldsExpr at hexpr
  cases houtline : expr.outline text with
  | nil =>
      rw [houtline] at hids
      cases hids
  | node kind range raw held arguments rest =>
      rw [houtline] at hexpr hfree
      rw [kind?, hexpr.own]
      rintro _ ⟨⟩
      rw [Outline.segmentFree, Bool.and_eq_true] at hfree
      cases kind <;> simp_all [Outline.withArguments, NodeKind.isSegment]

/-- The outermost nodes of a list of expressions are those of its members. -/
theorem Holds.forall₂_outlines {text : Text} {exprs : List Expr}
    (hholds : tree.Holds parent next (Expr.outlines text exprs)) :
    List.Forall₂ (tree.HoldsExpr text parent) ((Expr.outlines text exprs).ids next) exprs := by
  induction exprs generalizing next with
  | nil => exact .nil
  | cons expr exprs ih =>
      rw [Expr.outlines] at hholds ⊢
      rw [Outline.ids_append, Expr.ids_outline]
      exact .cons hholds.ofAppend.1 (ih hholds.ofAppend.2)

/-- The outermost nodes of the substitutions of a template come in pairs. -/
theorem Holds.exists_pairs {text : Text} {rest : List Substitution}
    (hholds : tree.Holds parent next (Substitution.outlines text rest)) :
    ∃ pairs : List (Nat × Nat),
      (Substitution.outlines text rest).ids next =
        pairs.flatMap (fun pair => [pair.1, pair.2]) ∧
      List.Forall₂ (fun pair substitution =>
        tree.HoldsExpr text parent pair.1 substitution.expr ∧
        (∀ kind ∈ tree.kind? pair.1, kind.isSegment = false) ∧
        tree.node? pair.2 =
          some ⟨.segment substitution.after.raw, parent, substitution.after.range⟩)
        pairs rest := by
  induction rest generalizing next with
  | nil => exact ⟨[], rfl, .nil⟩
  | cons substitution rest ih =>
      obtain ⟨expr, segment⟩ := substitution
      rw [Substitution.outlines] at hholds ⊢
      obtain ⟨hexpr, hmore⟩ := hholds.ofAppend
      obtain ⟨hsegment, hrest⟩ := hmore.ofAppend
      obtain ⟨pairs, hids, hpairs⟩ := ih hrest
      refine ⟨(next, next + (expr.outline text).count) :: pairs, ?_,
        .cons ⟨hexpr, HoldsExpr.isSegment_eq_false hexpr, hsegment.own⟩ hpairs⟩
      rw [Outline.ids_append, Outline.ids_append, Expr.ids_outline, hids]
      rfl

end Tree

namespace Syntax

open Untranslated.Tree

variable {tree : Tree} (text : Text)

mutual

theorem Expr.forall₂_keeps : ∀ (expr : Expr) {parent next : Nat},
    tree.Stands parent next (expr.outline text) →
    List.Forall₂ (tree.Keeps text) ((expr.outline text).constructIds next) expr.constructs
  | .paren _ inner, parent, next, hstands => by
      rw [Expr.outline] at hstands ⊢
      rw [Expr.constructs]
      exact Expr.forall₂_keeps inner hstands
  | .identifier _ _, _, _, _ | .string _ _, _, _, _ => by
      rw [Expr.outline, Expr.constructs]
      exact .nil
  | .template range first rest, parent, next, hstands => by
      rw [Expr.outline, Outline.branch] at hstands ⊢
      rw [Expr.constructs]
      have hchildren := hstands.children_eq
      obtain ⟨hfirst, hrest⟩ := hstands.ofHeld.ofAppend
      obtain ⟨pairs, hids, hpairs⟩ := hrest.holds.exists_pairs
      have hmore := Substitution.forall₂_keeps rest hrest
      rw [Outline.constructIds, Outline.constructIds_append]
      refine .cons ⟨next + 1, pairs, some parent, hstands.holds.own, ?_, hfirst.holds.own,
        hpairs⟩ ?_
      · rw [hchildren, Outline.ids_append, hids]
        simp [Outline.leaf, Outline.ids]
      · simpa [Outline.leaf, Outline.constructIds, NodeKind.isConstruct] using hmore
  | .call range callee arguments, parent, next, hstands => by
      rw [Expr.outline] at hstands ⊢
      rw [Expr.constructs, Outline.constructIds]
      have hcallee := Expr.forall₂_keeps callee hstands.ofHeld
      have harguments := Expr.listForall₂_keeps arguments hstands.ofArguments
      refine .cons ⟨[next + 1], _, some parent, hstands.holds.own, ?_,
        .cons hstands.ofHeld.holds .nil, hstands.ofArguments.holds.forall₂_outlines⟩ ?_
      · rw [hstands.children_eq, Expr.ids_outline]
      · rw [Outline.constructIds, List.append_nil]
        exact List.rel_append hcallee harguments
  | .bareCall range arguments, parent, next, hstands => by
      rw [Expr.outline] at hstands ⊢
      rw [Expr.constructs, Outline.constructIds]
      have harguments := Expr.listForall₂_keeps arguments hstands.ofArguments
      refine .cons ⟨[], _, some parent, hstands.holds.own, hstands.children_eq, .nil,
        hstands.ofArguments.holds.forall₂_outlines⟩ ?_
      rw [Outline.constructIds, Outline.constructIds, List.append_nil]
      exact harguments
  | .object range parts, parent, next, hstands | .markup range parts, parent, next, hstands
  | .other range parts, parent, next, hstands => by
      rw [Expr.outline] at hstands ⊢
      rw [Expr.constructs, Outline.constructIds_branch rfl]
      exact Part.listForall₂_keeps parts hstands.ofHeld

theorem Expr.listForall₂_keeps : ∀ (exprs : List Expr) {parent next : Nat},
    tree.Stands parent next (Expr.outlines text exprs) →
    List.Forall₂ (tree.Keeps text) ((Expr.outlines text exprs).constructIds next)
      (Expr.listConstructs exprs)
  | [], _, _, _ => by
      rw [Expr.outlines, Expr.listConstructs]
      exact .nil
  | expr :: exprs, parent, next, hstands => by
      rw [Expr.outlines] at hstands ⊢
      rw [Expr.listConstructs, Outline.constructIds_append]
      exact List.rel_append (Expr.forall₂_keeps expr hstands.ofAppend.1)
        (Expr.listForall₂_keeps exprs hstands.ofAppend.2)

theorem Substitution.forall₂_keeps : ∀ (rest : List Substitution) {parent next : Nat},
    tree.Stands parent next (Substitution.outlines text rest) →
    List.Forall₂ (tree.Keeps text) ((Substitution.outlines text rest).constructIds next)
      (Substitution.constructs rest)
  | [], _, _, _ => by
      rw [Substitution.outlines, Substitution.constructs]
      exact .nil
  | .mk expr segment :: rest, parent, next, hstands => by
      rw [Substitution.outlines] at hstands ⊢
      rw [Substitution.constructs, Outline.constructIds_append, Outline.constructIds_append]
      obtain ⟨hexpr, hmore⟩ := hstands.ofAppend
      exact List.rel_append (Expr.forall₂_keeps expr hexpr)
        (Substitution.forall₂_keeps rest hmore.ofAppend.2)

theorem Part.forall₂_keeps : ∀ (part : Part) {parent next : Nat},
    tree.Stands parent next (part.outline text) →
    List.Forall₂ (tree.Keeps text) ((part.outline text).constructIds next) part.constructs
  | .expr expr, parent, next, hstands => by
      rw [Part.outline] at hstands ⊢
      rw [Part.constructs]
      exact Expr.forall₂_keeps expr hstands
  | .plain _ range parts, parent, next, hstands | .keyed range _ parts, parent, next, hstands
  | .attribute range _ parts, parent, next, hstands => by
      rw [Part.outline] at hstands ⊢
      rw [Part.constructs, Outline.constructIds_branch rfl]
      exact Part.listForall₂_keeps parts hstands.ofHeld
  | .text _ _, _, _, _ | .imports _ _, _, _, _ => by
      rw [Part.outline, Part.constructs]
      exact .nil

theorem Part.listForall₂_keeps : ∀ (parts : List Part) {parent next : Nat},
    tree.Stands parent next (Part.outlines text parts) →
    List.Forall₂ (tree.Keeps text) ((Part.outlines text parts).constructIds next)
      (Part.listConstructs parts)
  | [], _, _, _ => by
      rw [Part.outlines, Part.listConstructs]
      exact .nil
  | part :: parts, parent, next, hstands => by
      rw [Part.outlines] at hstands ⊢
      rw [Part.listConstructs, Outline.constructIds_append]
      exact List.rel_append (Part.forall₂_keeps part hstands.ofAppend.1)
        (Part.listForall₂_keeps parts hstands.ofAppend.2)

end

end Syntax

namespace Tree

section OfModule

variable (text : Text) (program : Module)

theorem stands_ofModule : (ofModule text program).Stands 0 1 (program.outline text) where
  grown := grown_ofModule text program
  holds := holds_ofModule text program
  parent_lt := Nat.one_pos
  closed := by
    intro id parent hid hparent
    rw [← size_ofModule] at hid
    rw [parent?_eq_none hid] at hparent
    cases hparent

theorem constructIds_ofModule :
    (ofModule text program).constructIds = (program.outline text).constructIds 1 := by
  have hroot : (ofModule text program).isConstruct 0 = false := by
    rw [isConstruct, kind?, node?_zero_ofModule]
    rfl
  rw [constructIds, size_ofModule, List.range_eq_range', Nat.add_comm, List.range'_succ,
    List.filter_cons_of_neg (by rw [hroot]; exact Bool.false_ne_true)]
  exact (holds_ofModule text program).filter_isConstruct

/-- Each call and each template of a module has its node, in the order in which they
are visited, and the node has their parts for its children. -/
theorem forall₂_keeps_ofModule :
    List.Forall₂ ((ofModule text program).Keeps text) (ofModule text program).constructIds
      program.constructs := by
  rw [constructIds_ofModule]
  exact Part.listForall₂_keeps text program.items (stands_ofModule text program)

end OfModule

variable {tree : Tree} {text : Text} {constructs : List Construct}

/-- Every call and every template of a tree is one that was written. -/
theorem exists_keeps (hkeeps : List.Forall₂ (tree.Keeps text) tree.constructIds constructs)
    {id : Nat} {kind : NodeKind} (hkind : tree.kind? id = some kind)
    (hconstruct : kind.isConstruct = true) : ∃ construct, tree.Keeps text id construct := by
  have hmem : id ∈ tree.constructIds := by
    obtain ⟨node, hnode, -⟩ := Option.map_eq_some_iff.mp hkind
    have hsize := (Array.getElem?_eq_some_iff.mp hnode).1
    refine List.mem_filter.mpr ⟨List.mem_range.mpr hsize, ?_⟩
    rw [isConstruct, hkind]
    exact hconstruct
  obtain ⟨index, hindex, rfl⟩ := List.getElem_of_mem hmem
  exact ⟨_, hkeeps.get hindex (hkeeps.length_eq ▸ hindex)⟩

theorem mem_children {id : Nat} {node : Node} (hnode : tree.node? id = some node) {parent : Nat}
    (hparent : node.parent = some parent) : id ∈ tree.children parent := by
  have hsize := (Array.getElem?_eq_some_iff.mp hnode).1
  refine List.mem_filter.mpr ⟨List.mem_range.mpr hsize, ?_⟩
  rw [parent?, hnode, Option.bind_some, hparent]
  exact beq_self_eq_true _

/-- Below a call whose callee is a name, everything but the node of that name is an
argument. -/
theorem Keeps.mem_arguments {construct : Construct} {call : Nat}
    (hkeeps : tree.Keeps text call construct) {callee : String} {arguments : List Nat}
    (hcall : tree.kind? call = some (.call (some callee) arguments)) {id : Nat} {node : Node}
    (hnode : tree.node? id = some node) (hparent : node.parent = some call)
    (hother : node.kind ≠ .other) : id ∈ arguments := by
  have hchild := mem_children hnode hparent
  cases construct with
  | template range first rest =>
      obtain ⟨firstId, pairs, above, htemplate, -⟩ := hkeeps
      rw [kind?, htemplate] at hcall
      cases hcall
  | call range callee? exprs =>
      obtain ⟨held, ids, above, hnode', hchildren, hcallee, -⟩ := hkeeps
      rw [kind?, hnode', Option.map_some, Option.some.injEq, NodeKind.call.injEq] at hcall
      obtain ⟨hname, rfl⟩ := hcall
      rw [hchildren, List.mem_append] at hchild
      refine hchild.resolve_left fun hheld => hother ?_
      -- What is held is the callee alone, and as the callee has a name it is an identifier.
      cases callee? with
      | none => cases hname
      | some expr =>
          cases hcallee with
          | cons hexpr hrest =>
              cases hrest
              obtain rfl := List.mem_singleton.mp hheld
              cases expr with
              | identifier range name =>
                  have hown : tree.node? id = some ⟨.other, call, range⟩ := hexpr 0 _ rfl
                  cases hnode.symm.trans hown
                  rfl
              | _ => cases hname

/-- The calls and templates of a module are those of its tree, one node for each and in
the order in which they are visited.  The children of a call are the node of its
callee, unless that is a keyword, and then exactly its arguments, one for each that is
written; those of a template are its first segment and then an expression and a
segment in turn.  So a literal or a template right below a call whose callee is a name
is among the arguments of the call. -/
theorem ofModule_keeps_children (text : Text) (program : Module) :
    let tree := ofModule text program
    List.Forall₂ (tree.Keeps text) tree.constructIds program.constructs ∧
      ∀ id node call callee arguments, tree.node? id = some node →
        node.kind.isLiteral = true ∨ node.kind = .template → node.parent = some call →
        tree.kind? call = some (.call (some callee) arguments) → id ∈ arguments := by
  intro tree
  have hkeeps := forall₂_keeps_ofModule text program
  refine ⟨hkeeps, fun id node call callee arguments hnode hkind hparent hcall => ?_⟩
  obtain ⟨construct, hconstruct⟩ := exists_keeps hkeeps hcall rfl
  refine hconstruct.mem_arguments hcall hnode hparent fun hother => ?_
  rw [hother] at hkind
  rcases hkind with hliteral | htemplate
  · cases hliteral
  · cases htemplate

end Tree

end Untranslated
