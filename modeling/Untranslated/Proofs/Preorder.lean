import Untranslated.Proofs.Detection
import Untranslated.Proofs.Growth

/-!
# The order of nodes

The nodes of a module are numbered from the top: a node comes before what is below
it, what is below it comes next, and nothing else comes between.  So what is below a
node is an interval of numbers.  Right below the root is one node for each item.

The tree is built by a walk through the syntax.  Written with a stack of the nodes
that the walk is inside of, it enters a node before what the node holds and leaves
it afterwards; whatever it visits, the stack is in the end what it was.
-/

namespace Untranslated

open Syntax

/-! ## The walk -/

/-- A walk through the syntax: the tree so far, and the nodes that the walk is inside
of, innermost first. -/
structure Walk where
  tree : Tree
  parents : List Nat

namespace Walk

/-- The node below which the next one goes. -/
def parent (walk : Walk) : Nat := walk.parents.head?.getD 0

/-- Adds a node inside of the one that the walk has entered last. -/
def add (walk : Walk) (kind : NodeKind) (range : Range) : Walk × Nat :=
  let (tree, id) := walk.tree.push kind walk.parent range
  ({ walk with tree }, id)

def enter (walk : Walk) (id : Nat) : Walk := { walk with parents := id :: walk.parents }

def leave (walk : Walk) : Walk := { walk with parents := walk.parents.tail }

mutual

def visitExpr (walk : Walk) : Expr → Walk × Nat
  | .paren _ inner => visitExpr walk inner
  | .identifier range _ => walk.add .other range
  | .string range value => walk.add (.string value) range
  | .template range first rest =>
      let (walk, id) := walk.add .template range
      let (walk, _) := (walk.enter id).add (.segment first.raw) first.range
      ((visitSubstitutions walk rest).leave, id)
  | .call range callee arguments =>
      let (walk, id) := walk.add (.call callee.name? []) range
      let (walk, _) := visitExpr (walk.enter id) callee
      let (walk, ids) := visitArguments walk arguments
      ({ walk.leave with tree := walk.tree.setArguments id ids }, id)
  | .bareCall range arguments =>
      let (walk, id) := walk.add (.call none []) range
      let (walk, ids) := visitArguments (walk.enter id) arguments
      ({ walk.leave with tree := walk.tree.setArguments id ids }, id)
  | .object range parts =>
      let (walk, id) := walk.add .object range
      ((visitParts (walk.enter id) parts).leave, id)
  | .markup range parts =>
      let (walk, id) := walk.add .markup range
      ((visitParts (walk.enter id) parts).leave, id)
  | .other range parts =>
      let (walk, id) := walk.add .other range
      ((visitParts (walk.enter id) parts).leave, id)

def visitArguments (walk : Walk) : List Expr → Walk × List Nat
  | [] => (walk, [])
  | argument :: arguments =>
      let (walk, id) := visitExpr walk argument
      let (walk, ids) := visitArguments walk arguments
      (walk, id :: ids)

def visitSubstitutions (walk : Walk) : List Substitution → Walk
  | [] => walk
  | .mk expr segment :: rest =>
      let (walk, _) := visitExpr walk expr
      let (walk, _) := walk.add (.segment segment.raw) segment.range
      visitSubstitutions walk rest

def visitPart (walk : Walk) : Part → Walk
  | .expr expr => (visitExpr walk expr).1
  | .plain _ range parts =>
      let (walk, id) := walk.add .other range
      (visitParts (walk.enter id) parts).leave
  | .keyed range key parts =>
      let (walk, id) := walk.add (.property key) range
      (visitParts (walk.enter id) parts).leave
  | .attribute range name parts =>
      let (walk, id) := walk.add (.attribute name) range
      (visitParts (walk.enter id) parts).leave
  | .text range value => (walk.add (.markupText value) range).1
  | .imports range declaration => (walk.add (.imports declaration) range).1

def visitParts (walk : Walk) : List Part → Walk
  | [] => walk
  | part :: parts => visitParts (visitPart walk part) parts

end

/-- The walk through a module, which starts inside of the root. -/
def ofModule (text : Text) (program : Module) : Walk :=
  visitParts ⟨.ofText text, [0]⟩ program.items

/-- The walk with another tree. -/
def withTree (walk : Walk) (tree : Tree) : Walk := { walk with tree }

theorem add_eq (walk : Walk) (kind : NodeKind) (range : Range) : walk.add kind range =
    (walk.withTree (walk.tree.push kind walk.parent range).1, walk.tree.nodes.size) := rfl

theorem withTree_tree (walk : Walk) : walk.withTree walk.tree = walk := rfl

mutual

/-- Visiting an expression lowers it inside of the node that was entered last, and
leaves the stack as it was. -/
theorem visitExpr_eq : ∀ (expr : Expr) (walk : Walk), walk.visitExpr expr =
    (walk.withTree (Tree.lowerExpr walk.tree walk.parent expr).1,
      (Tree.lowerExpr walk.tree walk.parent expr).2)
  | .paren _ inner, walk => by
      rw [visitExpr, Tree.lowerExpr]
      exact visitExpr_eq inner walk
  | .identifier _ _, walk | .string _ _, walk => by
      rw [visitExpr, Tree.lowerExpr]
      rfl
  | .template range first rest, walk => by
      simp only [visitExpr, Tree.lowerExpr, add_eq, visitSubstitutions_eq rest]
      rfl
  | .call range callee arguments, walk => by
      simp only [visitExpr, Tree.lowerExpr, add_eq, visitExpr_eq callee,
        visitArguments_eq arguments]
      rfl
  | .bareCall range arguments, walk => by
      simp only [visitExpr, Tree.lowerExpr, add_eq, visitArguments_eq arguments]
      rfl
  | .object range parts, walk | .markup range parts, walk | .other range parts, walk => by
      simp only [visitExpr, Tree.lowerExpr, add_eq, visitParts_eq parts]
      rfl

theorem visitArguments_eq : ∀ (exprs : List Expr) (walk : Walk), walk.visitArguments exprs =
    (walk.withTree (Tree.lowerArguments walk.tree walk.parent exprs).1,
      (Tree.lowerArguments walk.tree walk.parent exprs).2)
  | [], walk => by
      rw [visitArguments, Tree.lowerArguments, withTree_tree]
  | expr :: exprs, walk => by
      simp only [visitArguments, Tree.lowerArguments, visitExpr_eq expr,
        visitArguments_eq exprs]
      rfl

theorem visitSubstitutions_eq : ∀ (rest : List Substitution) (walk : Walk),
    walk.visitSubstitutions rest =
      walk.withTree (Tree.lowerSubstitutions walk.tree walk.parent rest)
  | [], walk => by
      rw [visitSubstitutions, Tree.lowerSubstitutions, withTree_tree]
  | .mk expr segment :: rest, walk => by
      simp only [visitSubstitutions, Tree.lowerSubstitutions, visitExpr_eq expr, add_eq,
        visitSubstitutions_eq rest]
      rfl

theorem visitPart_eq : ∀ (part : Part) (walk : Walk), walk.visitPart part =
    walk.withTree (Tree.lowerPart walk.tree walk.parent part)
  | .expr expr, walk => by
      rw [visitPart, Tree.lowerPart, visitExpr_eq expr]
  | .plain _ range parts, walk | .keyed range _ parts, walk
  | .attribute range _ parts, walk => by
      simp only [visitPart, Tree.lowerPart, add_eq, visitParts_eq parts]
      rfl
  | .text _ _, walk | .imports _ _, walk => by
      rw [visitPart, Tree.lowerPart]
      rfl

theorem visitParts_eq : ∀ (parts : List Part) (walk : Walk), walk.visitParts parts =
    walk.withTree (Tree.lowerParts walk.tree walk.parent parts)
  | [], walk => by
      rw [visitParts, Tree.lowerParts, withTree_tree]
  | part :: parts, walk => by
      rw [visitParts, Tree.lowerParts, visitPart_eq part, visitParts_eq parts]
      rfl

end

/-- The walk through a module builds its tree, and ends inside of the root. -/
theorem ofModule_eq (text : Text) (program : Module) :
    ofModule text program = ⟨Tree.ofModule text program, [0]⟩ :=
  visitParts_eq program.items ⟨.ofText text, [0]⟩

end Walk

namespace Tree

/-! ## What is below a node -/

/-- The second node is below the first: its parent, or the parent of its parent, and so
on, is the first. -/
inductive Below (tree : Tree) (above : Nat) : Nat → Prop where
  | child {id : Nat} (hparent : tree.parent? id = some above) : Below tree above id
  | step {id parent : Nat} (hparent : tree.parent? id = some parent)
      (hbelow : Below tree above parent) : Below tree above id

variable {tree : Tree}

theorem Below.trans {above between id : Nat} (hbetween : tree.Below above between)
    (hid : tree.Below between id) : tree.Below above id := by
  induction hid with
  | child hparent => exact .step hparent hbetween
  | step hparent _ ih => exact .step hparent ih

/-- The nodes of an outline are below the node that holds it. -/
theorem Holds.below {parent next : Nat} {outline : Outline}
    (hholds : tree.Holds parent next outline) {id : Nat} (hnext : next ≤ id)
    (hid : id < next + outline.count) : tree.Below parent id := by
  induction outline generalizing parent next with
  | nil => exact absurd hid (Nat.not_lt.mpr hnext)
  | node kind range raw held arguments rest ihHeld ihArguments ihRest =>
      have hown : tree.Below parent next :=
        .child (hholds.parent?_of_mem_ids List.mem_cons_self)
      rw [Outline.count] at hid
      by_cases hfirst : id = next
      · rw [hfirst]
        exact hown
      by_cases hheld : id < next + 1 + held.count
      · exact hown.trans (ihHeld hholds.ofHeld (by omega) hheld)
      by_cases harguments : id < next + 1 + held.count + arguments.count
      · exact hown.trans (ihArguments hholds.ofArguments (by omega) harguments)
      · exact ihRest hholds.ofRest (by omega) (by omega)

/-- No node from `stop` on has a parent from `start` up to `stop`. -/
def Closed (tree : Tree) (start stop : Nat) : Prop :=
  ∀ id parent, stop ≤ id → tree.parent? id = some parent → parent < start ∨ stop ≤ parent

/-- The parent of a node of an outline is the node that holds the outline, or a node
of the outline that comes before. -/
theorem Holds.parent_cases {parent next : Nat} {outline : Outline}
    (hholds : tree.Holds parent next outline) {id above : Nat} (hnext : next ≤ id)
    (hid : id < next + outline.count) (habove : tree.parent? id = some above) :
    above = parent ∨ next ≤ above := by
  induction outline generalizing parent next with
  | nil => exact absurd hid (Nat.not_lt.mpr hnext)
  | node kind range raw held arguments rest ihHeld ihArguments ihRest =>
      rw [Outline.count] at hid
      by_cases hfirst : id = next
      · have hparent : tree.parent? id = some parent :=
          hholds.parent?_of_mem_ids (by simp [Outline.ids, hfirst])
        rw [hparent] at habove
        exact Or.inl (Option.some.inj habove).symm
      by_cases hheld : id < next + 1 + held.count
      · have := ihHeld hholds.ofHeld (by omega) hheld
        omega
      by_cases harguments : id < next + 1 + held.count + arguments.count
      · have := ihArguments hholds.ofArguments (by omega) harguments
        omega
      · have := ihRest hholds.ofRest (by omega) (by omega)
        omega

section Interval

variable {parent next : Nat} {kind : NodeKind} {range : Range} {raw : Text}
  {held arguments rest : Outline}
  (hholds : tree.Holds parent next (.node kind range raw held arguments rest))
  (hparent : parent < next)
  (hclosed : tree.Closed next
    (next + (Outline.node kind range raw held arguments rest).count))

include hclosed in
theorem Closed.ofRest :
    tree.Closed (next + 1 + Outline.count held + Outline.count arguments)
      (next + 1 + Outline.count held + Outline.count arguments + Outline.count rest) := by
  intro id above hid habove
  have := hclosed id above (by rw [Outline.count]; omega) habove
  rw [Outline.count] at this
  omega

include hholds hparent hclosed

/-- What comes after a node and what it holds is not inside of it. -/
theorem Holds.closed_own :
    tree.Closed next (next + 1 + Outline.count held + Outline.count arguments) := by
  intro id above hid habove
  by_cases hrest : id < next + 1 + held.count + arguments.count + rest.count
  · have := hholds.ofRest.parent_cases hid hrest habove
    omega
  · have := hclosed id above (by rw [Outline.count]; omega) habove
    rw [Outline.count] at this
    omega

theorem Holds.closed_held :
    tree.Closed (next + 1) (next + 1 + Outline.count held) := by
  intro id above hid habove
  by_cases harguments : id < next + 1 + held.count + arguments.count
  · have := hholds.ofArguments.parent_cases hid harguments habove
    omega
  · have := hholds.closed_own hparent hclosed id above (by omega) habove
    omega

theorem Holds.closed_arguments :
    tree.Closed (next + 1 + Outline.count held)
      (next + 1 + Outline.count held + Outline.count arguments) := by
  intro id above hid habove
  have := hholds.closed_own hparent hclosed id above hid habove
  omega

end Interval

/-- In a tree that has grown, what is below a node comes after it. -/
theorem Grown.lt_of_below (htree : tree.Grown) {above id : Nat}
    (hbelow : tree.Below above id) : above < id := by
  induction hbelow with
  | child hparent => exact htree.parent_lt hparent
  | step hparent _ ih => exact Nat.lt_trans ih (htree.parent_lt hparent)

/-- If nothing after an interval is inside of it, what is below its first node does not
reach beyond it. -/
theorem Closed.lt_of_below {start stop : Nat} (hclosed : tree.Closed start stop)
    (htree : tree.Grown) (hstart : start < stop) {id : Nat}
    (hbelow : tree.Below start id) : id < stop := by
  induction hbelow with
  | child hparent =>
      apply Nat.lt_of_not_le
      intro hstop
      have := hclosed _ _ hstop hparent
      omega
  | step hparent hbelow ih =>
      apply Nat.lt_of_not_le
      intro hstop
      have hafter := htree.lt_of_below hbelow
      have := hclosed _ _ hstop hparent
      omega

/-- What is below a node of an outline is an interval of numbers right after it. -/
theorem Holds.exists_interval (htree : tree.Grown) {parent next : Nat} {outline : Outline}
    (hholds : tree.Holds parent next outline) (hparent : parent < next)
    (hclosed : tree.Closed next (next + outline.count)) {id : Nat} (hnext : next ≤ id)
    (hid : id < next + outline.count) :
    ∃ stop, id < stop ∧ stop ≤ next + outline.count ∧
      ∀ other, tree.Below id other ↔ id < other ∧ other < stop := by
  induction outline generalizing parent next with
  | nil => exact absurd hid (Nat.not_lt.mpr hnext)
  | node kind range raw held arguments rest ihHeld ihArguments ihRest =>
      have hrest : tree.Closed (next + 1 + held.count + arguments.count)
          (next + 1 + held.count + arguments.count + rest.count) := hclosed.ofRest
      rw [Outline.count] at hid ⊢
      by_cases hfirst : id = next
      · subst hfirst
        refine ⟨id + 1 + held.count + arguments.count, by omega, by omega,
          fun other => ⟨fun hbelow => ⟨htree.lt_of_below hbelow, ?_⟩, ?_⟩⟩
        · exact (hholds.closed_own hparent hclosed).lt_of_below htree (by omega) hbelow
        · rintro ⟨hafter, hother⟩
          by_cases hheld : other < id + 1 + held.count
          · exact hholds.ofHeld.below hafter hheld
          · exact hholds.ofArguments.below (Nat.le_of_not_lt hheld) hother
      by_cases hheld : id < next + 1 + held.count
      · obtain ⟨stop, hstop, hbound, hbelow⟩ := ihHeld hholds.ofHeld (by omega)
          (hholds.closed_held hparent hclosed) (by omega) hheld
        exact ⟨stop, hstop, by omega, hbelow⟩
      by_cases harguments : id < next + 1 + held.count + arguments.count
      · obtain ⟨stop, hstop, hbound, hbelow⟩ := ihArguments hholds.ofArguments (by omega)
          (hholds.closed_arguments hparent hclosed) (by omega) harguments
        exact ⟨stop, hstop, by omega, hbelow⟩
      · obtain ⟨stop, hstop, hbound, hbelow⟩ := ihRest hholds.ofRest (by omega) hrest
          (by omega) (by omega)
        exact ⟨stop, hstop, by omega, hbelow⟩

/-! ## What is right below the root -/

theorem Holds.ofAppend {parent next : Nat} {outline others : Outline}
    (hholds : tree.Holds parent next (outline ++ others)) :
    tree.Holds parent next outline ∧
      tree.Holds parent (next + outline.count) others := by
  constructor
  · intro offset node hnode
    apply hholds offset node
    have hoffset := (List.getElem?_eq_some_iff.mp hnode).1
    rw [Outline.nodes_append, List.getElem?_append_left hoffset, hnode]
  · intro offset node hnode
    have hfound := hholds (outline.count + offset) node (by
      rw [Outline.nodes_append, List.getElem?_append_right (by simp),
        Outline.length_nodes, Nat.add_sub_cancel_left, hnode])
    rwa [Nat.add_assoc]

end Tree

namespace Outline

theorem pairwise_ids (outline : Outline) (next : Nat) :
    (outline.ids next).Pairwise (· < ·) := by
  induction outline generalizing next with
  | nil => exact .nil
  | node kind range raw held arguments rest _ _ ih =>
      rw [ids, List.pairwise_cons]
      refine ⟨fun id hid => ?_, ih _⟩
      have := bounds_of_mem_ids hid
      omega

end Outline

namespace Syntax

/-- A part is one node with what it holds. -/
theorem Part.ids_outline (text : Text) (next : Nat) (part : Part) :
    (part.outline text).ids next = [next] := by
  cases part with
  | expr inner =>
      rw [Part.outline]
      exact Expr.ids_outline text next inner
  | _ =>
      rw [Part.outline]
      rfl

end Syntax

namespace Tree

variable {tree : Tree}

/-- The outermost nodes of a list of parts are those of its members, one for each. -/
theorem Holds.ids_outlines {parent next : Nat} {text : Text} {parts : List Part}
    (hholds : tree.Holds parent next (Part.outlines text parts)) :
    ((Part.outlines text parts).ids next).length = parts.length ∧
      ∀ (index : Nat) (part : Part), parts[index]? = some part →
        ∃ id, ((Part.outlines text parts).ids next)[index]? = some id ∧
          tree.Holds parent id (part.outline text) := by
  induction parts generalizing next with
  | nil =>
      refine ⟨rfl, fun index part hpart => ?_⟩
      cases hpart
  | cons first parts ih =>
      rw [Part.outlines] at hholds ⊢
      rw [Outline.ids_append, Part.ids_outline, List.singleton_append]
      obtain ⟨hlength, hmember⟩ := ih hholds.ofAppend.2
      refine ⟨by rw [List.length_cons, hlength, List.length_cons], fun index part hpart => ?_⟩
      cases index with
      | zero =>
          cases hpart
          exact ⟨next, rfl, hholds.ofAppend.1⟩
      | succ index => exact hmember index part hpart

/-- Nodes are numbered from the top: every node but the first comes after its parent, and
what is below a node comes right after it, with nothing else in between. -/
structure NumberedFromTop (tree : Tree) : Prop where
  parent_lt : ∀ id, 0 < id → id < tree.nodes.size →
    ∃ parent, tree.parent? id = some parent ∧ parent < id
  interval : ∀ id < tree.nodes.size, ∃ stop, id < stop ∧ stop ≤ tree.nodes.size ∧
    ∀ other, tree.Below id other ↔ id < other ∧ other < stop

section OfModule

variable (text : Text) (program : Module)

theorem numberedFromTop_ofModule : (ofModule text program).NumberedFromTop where
  parent_lt := by
    intro id hid hsize
    have hgrown := grown_ofModule text program
    obtain ⟨parent, hparent⟩ := hgrown.built.rooted.parents id hid hsize
    exact ⟨parent, hparent, hgrown.parent_lt hparent⟩
  interval := by
    intro id hsize
    have hgrown := grown_ofModule text program
    have hholds := holds_ofModule text program
    have hclosed : ∀ start, (ofModule text program).Closed start
        (ofModule text program).nodes.size := by
      intro start other parent hother hparent
      rw [parent?_eq_none hother] at hparent
      cases hparent
    by_cases hroot : id = 0
    · subst hroot
      refine ⟨_, hsize, Nat.le_refl _, fun other => ⟨fun hbelow =>
        ⟨hgrown.lt_of_below hbelow, (hclosed 0).lt_of_below hgrown hsize hbelow⟩, ?_⟩⟩
      rintro ⟨hafter, hother⟩
      rw [size_ofModule] at hother
      exact hholds.below hafter hother
    · rw [size_ofModule] at hclosed hsize ⊢
      exact hholds.exists_interval hgrown (by omega) (hclosed 1) (by omega) hsize

/-- The body of a tree: the nodes right below the root, in order, one for each item. -/
structure BodyOf (tree : Tree) (text : Text) (items : List Part) : Prop where
  ordered : tree.body.toList.Pairwise (· < ·)
  children : ∀ id, id ∈ tree.body.toList ↔ tree.parent? id = some 0
  length : tree.body.toList.length = items.length
  /-- The nodes from that of an item on are the nodes of the item. -/
  nodes : ∀ (index : Nat) (item : Part), items[index]? = some item →
    ∃ id, tree.body.toList[index]? = some id ∧ tree.Holds 0 id (item.outline text)

theorem bodyOf_ofModule : (ofModule text program).BodyOf text program.items := by
  have hbody := toList_body_ofModule text program
  obtain ⟨hlength, hnodes⟩ := (holds_ofModule text program).ids_outlines
  refine ⟨?_, (grown_ofModule text program).built.rooted.body, ?_, ?_⟩
  · rw [hbody]
    exact Outline.pairwise_ids _ _
  · rw [hbody]
    exact hlength
  · rw [hbody]
    exact hnodes

/-- The tree of a module is numbered from the top, with one node right below the root for
each item, in order.  It is built by a walk that enters a node before what the node holds
and leaves it afterwards; whatever the walk visits, and wherever it is, it ends with the
stack that it started with. -/
theorem ofModule_numbered (text : Text) (program : Module) :
    (ofModule text program).NumberedFromTop ∧
      (ofModule text program).BodyOf text program.items ∧
      Walk.ofModule text program = ⟨ofModule text program, [0]⟩ ∧
      (∀ (walk : Walk) (expr : Expr), (walk.visitExpr expr).1.parents = walk.parents) ∧
      ∀ (walk : Walk) (part : Part), (walk.visitPart part).parents = walk.parents := by
  refine ⟨numberedFromTop_ofModule text program, bodyOf_ofModule text program,
    Walk.ofModule_eq text program, fun walk expr => ?_, fun walk part => ?_⟩
  · rw [Walk.visitExpr_eq]
    rfl
  · rw [Walk.visitPart_eq]
    rfl

end OfModule

end Tree

end Untranslated
