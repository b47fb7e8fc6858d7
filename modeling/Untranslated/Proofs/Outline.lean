import Untranslated.Tree.Lowering

/-!
# Outlines

An outline is what the rule sees of a syntax tree: for every node its kind, its
range and what it holds, and the source text of literals.  Brothers are linked
by `rest`, so that one induction reaches every node.  The node tree of a module
is its outline with the nodes numbered from the top: a node comes before what it
holds, and the arguments of a call come last of what the call holds.
-/

namespace Untranslated

open Syntax

/-- A node with what it holds, and then its brothers.  Only calls have
arguments; what a call holds besides is its callee. -/
inductive Outline where
  | nil
  | node (kind : NodeKind) (range : Range) (raw : Text)
      (held arguments rest : Outline)
  deriving DecidableEq, Repr, Inhabited

namespace Outline

/-- A node that holds nothing. -/
def leaf (kind : NodeKind) (range : Range) (raw : Text) : Outline :=
  node kind range raw nil nil nil

/-- A node that holds others and is no call. -/
def branch (kind : NodeKind) (range : Range) (held : Outline) : Outline :=
  node kind range [] held nil nil

protected def append : Outline → Outline → Outline
  | nil, others => others
  | node kind range raw held arguments rest, others =>
      node kind range raw held arguments (rest.append others)

instance : Append Outline := ⟨Outline.append⟩

def count : Outline → Nat
  | nil => 0
  | node _ _ _ held arguments rest =>
      1 + held.count + arguments.count + rest.count

/-- The numbers of the outermost nodes, when the first is `next`. -/
def ids : Outline → Nat → List Nat
  | nil, _ => []
  | node _ _ _ held arguments rest, next =>
      next :: rest.ids (next + 1 + held.count + arguments.count)

/-- A call is given the numbers of its arguments. -/
def withArguments (kind : NodeKind) (arguments : List Nat) : NodeKind :=
  match kind with
  | .call callee _ => .call callee arguments
  | kind => kind

/-- The nodes below `parent`, when the first is numbered `next`. -/
def nodes : Outline → Nat → Nat → List Node
  | nil, _, _ => []
  | node kind range _ held arguments rest, parent, next =>
      let first := next + 1 + held.count
      ⟨withArguments kind (arguments.ids first), parent, range⟩ ::
        (held.nodes next (next + 1) ++ arguments.nodes next first ++
          rest.nodes parent (first + arguments.count))

@[simp] theorem nil_append (others : Outline) : nil ++ others = others := rfl

@[simp] theorem node_append (kind : NodeKind) (range : Range) (raw : Text)
    (held arguments rest others : Outline) :
    node kind range raw held arguments rest ++ others =
      node kind range raw held arguments (rest ++ others) := rfl

@[simp] theorem append_nil (outline : Outline) : outline ++ nil = outline := by
  induction outline with
  | nil => rfl
  | node kind range raw held arguments rest _ _ ih => rw [node_append, ih]

theorem append_assoc (outline others more : Outline) :
    outline ++ others ++ more = outline ++ (others ++ more) := by
  induction outline with
  | nil => rfl
  | node kind range raw held arguments rest _ _ ih => simp only [node_append, ih]

@[simp] theorem length_nodes (outline : Outline) (parent next : Nat) :
    (outline.nodes parent next).length = outline.count := by
  induction outline generalizing parent next with
  | nil => rfl
  | node kind range raw held arguments rest hheld harguments hrest =>
      simp only [nodes, count, List.length_cons, List.length_append, hheld,
        harguments, hrest]
      omega

theorem ids_append (outline others : Outline) (next : Nat) :
    (outline ++ others).ids next =
      outline.ids next ++ others.ids (next + outline.count) := by
  induction outline generalizing next with
  | nil => rfl
  | node kind range raw held arguments rest _ _ ih =>
      simp only [node_append, ids, ih, count, List.cons_append]
      congr 3
      omega

theorem nodes_append (outline others : Outline) (parent next : Nat) :
    (outline ++ others).nodes parent next =
      outline.nodes parent next ++ others.nodes parent (next + outline.count) := by
  induction outline generalizing next with
  | nil => rfl
  | node kind range raw held arguments rest _ _ ih =>
      simp only [node_append, nodes, ih, count, List.cons_append, List.append_assoc]
      congr 5
      omega

end Outline

namespace Syntax

mutual

/-- The outline of an expression that was read from a text. -/
def Expr.outline (text : Text) : Expr → Outline
  | .paren _ inner => inner.outline text
  | .identifier range _ => .leaf .other range []
  | .string range value =>
      .leaf (.string value) range ((text.slice? range).getD [])
  | .template range first more =>
      .branch .template range
        (.leaf (.segment first.raw) first.range first.raw ++
          Substitution.outlines text more)
  | .call range callee arguments =>
      .node (.call callee.name? []) range [] (callee.outline text)
        (Expr.outlines text arguments) .nil
  | .bareCall range arguments =>
      .node (.call none []) range [] .nil (Expr.outlines text arguments) .nil
  | .object range parts => .branch .object range (Part.outlines text parts)
  | .markup range parts => .branch .markup range (Part.outlines text parts)
  | .other range parts => .branch .other range (Part.outlines text parts)

def Expr.outlines (text : Text) : List Expr → Outline
  | [] => .nil
  | expr :: exprs => expr.outline text ++ Expr.outlines text exprs

def Substitution.outlines (text : Text) : List Substitution → Outline
  | [] => .nil
  | .mk expr segment :: more =>
      expr.outline text ++ (.leaf (.segment segment.raw) segment.range segment.raw ++
        Substitution.outlines text more)

def Part.outline (text : Text) : Part → Outline
  | .expr expr => expr.outline text
  | .plain _ range parts => .branch .other range (Part.outlines text parts)
  | .keyed range key parts =>
      .branch (.property key) range (Part.outlines text parts)
  | .attribute range name parts =>
      .branch (.attribute name) range (Part.outlines text parts)
  | .text range value =>
      .leaf (.markupText value) range ((text.slice? range).getD [])
  | .imports range declaration => .leaf (.imports declaration) range []

def Part.outlines (text : Text) : List Part → Outline
  | [] => .nil
  | part :: parts => part.outline text ++ Part.outlines text parts

end

/-- An expression is one node: parentheses leave no trace. -/
theorem Expr.ids_outline (text : Text) (next : Nat) :
    ∀ expr : Expr, (expr.outline text).ids next = [next]
  | .paren _ inner => by
      rw [Expr.outline]
      exact Expr.ids_outline text next inner
  | .identifier _ _ | .string _ _ | .template _ _ _ | .call _ _ _
  | .bareCall _ _ | .object _ _ | .markup _ _ | .other _ _ => by
      rw [Expr.outline]
      rfl

/-- The outline of a module that was read from a text. -/
def Module.outline (text : Text) (program : Module) : Outline :=
  Part.outlines text program.items

end Syntax

namespace Tree

/-- The tree with the nodes of an outline added below `parent`. -/
def grow (tree : Tree) (parent : Nat) (outline : Outline) : Tree where
  text := tree.text
  nodes := tree.nodes ++ (outline.nodes parent tree.nodes.size).toArray
  body :=
    if parent = 0 then tree.body ++ (outline.ids tree.nodes.size).toArray
    else tree.body

@[simp] theorem size_grow (tree : Tree) (parent : Nat) (outline : Outline) :
    (tree.grow parent outline).nodes.size = tree.nodes.size + outline.count := by
  simp [grow]

theorem grow_append (tree : Tree) (parent : Nat) (outline others : Outline) :
    tree.grow parent (outline ++ others) =
      (tree.grow parent outline).grow parent others := by
  obtain ⟨text, ⟨nodes⟩, ⟨body⟩⟩ := tree
  by_cases hparent : parent = 0
  · simp [grow, hparent, Outline.nodes_append, Outline.ids_append]
  · simp [grow, hparent, Outline.nodes_append]

theorem grow_nil (tree : Tree) (parent : Nat) : tree.grow parent .nil = tree := by
  simp [grow, Outline.nodes, Outline.ids]

/-- A node is added before what it holds. -/
theorem grow_node (tree : Tree) (parent : Nat) (kind : NodeKind) (range : Range)
    (raw : Text) (held arguments : Outline) (hsize : 0 < tree.nodes.size) :
    tree.grow parent (.node kind range raw held arguments .nil) =
      (tree.push (Outline.withArguments kind
        (arguments.ids (tree.nodes.size + 1 + held.count))) parent range).1.grow
          tree.nodes.size (held ++ arguments) := by
  obtain ⟨text, ⟨nodes⟩, ⟨body⟩⟩ := tree
  have hroot : nodes.length ≠ 0 := by
    simp only [List.size_toArray] at hsize
    omega
  by_cases hparent : parent = 0
  · simp [grow, push, hparent, hroot, Outline.nodes, Outline.nodes_append,
      Outline.ids]
  · simp [grow, push, hparent, hroot, Outline.nodes, Outline.nodes_append]

theorem push_eq_grow (tree : Tree) (kind : NodeKind) (parent : Nat) (range : Range)
    (raw : Text) (hkind : Outline.withArguments kind [] = kind) :
    tree.push kind parent range =
      (tree.grow parent (.leaf kind range raw), tree.nodes.size) := by
  obtain ⟨text, ⟨nodes⟩, ⟨body⟩⟩ := tree
  by_cases hparent : parent = 0
  · simp [grow, push, hparent, Outline.leaf, Outline.nodes, Outline.ids, hkind]
  · simp [grow, push, hparent, Outline.leaf, Outline.nodes, Outline.ids, hkind]

/-- A call may be given its arguments after they have been added. -/
theorem setArguments_grow_push (tree : Tree) (callee : Option String) (parent : Nat)
    (range : Range) (outline : Outline) (arguments : List Nat) :
    ((tree.push (.call callee []) parent range).1.grow tree.nodes.size
        outline).setArguments tree.nodes.size arguments =
      (tree.push (.call callee arguments) parent range).1.grow tree.nodes.size
        outline := by
  have hmodify : ∀ (front back : List Node) (node : Node) (change : Node → Node),
      (front ++ node :: back).modify front.length change =
        front ++ change node :: back := by
    intro front back node change
    induction front with
    | nil => rfl
    | cons first front ih => simpa using ih
  obtain ⟨text, ⟨nodes⟩, ⟨body⟩⟩ := tree
  simp [grow, push, setArguments, hmodify]

@[simp] theorem text_grow (tree : Tree) (parent : Nat) (outline : Outline) :
    (tree.grow parent outline).text = tree.text := rfl

@[simp] theorem text_push (tree : Tree) (kind : NodeKind) (parent : Nat)
    (range : Range) : (tree.push kind parent range).1.text = tree.text := rfl

@[simp] theorem id_push (tree : Tree) (kind : NodeKind) (parent : Nat)
    (range : Range) : (tree.push kind parent range).2 = tree.nodes.size := rfl

@[simp] theorem size_push (tree : Tree) (kind : NodeKind) (parent : Nat)
    (range : Range) :
    (tree.push kind parent range).1.nodes.size = tree.nodes.size + 1 := by
  simp [push]

/-- Adding a node and then what it holds. -/
theorem grow_branch (tree : Tree) (parent : Nat) (kind : NodeKind) (range : Range)
    (held : Outline) (hsize : 0 < tree.nodes.size)
    (hkind : Outline.withArguments kind [] = kind) :
    tree.grow parent (.branch kind range held) =
      (tree.push kind parent range).1.grow tree.nodes.size held := by
  rw [Outline.branch, grow_node _ _ _ _ _ _ _ hsize]
  simp only [Outline.ids, hkind, grow_append, grow_nil]

mutual

/-- Lowering an expression adds the nodes of its outline. -/
theorem lowerExpr_eq : ∀ (expr : Expr) (tree : Tree) (parent : Nat),
    0 < tree.nodes.size →
    lowerExpr tree parent expr =
      (tree.grow parent (expr.outline tree.text), tree.nodes.size)
  | .paren _ inner, tree, parent, hsize => by
      rw [lowerExpr, Expr.outline]
      exact lowerExpr_eq inner tree parent hsize
  | .identifier range _, tree, parent, _ => by
      rw [lowerExpr, Expr.outline]
      exact push_eq_grow tree .other parent range [] rfl
  | .string range value, tree, parent, _ => by
      rw [lowerExpr, Expr.outline]
      exact push_eq_grow tree (.string value) parent range _ rfl
  | .template range first more, tree, parent, hsize => by
      rw [lowerExpr, Expr.outline, grow_branch _ _ _ _ _ hsize rfl, grow_append]
      simp only [push_eq_grow _ (.segment first.raw) _ _ first.raw rfl, id_push]
      exact congrArg (·, tree.nodes.size)
        (lowerSubstitutions_eq more _ _ (by simp only [size_grow, size_push]; omega))
  | .call range callee arguments, tree, parent, hsize => by
      have hcallee := lowerExpr_eq callee
        (tree.push (.call callee.name? []) parent range).1 tree.nodes.size (by simp)
      have harguments := lowerArguments_eq arguments
        ((tree.push (.call callee.name? []) parent range).1.grow tree.nodes.size
          (callee.outline tree.text)) tree.nodes.size (by simp only [size_grow, size_push]; omega)
      rw [lowerExpr, Expr.outline, grow_node _ _ _ _ _ _ _ hsize]
      simp only [id_push, hcallee, harguments, text_push, text_grow, size_grow,
        size_push, ← grow_append, setArguments_grow_push]
      rfl
  | .bareCall range arguments, tree, parent, hsize => by
      have harguments := lowerArguments_eq arguments
        (tree.push (.call none []) parent range).1 tree.nodes.size (by simp)
      rw [lowerExpr, Expr.outline, grow_node _ _ _ _ _ _ _ hsize]
      simp only [id_push, harguments, text_push, size_push,
        setArguments_grow_push]
      rfl
  | .object range parts, tree, parent, hsize => by
      rw [lowerExpr, Expr.outline, grow_branch _ _ _ _ _ hsize rfl]
      exact congrArg (·, tree.nodes.size) (lowerParts_eq parts _ _ (by simp))
  | .markup range parts, tree, parent, hsize => by
      rw [lowerExpr, Expr.outline, grow_branch _ _ _ _ _ hsize rfl]
      exact congrArg (·, tree.nodes.size) (lowerParts_eq parts _ _ (by simp))
  | .other range parts, tree, parent, hsize => by
      rw [lowerExpr, Expr.outline, grow_branch _ _ _ _ _ hsize rfl]
      exact congrArg (·, tree.nodes.size) (lowerParts_eq parts _ _ (by simp))

theorem lowerArguments_eq : ∀ (exprs : List Expr) (tree : Tree) (parent : Nat),
    0 < tree.nodes.size →
    lowerArguments tree parent exprs =
      (tree.grow parent (Expr.outlines tree.text exprs),
        (Expr.outlines tree.text exprs).ids tree.nodes.size)
  | [], tree, parent, _ => by
      simp [lowerArguments, Expr.outlines, grow_nil, Outline.ids]
  | expr :: exprs, tree, parent, hsize => by
      have hrest := lowerArguments_eq exprs
        (tree.grow parent (expr.outline tree.text)) parent
        (by simp only [size_grow]; omega)
      simp only [lowerArguments, lowerExpr_eq expr tree parent hsize, hrest,
        Expr.outlines, text_grow, size_grow, grow_append, Outline.ids_append,
        Expr.ids_outline, List.singleton_append]

theorem lowerSubstitutions_eq : ∀ (more : List Substitution) (tree : Tree)
    (parent : Nat), 0 < tree.nodes.size →
    lowerSubstitutions tree parent more =
      tree.grow parent (Substitution.outlines tree.text more)
  | [], tree, parent, _ => by
      rw [lowerSubstitutions, Substitution.outlines, grow_nil]
  | .mk expr segment :: more, tree, parent, hsize => by
      rw [lowerSubstitutions, Substitution.outlines, grow_append, grow_append]
      simp only [lowerExpr_eq expr tree parent hsize,
        push_eq_grow _ (.segment segment.raw) _ _ segment.raw rfl]
      exact lowerSubstitutions_eq more _ _ (by simp only [size_grow]; omega)

theorem lowerPart_eq : ∀ (part : Part) (tree : Tree) (parent : Nat),
    0 < tree.nodes.size →
    lowerPart tree parent part = tree.grow parent (part.outline tree.text)
  | .expr expr, tree, parent, hsize => by
      rw [lowerPart, Part.outline, lowerExpr_eq expr tree parent hsize]
  | .plain _ range parts, tree, parent, hsize => by
      rw [lowerPart, Part.outline, grow_branch _ _ _ _ _ hsize rfl]
      exact lowerParts_eq parts _ _ (by simp)
  | .keyed range key parts, tree, parent, hsize => by
      rw [lowerPart, Part.outline, grow_branch _ _ _ _ _ hsize rfl]
      exact lowerParts_eq parts _ _ (by simp)
  | .attribute range name parts, tree, parent, hsize => by
      rw [lowerPart, Part.outline, grow_branch _ _ _ _ _ hsize rfl]
      exact lowerParts_eq parts _ _ (by simp)
  | .text range value, tree, parent, _ => by
      rw [lowerPart, Part.outline, push_eq_grow tree _ parent range _ rfl]
  | .imports range declaration, tree, parent, _ => by
      rw [lowerPart, Part.outline, push_eq_grow tree _ parent range _ rfl]

theorem lowerParts_eq : ∀ (parts : List Part) (tree : Tree) (parent : Nat),
    0 < tree.nodes.size →
    lowerParts tree parent parts =
      tree.grow parent (Part.outlines tree.text parts)
  | [], tree, parent, _ => by
      rw [lowerParts, Part.outlines, grow_nil]
  | part :: parts, tree, parent, hsize => by
      rw [lowerParts, Part.outlines, grow_append, lowerPart_eq part tree parent hsize,
        lowerParts_eq parts _ _ (by simp only [size_grow]; omega), text_grow]

end

/-- The tree of a module is its outline below the root. -/
theorem ofModule_eq_grow (text : Text) (program : Module) :
    ofModule text program = (ofText text).grow 0 (program.outline text) :=
  lowerParts_eq program.items (ofText text) 0 (by simp [ofText])

end Tree

end Untranslated
