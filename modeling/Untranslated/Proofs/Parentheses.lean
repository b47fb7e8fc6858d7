import Mathlib.Data.List.Forall2
import Untranslated.Proofs.Convergence

/-!
# Parentheses

Parentheses leave no node: an expression in parentheses becomes the nodes of the
expression inside.  The name of a callee is the one thing that is read off the
syntax itself, and there parentheses count: an identifier in parentheses is no name.
So taking all parentheses away changes a tree in the callees that they hide, and in
nothing else.
-/

namespace Untranslated

namespace Syntax

mutual

/-- The expression with every expression in parentheses replaced by the one inside. -/
def Expr.withoutParens : Expr → Expr
  | .paren _ inner => inner.withoutParens
  | .identifier range name => .identifier range name
  | .string range value => .string range value
  | .template range first rest => .template range first (Substitution.listWithoutParens rest)
  | .call range callee arguments =>
      .call range callee.withoutParens (Expr.listWithoutParens arguments)
  | .bareCall range arguments => .bareCall range (Expr.listWithoutParens arguments)
  | .object range parts => .object range (Part.listWithoutParens parts)
  | .markup range parts => .markup range (Part.listWithoutParens parts)
  | .other range parts => .other range (Part.listWithoutParens parts)

def Expr.listWithoutParens : List Expr → List Expr
  | [] => []
  | expr :: exprs => expr.withoutParens :: Expr.listWithoutParens exprs

def Substitution.listWithoutParens : List Substitution → List Substitution
  | [] => []
  | .mk expr segment :: rest =>
      .mk expr.withoutParens segment :: Substitution.listWithoutParens rest

def Part.withoutParens : Part → Part
  | .expr expr => .expr expr.withoutParens
  | .plain role range parts => .plain role range (Part.listWithoutParens parts)
  | .keyed range key parts => .keyed range key (Part.listWithoutParens parts)
  | .attribute range name parts => .attribute range name (Part.listWithoutParens parts)
  | .text range value => .text range value
  | .imports range declaration => .imports range declaration

def Part.listWithoutParens : List Part → List Part
  | [] => []
  | part :: parts => part.withoutParens :: Part.listWithoutParens parts

end

/-- The expression is an identifier in parentheses. -/
def Expr.isNameInParens : Expr → Bool
  | .paren _ inner => inner.name?.isSome || inner.isNameInParens
  | _ => false

mutual

/-- The number of calls whose callee is an identifier in parentheses. -/
def Expr.hiddenCallees : Expr → Nat
  | .paren _ inner => inner.hiddenCallees
  | .identifier _ _ | .string _ _ => 0
  | .template _ _ rest => Substitution.hiddenCallees rest
  | .call _ callee arguments =>
      callee.isNameInParens.toNat + callee.hiddenCallees + Expr.listHiddenCallees arguments
  | .bareCall _ arguments => Expr.listHiddenCallees arguments
  | .object _ parts | .markup _ parts | .other _ parts => Part.listHiddenCallees parts

def Expr.listHiddenCallees : List Expr → Nat
  | [] => 0
  | expr :: exprs => expr.hiddenCallees + Expr.listHiddenCallees exprs

def Substitution.hiddenCallees : List Substitution → Nat
  | [] => 0
  | .mk expr _ :: rest => expr.hiddenCallees + Substitution.hiddenCallees rest

def Part.hiddenCallees : Part → Nat
  | .expr expr => expr.hiddenCallees
  | .plain _ _ parts | .keyed _ _ parts | .attribute _ _ parts => Part.listHiddenCallees parts
  | .text _ _ | .imports _ _ => 0

def Part.listHiddenCallees : List Part → Nat
  | [] => 0
  | part :: parts => part.hiddenCallees + Part.listHiddenCallees parts

end

namespace Module

def withoutParens (program : Module) : Module := ⟨Part.listWithoutParens program.items⟩

def hiddenCallees (program : Module) : Nat := Part.listHiddenCallees program.items

end Module

end Syntax

/-! ## Outlines that differ in callees -/

/-- The node is a call of a function that has a name. -/
def NodeKind.namesCallee : NodeKind → Bool
  | .call (some _) _ => true
  | _ => false

/-- The second kind is the first, or gives a callee the name that it lacks there; the
number tells which. -/
inductive NodeKind.Reveals : Nat → NodeKind → NodeKind → Prop where
  | same (kind : NodeKind) : Reveals 0 kind kind
  | callee (name : String) (arguments : List Nat) :
      Reveals 1 (.call none arguments) (.call (some name) arguments)

namespace NodeKind.Reveals

variable {number : Nat} {kind kind' : NodeKind}

theorem withArguments (hkind : Reveals number kind kind') (ids : List Nat) :
    Reveals number (Outline.withArguments kind ids) (Outline.withArguments kind' ids) := by
  cases hkind with
  | same => exact .same _
  | callee name => exact .callee name ids

theorem namesCallee (hkind : Reveals number kind kind') :
    kind'.namesCallee.toNat = kind.namesCallee.toNat + number := by
  cases hkind <;> rfl

end NodeKind.Reveals

/-- The second node is the first, but for the name of its callee. -/
structure Node.Reveals (node node' : Node) : Prop where
  kind : ∃ number, NodeKind.Reveals number node.kind node'.kind
  parent : node'.parent = node.parent
  range : node'.range = node.range

namespace Outline

/-- The second outline is the first, but for as many callees as the number says, which
have a name in the second only. -/
inductive Reveals : Nat → Outline → Outline → Prop where
  | nil : Reveals 0 nil nil
  | node {own inHeld inArguments inRest : Nat} {kind kind' : NodeKind} (range : Range)
      (raw : Text) {held held' arguments arguments' rest rest' : Outline}
      (hkind : NodeKind.Reveals own kind kind') (hheld : Reveals inHeld held held')
      (harguments : Reveals inArguments arguments arguments')
      (hrest : Reveals inRest rest rest') :
      Reveals (own + inHeld + inArguments + inRest)
        (node kind range raw held arguments rest)
        (node kind' range raw held' arguments' rest')

namespace Reveals

variable {number : Nat} {outline outline' : Outline}

theorem append {more : Nat} {others others' : Outline}
    (houtline : Reveals number outline outline') (hothers : Reveals more others others') :
    Reveals (number + more) (outline ++ others) (outline' ++ others') := by
  induction houtline with
  | nil => simpa using hothers
  | node range raw hkind hheld harguments _ _ _ ih =>
      have hnode := Reveals.node range raw hkind hheld harguments ih
      rwa [← Nat.add_assoc] at hnode

theorem branch {kind : NodeKind} {range : Range} (hheld : Reveals number outline outline') :
    Reveals number (branch kind range outline) (branch kind range outline') := by
  simpa [Outline.branch] using Reveals.node range [] (.same kind) hheld .nil .nil

theorem leaf (kind : NodeKind) (range : Range) (raw : Text) :
    Reveals 0 (leaf kind range raw) (leaf kind range raw) :=
  .node range raw (.same kind) .nil .nil .nil

theorem count_eq (houtline : Reveals number outline outline') :
    outline'.count = outline.count := by
  induction houtline with
  | nil => rfl
  | node _ _ _ _ _ _ ihHeld ihArguments ihRest =>
      rw [count, count, ihHeld, ihArguments, ihRest]

theorem ids_eq (houtline : Reveals number outline outline') (next : Nat) :
    outline'.ids next = outline.ids next := by
  induction houtline generalizing next with
  | nil => rfl
  | node _ _ _ hheld harguments _ _ _ ihRest =>
      rw [ids, ids, hheld.count_eq, harguments.count_eq, ihRest]

theorem eq_of_eq_zero (houtline : Reveals number outline outline') (hnumber : number = 0) :
    outline' = outline := by
  induction houtline with
  | nil => rfl
  | @node own inHeld inArguments inRest _ _ _ _ _ _ _ _ _ _ hkind _ _ _ ihHeld ihArguments
      ihRest =>
      rw [ihHeld (by omega), ihArguments (by omega), ihRest (by omega)]
      cases hkind with
      | same => rfl
      | callee => omega

theorem forall₂_nodes (houtline : Reveals number outline outline') (parent next : Nat) :
    List.Forall₂ Node.Reveals (outline.nodes parent next) (outline'.nodes parent next) := by
  induction houtline generalizing parent next with
  | nil => exact .nil
  | node range raw hkind hheld harguments _ ihHeld ihArguments ihRest =>
      rw [nodes, nodes, hheld.count_eq, harguments.count_eq, harguments.ids_eq]
      refine .cons ⟨⟨_, hkind.withArguments _⟩, rfl, rfl⟩ ?_
      exact List.rel_append (List.rel_append (ihHeld _ _) (ihArguments _ _)) (ihRest _ _)

/-- For each callee that is revealed there is one more with a name. -/
theorem countP_nodes (houtline : Reveals number outline outline') (parent next : Nat) :
    (outline'.nodes parent next).countP (·.kind.namesCallee) =
      (outline.nodes parent next).countP (·.kind.namesCallee) + number := by
  have hcons : ∀ (node : Node) (nodes : List Node),
      (node :: nodes).countP (·.kind.namesCallee) =
        node.kind.namesCallee.toNat + nodes.countP (·.kind.namesCallee) := by
    intro node nodes
    cases hnames : node.kind.namesCallee <;> simp [hnames, Nat.add_comm]
  induction houtline generalizing parent next with
  | nil => rfl
  | node range raw hkind hheld harguments _ ihHeld ihArguments ihRest =>
      rw [nodes, nodes, hcons, hcons, (hkind.withArguments _).namesCallee]
      simp only [List.countP_append, hheld.count_eq, harguments.count_eq,
        harguments.ids_eq, ihHeld, ihArguments, ihRest]
      omega

end Reveals

end Outline

namespace Syntax

open Outline

/-- Without parentheses an expression is a name if it is one, or is one in parentheses. -/
theorem Expr.name?_withoutParens : ∀ expr : Expr,
    (expr.isNameInParens = false ∧ expr.withoutParens.name? = expr.name?) ∨
      expr.isNameInParens = true ∧ expr.name? = none ∧
        ∃ name, expr.withoutParens.name? = some name
  | .identifier _ _ | .string _ _ | .template _ _ _ | .call _ _ _ | .bareCall _ _
  | .object _ _ | .markup _ _ | .other _ _ => by
      rw [Expr.withoutParens]
      exact Or.inl ⟨rfl, rfl⟩
  | .paren _ inner => by
      rw [Expr.isNameInParens, Expr.withoutParens]
      rcases Expr.name?_withoutParens inner with ⟨hplain, hname⟩ | ⟨hhidden, -, hname⟩
      · rw [hplain, Bool.or_false, hname]
        cases inner.name? with
        | none => exact Or.inl ⟨rfl, rfl⟩
        | some name => exact Or.inr ⟨rfl, rfl, name, rfl⟩
      · rw [hhidden, Bool.or_true]
        exact Or.inr ⟨rfl, rfl, hname⟩

theorem Expr.reveals_callee (callee : Expr) :
    NodeKind.Reveals callee.isNameInParens.toNat (.call callee.name? [])
      (.call callee.withoutParens.name? []) := by
  rcases callee.name?_withoutParens with ⟨hplain, hname⟩ | ⟨hhidden, hnone, name, hname⟩
  · rw [hplain, hname]
    exact .same _
  · rw [hhidden, hnone, hname]
    exact .callee name []

mutual

/-- Taking away parentheses reveals the callees that they hide. -/
theorem Expr.reveals (text : Text) : ∀ expr : Expr,
    Reveals expr.hiddenCallees (expr.outline text) (expr.withoutParens.outline text)
  | .paren _ inner => by
      rw [Expr.hiddenCallees, Expr.outline, Expr.withoutParens]
      exact Expr.reveals text inner
  | .identifier _ _ | .string _ _ => by
      rw [Expr.hiddenCallees, Expr.withoutParens, Expr.outline]
      exact .leaf _ _ _
  | .template _ first rest => by
      rw [Expr.hiddenCallees, Expr.withoutParens, Expr.outline, Expr.outline]
      have hrest := (Reveals.leaf (.segment first.raw) first.range first.raw).append
        (Substitution.reveals text rest)
      rw [Nat.zero_add] at hrest
      exact hrest.branch
  | .call range callee arguments => by
      rw [Expr.hiddenCallees, Expr.withoutParens, Expr.outline, Expr.outline]
      exact .node range [] callee.reveals_callee (Expr.reveals text callee)
        (Expr.list_reveals text arguments) .nil
  | .bareCall range arguments => by
      rw [Expr.hiddenCallees, Expr.withoutParens, Expr.outline, Expr.outline]
      simpa using Reveals.node range [] (.same (.call none [])) .nil
        (Expr.list_reveals text arguments) .nil
  | .object _ parts | .markup _ parts | .other _ parts => by
      rw [Expr.hiddenCallees, Expr.withoutParens, Expr.outline, Expr.outline]
      exact (Part.list_reveals text parts).branch

theorem Expr.list_reveals (text : Text) : ∀ exprs : List Expr,
    Reveals (Expr.listHiddenCallees exprs) (Expr.outlines text exprs)
      (Expr.outlines text (Expr.listWithoutParens exprs))
  | [] => by
      rw [Expr.listHiddenCallees, Expr.listWithoutParens, Expr.outlines]
      exact .nil
  | expr :: exprs => by
      rw [Expr.listHiddenCallees, Expr.listWithoutParens, Expr.outlines, Expr.outlines]
      exact (Expr.reveals text expr).append (Expr.list_reveals text exprs)

theorem Substitution.reveals (text : Text) : ∀ rest : List Substitution,
    Reveals (Substitution.hiddenCallees rest) (Substitution.outlines text rest)
      (Substitution.outlines text (Substitution.listWithoutParens rest))
  | [] => by
      rw [Substitution.hiddenCallees, Substitution.listWithoutParens, Substitution.outlines]
      exact .nil
  | .mk expr segment :: rest => by
      rw [Substitution.hiddenCallees, Substitution.listWithoutParens, Substitution.outlines,
        Substitution.outlines]
      have hrest := (Reveals.leaf (.segment segment.raw) segment.range segment.raw).append
        (Substitution.reveals text rest)
      rw [Nat.zero_add] at hrest
      exact (Expr.reveals text expr).append hrest

theorem Part.reveals (text : Text) : ∀ part : Part,
    Reveals part.hiddenCallees (part.outline text) (part.withoutParens.outline text)
  | .expr expr => by
      rw [Part.hiddenCallees, Part.withoutParens, Part.outline, Part.outline]
      exact Expr.reveals text expr
  | .plain _ _ parts | .keyed _ _ parts | .attribute _ _ parts => by
      rw [Part.hiddenCallees, Part.withoutParens, Part.outline, Part.outline]
      exact (Part.list_reveals text parts).branch
  | .text _ _ | .imports _ _ => by
      rw [Part.hiddenCallees, Part.withoutParens, Part.outline]
      exact .leaf _ _ _

theorem Part.list_reveals (text : Text) : ∀ parts : List Part,
    Reveals (Part.listHiddenCallees parts) (Part.outlines text parts)
      (Part.outlines text (Part.listWithoutParens parts))
  | [] => by
      rw [Part.listHiddenCallees, Part.listWithoutParens, Part.outlines]
      exact .nil
  | part :: parts => by
      rw [Part.listHiddenCallees, Part.listWithoutParens, Part.outlines, Part.outlines]
      exact (Part.reveals text part).append (Part.list_reveals text parts)

end

theorem Module.reveals (text : Text) (program : Module) :
    Reveals program.hiddenCallees (program.outline text)
      (program.withoutParens.outline text) :=
  Part.list_reveals text program.items

end Syntax

/-! ## Trees that differ in callees -/

namespace Tree

/-- The kinds of the nodes and their parents. -/
def shape (tree : Tree) : List (NodeKind × Option Nat) :=
  tree.nodes.toList.map fun node => (node.kind, node.parent)

/-- The second tree is the first, but for callees that have a name in the second only. -/
structure Reveals (before after : Tree) : Prop where
  text : after.text = before.text
  body : after.body = before.body
  nodes : List.Forall₂ Node.Reveals before.nodes.toList after.nodes.toList

namespace Reveals

variable {before after : Tree} (htrees : before.Reveals after)

include htrees

theorem node?_cases (id : Nat) :
    before.node? id = none ∧ after.node? id = none ∨
      ∃ node node', before.node? id = some node ∧ after.node? id = some node' ∧
        node.Reveals node' := by
  have hsize : before.nodes.size = after.nodes.size := htrees.nodes.length_eq
  rw [node?, node?]
  by_cases hid : id < before.nodes.size
  · have hid' : id < after.nodes.size := hsize ▸ hid
    refine .inr ⟨before.nodes[id], after.nodes[id], ?_, ?_, htrees.nodes.get hid hid'⟩
    · exact Array.getElem?_eq_getElem hid
    · exact Array.getElem?_eq_getElem hid'
  · have hid' : ¬id < after.nodes.size := hsize ▸ hid
    exact .inl ⟨Array.getElem?_eq_none (Nat.not_lt.mp hid),
      Array.getElem?_eq_none (Nat.not_lt.mp hid')⟩

theorem parent?_eq (id : Nat) : after.parent? id = before.parent? id := by
  rw [parent?, parent?]
  rcases htrees.node?_cases id with ⟨hnone, hnone'⟩ | ⟨node, node', hnode, hnode', hreveals⟩
  · rw [hnone, hnone']
  · rw [hnode, hnode']
    exact hreveals.parent

theorem kind?_cases (id : Nat) :
    after.kind? id = before.kind? id ∨
      ∃ name arguments, before.kind? id = some (.call none arguments) ∧
        after.kind? id = some (.call (some name) arguments) := by
  rw [kind?, kind?]
  rcases htrees.node?_cases id with ⟨hnone, hnone'⟩ | ⟨node, node', hnode, hnode', hreveals⟩
  · exact .inl (by rw [hnone, hnone'])
  · obtain ⟨number, hkind⟩ := hreveals.kind
    rw [hnode, hnode', Option.map_some, Option.map_some]
    generalize node.kind = kind, node'.kind = kind' at hkind
    cases hkind with
    | same => exact .inl rfl
    | callee name arguments => exact .inr ⟨name, arguments, rfl, rfl⟩

theorem kind?_eq_some_iff {kind : NodeKind}
    (hkind : ∀ callee arguments, kind ≠ .call callee arguments) (id : Nat) :
    after.kind? id = some kind ↔ before.kind? id = some kind := by
  rcases htrees.kind?_cases id with heq | ⟨name, arguments, hbefore, hafter⟩
  · rw [heq]
  · simp [hbefore, hafter, (hkind _ _).symm]

theorem above_cases (id : Nat) :
    (after.parent? id).bind after.kind? = (before.parent? id).bind before.kind? ∨
      ∃ name arguments,
        (before.parent? id).bind before.kind? = some (.call none arguments) ∧
          (after.parent? id).bind after.kind? = some (.call (some name) arguments) := by
  rw [htrees.parent?_eq]
  cases before.parent? id with
  | none => exact .inl rfl
  | some parent => exact htrees.kind?_cases parent

theorem isAttributeValue_eq (id : Nat) :
    after.isAttributeValue id = before.isAttributeValue id := by
  rw [isAttributeValue, isAttributeValue]
  rcases htrees.above_cases id with heq | ⟨name, arguments, hbefore, hafter⟩
  · rw [heq]
  · rw [hbefore, hafter]

theorem literal?_eq (id : Nat) : after.literal? id = before.literal? id := by
  rw [literal?, literal?, htrees.isAttributeValue_eq]
  rcases htrees.node?_cases id with ⟨hnone, hnone'⟩ | ⟨node, node', hnode, hnode', hreveals⟩
  · rw [hnone, hnone']
  · obtain ⟨⟨number, hkind⟩, hparent, hrange⟩ := hreveals
    rw [hnode, hnode']
    simp only [textOf, htrees.text, hrange, hparent]
    generalize node.kind = kind, node'.kind = kind' at hkind
    cases hkind <;> rfl

theorem imports_eq : after.imports = before.imports := by
  rw [imports, imports, htrees.body]
  congr 1
  funext id
  rcases htrees.node?_cases id with ⟨hnone, hnone'⟩ | ⟨node, node', hnode, hnode', hreveals⟩
  · rw [hnone, hnone']
  · obtain ⟨kind, parent, range⟩ := node
    obtain ⟨kind', parent', range'⟩ := node'
    obtain ⟨⟨number, hkind⟩, hparent, hrange⟩ := hreveals
    rw [hnode, hnode']
    cases hparent
    cases hrange
    cases hkind <;> rfl

theorem isArgument_of {id : Nat} {names : List String}
    (hid : before.isArgument id names = true) : after.isArgument id names = true := by
  rw [isArgument] at hid ⊢
  rcases htrees.above_cases id with heq | ⟨name, arguments, hbefore, hafter⟩
  · rwa [heq]
  · rw [hbefore] at hid
    cases hid

theorem isSecondArgument_of {id : Nat} {names : List String}
    (hid : before.isSecondArgument id names = true) :
    after.isSecondArgument id names = true := by
  rw [isSecondArgument] at hid ⊢
  rcases htrees.above_cases id with heq | ⟨name, arguments, hbefore, hafter⟩
  · rwa [heq]
  · rw [hbefore] at hid
    cases hid

theorem isContext_of {id : Nat} {names : List String}
    (hid : before.isContext id names = true) : after.isContext id names = true := by
  rw [isContext] at hid ⊢
  rw [htrees.parent?_eq]
  cases hparent : before.parent? id with
  | none =>
      rw [hparent] at hid
      cases hid
  | some property =>
      have hproperty : after.kind? property = some (.property (some "context")) ↔
          before.kind? property = some (.property (some "context")) :=
        htrees.kind?_eq_some_iff (by simp) property
      simp only [hparent, htrees.parent?_eq, hproperty] at hid ⊢
      split at hid
      · rw [if_pos ‹_›]
        split at hid
        · cases hid
        · rw [Bool.and_eq_true, decide_eq_true_eq] at hid ⊢
          exact ⟨(htrees.kind?_eq_some_iff (by simp) _).mpr hid.1,
            htrees.isSecondArgument_of hid.2⟩
      · cases hid

/-- What is passed to a function stays so when a callee gets its name. -/
theorem isWrapped_of {id : Nat} {names : List String}
    (hid : before.isWrapped id names = true) : after.isWrapped id names = true := by
  rw [isWrapped, Bool.or_eq_true] at hid ⊢
  exact hid.imp htrees.isArgument_of htrees.isContext_of

/-- A hidden callee can add findings, but not take any away. -/
theorem untranslated_sublist (options : RuleOptions) :
    (after.untranslated options).Sublist (before.untranslated options) := by
  have hliterals : after.literals = before.literals := by
    have hsize : before.nodes.size = after.nodes.size := htrees.nodes.length_eq
    rw [literals, literals, hsize, funext htrees.literal?_eq]
  have hnames : after.wrapperNames options.modulePattern =
      before.wrapperNames options.modulePattern := by
    rw [wrapperNames, wrapperNames, htrees.imports_eq]
  rw [untranslated, untranslated, hliterals, hnames]
  apply List.monotone_filter_right
  intro literal hliteral
  rw [isUntranslated, Bool.and_eq_true, Bool.not_eq_true'] at hliteral ⊢
  refine ⟨hliteral.1, ?_⟩
  rw [← Bool.not_eq_true]
  intro hwrapped
  rw [htrees.isWrapped_of hwrapped] at hliteral
  cases hliteral.2

end Reveals

section OfModule

variable (text : Text) (program : Syntax.Module)

theorem reveals_ofModule :
    (ofModule text program).Reveals (ofModule text program.withoutParens) := by
  have houtline := program.reveals text
  rw [ofModule_eq_grow, ofModule_eq_grow]
  refine ⟨rfl, ?_, ?_⟩
  · simp only [grow, houtline.ids_eq]
  · have hroot : List.Forall₂ Node.Reveals (ofText text).nodes.toList
        (ofText text).nodes.toList :=
      .cons ⟨⟨0, .same _⟩, rfl, rfl⟩ .nil
    simp only [grow, Array.toList_append]
    exact List.rel_append hroot (houtline.forall₂_nodes _ _)

theorem ofModule_of_hiddenCallees (hhidden : program.hiddenCallees = 0) :
    ofModule text program.withoutParens = ofModule text program := by
  rw [ofModule_eq_grow, ofModule_eq_grow, (program.reveals text).eq_of_eq_zero hhidden]

/-- Callees that parentheses hide are all that keeps a tree from its shape without
parentheses. -/
theorem shape_ofModule_iff :
    (ofModule text program.withoutParens).shape = (ofModule text program).shape ↔
      program.hiddenCallees = 0 := by
  have houtline := program.reveals text
  constructor
  · intro hshape
    have hcount : ∀ tree : Tree,
        tree.shape.countP (·.1.namesCallee) =
          tree.nodes.toList.countP (·.kind.namesCallee) := by
      intro tree
      rw [shape, List.countP_map]
      rfl
    have hnamed := congrArg (List.countP (·.1.namesCallee)) hshape
    rw [hcount, hcount, ofModule_eq_grow, ofModule_eq_grow] at hnamed
    simp only [grow, Array.toList_append, List.countP_append,
      houtline.countP_nodes] at hnamed
    omega
  · intro hhidden
    rw [ofModule_of_hiddenCallees text program hhidden]

/-- Without parentheses a tree keeps its nodes and their parents; callees that were an
identifier in parentheses get their names, and only they stand between the two trees.
Where there is none, the same is reported; elsewhere the parentheses can only add to
what is reported. -/
theorem ofModule_withoutParens :
    let before := ofModule text program
    let after := ofModule text program.withoutParens
    before.Reveals after ∧
      (after.shape = before.shape ↔ program.hiddenCallees = 0) ∧
      (after.shape = before.shape → ∀ options withFixes,
        after.check options withFixes = before.check options withFixes) ∧
      ∀ options, (after.untranslated options).Sublist (before.untranslated options) := by
  intro before after
  have htrees : before.Reveals after := reveals_ofModule text program
  refine ⟨htrees, shape_ofModule_iff text program, ?_, htrees.untranslated_sublist⟩
  intro hshape options withFixes
  have hhidden := (shape_ofModule_iff text program).mp hshape
  rw [show after = before from ofModule_of_hiddenCallees text program hhidden]

end OfModule

/-- A file that calls the translation function by its name in parentheses. -/
def hiddenCallee : Text :=
  "import \x7b i18n \x7d from './i18n';\n(i18n)('да')".toList

/-- A text that is translated by a callee in parentheses is reported; without the
parentheses it is not. -/
theorem hiddenCallee_reported :
    let program := readOf "a.ts" hiddenCallee
    let before := ofModule hiddenCallee program
    let after := ofModule hiddenCallee program.withoutParens
    Syntax.parse (Syntax.Dialect.ofPath "a.ts") hiddenCallee = .ok program ∧
      after.shape ≠ before.shape ∧
      (before.check .cyrillic true).length = 1 ∧ after.check .cyrillic true = [] :=
  ⟨parse_eq_readOf (by decide +kernel), by decide +kernel, by decide +kernel,
    by decide +kernel⟩

end Tree

end Untranslated
