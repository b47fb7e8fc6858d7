import Untranslated.Syntax.Module

/-!
# The node tree

A flat tree over a text: nodes are numbered in the order in which they are added and know their
parent by number.  Node 0 is the root, which spans the whole text.  Only the kinds of node that
decide whether a text is translated carry data.
-/

namespace Untranslated

open Syntax (ImportSpecifier ImportDeclaration)

inductive NodeKind where
  | program
  | imports (declaration : ImportDeclaration)
  | string (value : Text)
  | markupText (value : Text)
  | markup
  | attribute (name : String)
  | template
  | segment (raw : Text)
  /-- The callee has a name only when it is a bare identifier. -/
  | call (callee : Option String) (arguments : List Nat)
  | object
  | property (key : Option String)
  | other
  deriving DecidableEq, Repr, Inhabited

structure Node where
  kind : NodeKind
  parent : Option Nat
  range : Range
  deriving DecidableEq, Repr, Inhabited

structure Tree where
  text : Text
  nodes : Array Node
  /-- The nodes directly below the root, in order. -/
  body : Array Nat
  deriving DecidableEq, Repr, Inhabited

namespace Tree

/-- The tree that holds only the root. -/
def ofText (text : Text) : Tree :=
  { text, nodes := #[⟨.program, none, ⟨0, Text.byteSize text⟩⟩], body := #[] }

/-- Adds a node below `parent`, and gives its number.  Numbers have no bound here; the first
`2 ^ 32` nodes of a tree are those whose numbers fit into 32 bits. -/
def push (tree : Tree) (kind : NodeKind) (parent : Nat) (range : Range) : Tree × Nat :=
  let id := tree.nodes.size
  ({ tree with
      nodes := tree.nodes.push ⟨kind, some parent, range⟩
      body := if parent = 0 then tree.body.push id else tree.body }, id)

/-- Gives a call its arguments; any other node stays as it is. -/
def setArguments (tree : Tree) (id : Nat) (arguments : List Nat) : Tree :=
  { tree with
    nodes := tree.nodes.modify id fun node =>
      match node.kind with
      | .call callee _ => { node with kind := .call callee arguments }
      | _ => node }

def node? (tree : Tree) (id : Nat) : Option Node := tree.nodes[id]?

def kind? (tree : Tree) (id : Nat) : Option NodeKind := (tree.node? id).map (·.kind)

def parent? (tree : Tree) (id : Nat) : Option Nat := (tree.node? id).bind (·.parent)

/-- The text of a node; empty if its range does not fall on characters. -/
def textOf (tree : Tree) (node : Node) : Text := (Text.slice? tree.text node.range).getD []

/-- The import declarations directly below the root, with their ranges. -/
def imports (tree : Tree) : List (Range × ImportDeclaration) :=
  tree.body.toList.filterMap fun id =>
    match tree.node? id with
    | some ⟨.imports declaration, _, range⟩ => some (range, declaration)
    | _ => none

end Tree

end Untranslated
