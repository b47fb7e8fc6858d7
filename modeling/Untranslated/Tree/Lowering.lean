import Untranslated.Syntax.Parser
import Untranslated.Tree.Basic

/-!
# From syntax to nodes

Every expression, statement and module item becomes one node, numbered before what it holds.
Parentheses leave no trace.
-/

namespace Untranslated.Tree

open Syntax

mutual

/-- Adds the node of an expression and the nodes inside it; gives the number of the first. -/
def lowerExpr (tree : Tree) (parent : Nat) : Expr → Tree × Nat
  | .paren _ inner => lowerExpr tree parent inner
  | .identifier range _ => tree.push .other parent range
  | .string range value => tree.push (.string value) parent range
  | .template range first rest =>
      let (tree, id) := tree.push .template parent range
      let (tree, _) := tree.push (.segment first.raw) id first.range
      (lowerSubstitutions tree id rest, id)
  | .call range callee arguments =>
      let (tree, id) := tree.push (.call callee.name? []) parent range
      let (tree, _) := lowerExpr tree id callee
      let (tree, ids) := lowerArguments tree id arguments
      (tree.setArguments id ids, id)
  | .bareCall range arguments =>
      let (tree, id) := tree.push (.call none []) parent range
      let (tree, ids) := lowerArguments tree id arguments
      (tree.setArguments id ids, id)
  | .object range parts =>
      let (tree, id) := tree.push .object parent range
      (lowerParts tree id parts, id)
  | .markup range parts =>
      let (tree, id) := tree.push .markup parent range
      (lowerParts tree id parts, id)
  | .other range parts =>
      let (tree, id) := tree.push .other parent range
      (lowerParts tree id parts, id)

/-- Adds the arguments of a call and gives their numbers. -/
def lowerArguments (tree : Tree) (parent : Nat) : List Expr → Tree × List Nat
  | [] => (tree, [])
  | argument :: arguments =>
      let (tree, id) := lowerExpr tree parent argument
      let (tree, ids) := lowerArguments tree parent arguments
      (tree, id :: ids)

/-- Adds each substitution of a template and the segment after it. -/
def lowerSubstitutions (tree : Tree) (parent : Nat) : List Substitution → Tree
  | [] => tree
  | .mk expr segment :: rest =>
      let (tree, _) := lowerExpr tree parent expr
      let (tree, _) := tree.push (.segment segment.raw) parent segment.range
      lowerSubstitutions tree parent rest

def lowerPart (tree : Tree) (parent : Nat) : Part → Tree
  | .expr expr => (lowerExpr tree parent expr).1
  | .plain _ range parts =>
      let (tree, id) := tree.push .other parent range
      lowerParts tree id parts
  | .keyed range key parts =>
      let (tree, id) := tree.push (.property key) parent range
      lowerParts tree id parts
  | .attribute range name parts =>
      let (tree, id) := tree.push (.attribute name) parent range
      lowerParts tree id parts
  | .text range value => (tree.push (.markupText value) parent range).1
  | .imports range declaration => (tree.push (.imports declaration) parent range).1

def lowerParts (tree : Tree) (parent : Nat) : List Part → Tree
  | [] => tree
  | part :: parts => lowerParts (lowerPart tree parent part) parent parts

end

/-- The tree of a module over the text that it was read from. -/
def ofModule (text : Text) (program : Module) : Tree := lowerParts (ofText text) 0 program.items

/-- Reads a text and gives its tree; the dialect follows from the path. -/
def parse (path : String) (text : Text) : Except SyntaxError Tree :=
  (Syntax.parse (Dialect.ofPath path) text).map (ofModule text)

end Untranslated.Tree
