import Untranslated.Rule.Options
import Untranslated.Rule.Wrapper

/-!
# Literals that are not translated

A literal is untranslated when its source text is in the target script and it is not passed to the
translation function: neither as an argument, nor as the `context` of the object that is the second
argument.
-/

namespace Untranslated

/-- A piece of text that a program shows. -/
structure Literal where
  node : Nat
  placement : Placement
  /-- Its source text. -/
  raw : Text
  /-- The node whose surroundings decide whether it is translated. -/
  anchor : Nat
  deriving DecidableEq, Repr, Inhabited

namespace Literal

/-- The source text without the blanks around it. -/
def trimmed (literal : Literal) : Text := Text.trim literal.raw

/-- What a translation call would be given: markup shows line breaks as spaces. -/
def value (literal : Literal) : Text :=
  match literal.placement with
  | .markupText => Text.flattenLines literal.trimmed
  | _ => literal.trimmed

end Literal

namespace Tree

/-- Whether a node is the value of a markup attribute. -/
def isAttributeValue (tree : Tree) (id : Nat) : Bool :=
  match (tree.parent? id).bind tree.kind? with
  | some (.attribute _) => true
  | _ => false

/-- The literal that a node is, if it is one.  A template's segments share its surroundings. -/
def literal? (tree : Tree) (id : Nat) : Option Literal :=
  match tree.node? id with
  | none => none
  | some node =>
      match node.kind with
      | .string _ =>
          let placement := if tree.isAttributeValue id then .attribute else .expression
          some ⟨id, placement, tree.textOf node, id⟩
      | .markupText _ => some ⟨id, .markupText, tree.textOf node, id⟩
      | .segment raw => node.parent.map fun parent => ⟨id, .segment, raw, parent⟩
      | _ => none

/-- The literals of a tree in the order of their nodes. -/
def literals (tree : Tree) : List Literal := (List.range tree.nodes.size).filterMap tree.literal?

/-- Whether a node is an argument of a call of one of the functions. -/
def isArgument (tree : Tree) (id : Nat) (names : List String) : Bool :=
  match (tree.parent? id).bind tree.kind? with
  | some (.call (some callee) arguments) => names.contains callee && arguments.contains id
  | _ => false

/-- Whether a node is the second argument of a call of one of the functions. -/
def isSecondArgument (tree : Tree) (id : Nat) (names : List String) : Bool :=
  match (tree.parent? id).bind tree.kind? with
  | some (.call (some callee) arguments) => names.contains callee && arguments[1]? == some id
  | _ => false

/-- Whether a node is the `context` in an object that is the second argument of a call of one of
the functions. -/
def isContext (tree : Tree) (id : Nat) (names : List String) : Bool :=
  match tree.parent? id with
  | none => false
  | some property =>
      if tree.kind? property = some (.property (some "context")) then
        match tree.parent? property with
        | none => false
        | some object =>
            decide (tree.kind? object = some .object) && tree.isSecondArgument object names
      else false

/-- Whether a node is passed to one of the functions. -/
def isWrapped (tree : Tree) (id : Nat) (names : List String) : Bool :=
  tree.isArgument id names || tree.isContext id names

/-- Whether a literal is in the target script and not passed to one of the functions. -/
def isUntranslated (tree : Tree) (options : RuleOptions) (names : List String)
    (literal : Literal) : Bool :=
  !literal.trimmed.isEmpty && options.targetScript.isMatch literal.raw &&
    !tree.isWrapped literal.anchor names

/-- The untranslated literals of a tree in the order of their nodes. -/
def untranslated (tree : Tree) (options : RuleOptions) : List Literal :=
  tree.literals.filter (tree.isUntranslated options (tree.wrapperNames options.modulePattern))

/-- Where a text first occurs in the text of a node. -/
def findIn? (tree : Tree) (id : Nat) (text : Text) : Option Range :=
  (tree.node? id).bind fun node =>
    (Text.find? text (tree.textOf node)).map fun offset =>
      let start := node.range.start + offset
      ⟨start, start + Text.byteSize text⟩

/-- The range of a literal without the blanks around it.  A segment that is not found in its own
range is looked for in its template. -/
def trimmedRange? (tree : Tree) (literal : Literal) : Option Range :=
  match literal.placement with
  | .segment =>
      (tree.findIn? literal.node literal.trimmed).or
        (tree.findIn? literal.anchor literal.trimmed)
  | _ => tree.findIn? literal.node literal.trimmed

end Tree

end Untranslated
