import Untranslated.Text.Basic

/-!
# Syntax of a module

The syntax tree of a JavaScript or TypeScript module, with the detail that matters for finding
text: string literals, templates, calls, object literals, JSX and imports have constructors of
their own.  Every other construct is an `other` expression or a `plain` part that lists what it
holds in the order in which it is visited.  Binding patterns, types, class members and property
names never become nodes, so only the expressions and statements inside them are listed.
-/

namespace Untranslated.Syntax

/-- A name that an import declaration binds. -/
inductive ImportSpecifier where
  | named (name : String) (imported : String)
  | default (name : String)
  | wholeModule (name : String)
  deriving DecidableEq, Repr, Inhabited

/-- The local name that the specifier binds. -/
def ImportSpecifier.name : ImportSpecifier → String
  | named name _ => name
  | default name => name
  | wholeModule name => name

structure ImportDeclaration where
  source : String
  specifiers : List ImportSpecifier
  deriving DecidableEq, Repr, Inhabited

/-- A stretch of template text between two substitutions, as it is written. -/
structure Segment where
  range : Range
  raw : Text
  deriving DecidableEq, Repr, Inhabited

/-- What a plain part is: all four kinds are treated alike, the role only tells them apart. -/
inductive Role where
  | item
  | statement
  | property
  | container
  deriving DecidableEq, Repr, Inhabited

mutual

inductive Expr where
  | identifier (range : Range) (name : String)
  | string (range : Range) (value : Text)
  /-- A template literal: its first segment, then every substitution with the segment after it. -/
  | template (range : Range) (first : Segment) (rest : List Substitution)
  | paren (range : Range) (inner : Expr)
  | call (range : Range) (callee : Expr) (arguments : List Expr)
  /-- A call whose callee is the keyword `super` or `import`. -/
  | bareCall (range : Range) (arguments : List Expr)
  | object (range : Range) (parts : List Part)
  /-- A JSX element or fragment. -/
  | markup (range : Range) (parts : List Part)
  | other (range : Range) (parts : List Part)

inductive Substitution where
  | mk (expr : Expr) (after : Segment)

inductive Part where
  | expr (expr : Expr)
  | plain (role : Role) (range : Range) (parts : List Part)
  /-- A property `key: value` of an object literal; the parts are the computed key, if there is
  one, and the value. -/
  | keyed (range : Range) (key : Option String) (parts : List Part)
  | attribute (range : Range) (name : String) (parts : List Part)
  | text (range : Range) (value : Text)
  | imports (range : Range) (declaration : ImportDeclaration)

end

instance : Inhabited Expr := ⟨.other default []⟩

/-- A module is the list of its items. -/
structure Module where
  items : List Part

namespace Expr

def range : Expr → Range
  | identifier range _ => range
  | string range _ => range
  | template range _ _ => range
  | paren range _ => range
  | call range _ _ => range
  | bareCall range _ => range
  | object range _ => range
  | markup range _ => range
  | other range _ => range

/-- The name of an expression that is nothing but an identifier. -/
def name? : Expr → Option String
  | identifier _ name => some name
  | _ => none

/-- What is visited of an expression that is assigned to: an identifier holds nothing, and a
member or a cast gives way to the expressions inside it. -/
def targetParts : Expr → List Part
  | identifier _ _ => []
  | paren _ inner => [.expr inner]
  | other _ parts => parts
  | target => [.expr target]

/-- The properties of an object literal; any other expression has none. -/
def objectParts : Expr → List Part
  | object _ parts => parts
  | _ => []

end Expr

end Untranslated.Syntax
