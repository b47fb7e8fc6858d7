/-!
# Paths

A path is text that names a file by the directories on the way to it, with a slash after each.  Two
spellings of a path are the same path when their components are; a `.` counts only at the start.
-/

namespace Untranslated

/-- Paths are text.  A file whose name is not valid Unicode has none. -/
abbrev Path := String

namespace Path

inductive Component where
  | root
  | here
  | up
  | name (name : String)
  deriving DecidableEq, Repr, Inhabited

/-- The parts of a path between slashes, the empty ones included. -/
def split : List Char → List (List Char)
  | [] => [[]]
  | char :: chars =>
      if char = '/' then [] :: split chars
      else
        match split chars with
        | [] => [[char]]
        | part :: parts => (char :: part) :: parts

def componentOf? (isFirst : Bool) (part : List Char) : Option Component :=
  if part = [] then none
  else if part = ['.'] then if isFirst then some .here else none
  else if part = ['.', '.'] then some .up
  else some (.name (String.ofList part))

def components (path : Path) : List Component :=
  match split path.toList with
  | [] => []
  | [[]] => []
  | [] :: parts => .root :: parts.filterMap (componentOf? false)
  | first :: parts => (componentOf? true first).toList ++ parts.filterMap (componentOf? false)

def isAbsolute (path : Path) : Bool := path.toList.head? == some '/'

/-- The path that `path` names when it is read from the directory `base`. -/
def join (base path : Path) : Path :=
  if isAbsolute path || base.isEmpty then path
  else if base.toList.getLast? == some '/' then base ++ path
  else base ++ "/" ++ path

/-- Drops slashes and components `.` from the end of a path, given backwards. -/
def dropTail : List Char → List Char
  | [] => []
  | ['/'] => ['/']
  | '/' :: chars => dropTail chars
  | '.' :: '/' :: chars => dropTail ('/' :: chars)
  | char :: chars => char :: chars

/-- The path without its last component; an empty path and the root have no parent. -/
def parent? (path : Path) : Option Path :=
  match dropTail path.toList.reverse with
  | [] => none
  | ['/'] => none
  | chars => some (String.ofList (dropTail (chars.dropWhile (· != '/'))).reverse)

/-- The name of the file that a path leads to. -/
def fileName? (path : Path) : Option String :=
  match path.components.getLast? with
  | some (.name name) => some name
  | _ => none

/-- What follows the last point of the file name, unless the name starts with that point. -/
def extension? (path : Path) : Option String :=
  path.fileName?.bind fun name =>
    let ending := (name.toList.reverse.takeWhile (· != '.')).reverse
    if name.length ≤ ending.length + 1 then none else some (String.ofList ending)

/-- Whether a path is `directory` or leads below it, as the two are spelled. -/
def isWithin (path directory : Path) : Bool :=
  directory.components.isPrefixOf path.components

/-- The kind of a component, as a number that orders kinds. -/
def Component.rank : Component → Nat
  | .root => 0
  | .here => 1
  | .up => 2
  | .name _ => 3

/-- The order of components: the root, `.`, `..`, then names as text. -/
def Component.compare : Component → Component → Ordering
  | .name a, .name b => Ord.compare a b
  | a, b => Ord.compare a.rank b.rank

/-- The order of paths, component by component. -/
def compareComponents : List Component → List Component → Ordering
  | [], [] => .eq
  | [], _ :: _ => .lt
  | _ :: _, [] => .gt
  | a :: as, b :: bs => (a.compare b).then (compareComponents as bs)

def compare (a b : Path) : Ordering := compareComponents a.components b.components

/-- Adds a path to paths in order; of two spellings of one path the first stays. -/
def insert (path : Path) : List Path → List Path
  | [] => [path]
  | other :: paths =>
      match compare path other with
      | .lt => path :: other :: paths
      | .eq => other :: paths
      | .gt => other :: insert path paths

end Path

end Untranslated
