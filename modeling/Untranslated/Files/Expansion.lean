import Untranslated.Files.Folder
import Untranslated.Pattern.Glob

/-!
# Expanding patterns

The paths that a pattern stands for.  The components of the pattern are matched one after the
other against the names in a folder; links to folders are entered.  A component without wildcards
is taken as it stands, so it may also be `.` or `..`.
-/

namespace Untranslated.Files

open Pattern (Glob GlobError)

/-- The path of a name in a folder; the working directory is left out. -/
def childPath (path : Path) (name : String) : Path :=
  if path.components = [.here] then name else path.join name

/-- The names in the folder that a path leads to, in order. -/
def namesIn (files : Files) (path : Path) : List String :=
  match files.entry path with
  | .ok (.directory folder) => folder.names.mergeSort fun a b => (compare a b).isLE
  | _ => []

/-- Whether a path leads to something, be it a link that leads nowhere. -/
def hasEntry (files : Files) (path : Path) : Bool :=
  (files.entryOf path { follow := false }).isOk

/-- The special names that a component with wildcards may stand for. -/
def specialNames (glob : Glob) : List String :=
  if glob.tokens.head? == some (.char '.') then ["..", "."].filter glob.isMatch else []

/-- Whether a name as it stands leads on from a path. -/
def leadsOn (files : Files) (path : Path) (name : String) : Bool :=
  if name == "." || name == ".." then files.isDirectory path else files.hasEntry (childPath path name)

/-- The paths that components stand for from a path on.  A recursive component stands for any
number of folders: `deeper` tells what it and those after it stand for one folder further down. -/
def expandFrom (files : Files) (onlyFolders : Bool) (deeper : List Glob → Path → List Path) :
    List Glob → Path → List Path
  | [], path => if onlyFolders && !files.isDirectory path then [] else [path]
  | glob :: globs, path =>
      match glob.literal? with
      | some name =>
          if files.leadsOn path name then
            expandFrom files onlyFolders deeper globs (childPath path name)
          else []
      | none =>
          if files.isDirectory path then
            (specialNames glob).flatMap (fun name =>
                expandFrom files onlyFolders deeper globs (path.join name)) ++
              (files.namesIn path).flatMap fun name =>
                let next := childPath path name
                if glob.isRecursive then
                  (match globs with
                    | [] => if files.isDirectory next then [next] else []
                    | target :: globs =>
                        if target.isMatch name then expandFrom files onlyFolders deeper globs next
                        else []) ++
                    deeper (glob :: globs) next
                else if glob.isMatch name then expandFrom files onlyFolders deeper globs next
                else []
          else []

/-- The same where recursive components go down at most as many folders as `count` says. -/
def expandUpTo (files : Files) (onlyFolders : Bool) : Nat → List Glob → Path → List Path
  | 0, _, _ => []
  | count + 1, globs, path =>
      expandFrom files onlyFolders (files.expandUpTo onlyFolders count) globs path

/-- Components in which no recursive one follows another: two of them stand for the same as one. -/
def withoutRepeats : List Glob → List Glob
  | first :: second :: globs =>
      if first.isRecursive && second.isRecursive then withoutRepeats (second :: globs)
      else first :: withoutRepeats (second :: globs)
  | globs => globs

/-- The components of a pattern.  A slash at its end makes no component. -/
def patternParts (pattern : String) : List String :=
  let chars := pattern.toList
  let parts := (Path.split (if Path.isAbsolute pattern then chars.drop 1 else chars)).map String.ofList
  if parts.getLast? == some "" then parts.dropLast else parts

/-- The folders on the longest way down from a path: it enters no folder twice between two links. -/
def longestWay (files : Files) : Nat := (maxLinks + 1) * (files.top.depth + 1)

/-- The paths that a pattern stands for. -/
def expand (files : Files) (pattern : String) : Except GlobError (List Path) := do
  let _ ← Glob.parse pattern
  let globs ← (patternParts pattern).mapM Glob.parse
  let start := if Path.isAbsolute pattern then "/" else "."
  let onlyFolders := pattern.toList.getLast? == some '/'
  if globs.isEmpty then return []
  return files.expandUpTo onlyFolders files.longestWay (withoutRepeats globs) start

end Untranslated.Files
