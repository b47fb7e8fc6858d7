import Untranslated.Files.Path
import Untranslated.Text.Basic

/-!
# Files and folders

A tree of folders with files and links in it, and the working directory from which paths are read.
Reading a path follows links, at most as many as `maxLinks`; what a path leads to is found by the
names on the way, so `..` leaves the folder that was really entered.
-/

namespace Untranslated

/-- What a file holds: text, or bytes that are not text in UTF-8. -/
inductive Content where
  | text (text : Text)
  | binary (bytes : ByteArray)

namespace Content

instance : Inhabited Content := ⟨.text []⟩

instance : DecidableEq Content
  | text left, text right => decidable_of_iff (left = right) (by simp)
  | binary left, binary right =>
      have := ByteArray.instDecidableEq left right
      decidable_of_iff (left = right) (by simp)
  | text _, binary _ | binary _, text _ => isFalse nofun

def ofBytes (bytes : ByteArray) : Content :=
  match String.fromUTF8? bytes with
  | some string => .text string.toList
  | none => .binary bytes

end Content

mutual

inductive Entry where
  | file (content : Content)
  | directory (folder : Folder)
  | link (target : Path)

/-- Names and what they stand for.  A file belongs to one name: two names for one file are not
told apart from two files that hold the same. -/
inductive Folder where
  | empty
  | add (name : String) (entry : Entry) (rest : Folder)

end

instance : Inhabited Folder := ⟨.empty⟩

instance : Inhabited Entry := ⟨.directory .empty⟩

/-- The names on the way from the top folder. -/
abbrev Location := List String

inductive FileError where
  | notFound
  | notADirectory
  | isADirectory
  | invalidData
  | tooManyLinks
  deriving DecidableEq, Repr, Inhabited

def FileError.message : FileError → String
  | notFound => "No such file or directory (os error 2)"
  | notADirectory => "Not a directory (os error 20)"
  | isADirectory => "Is a directory (os error 21)"
  | invalidData => "stream did not contain valid UTF-8"
  | tooManyLinks => "Too many levels of symbolic links (os error 40)"

namespace Folder

def find? (name : String) : Folder → Option Entry
  | empty => none
  | add other entry rest => if other = name then some entry else rest.find? name

/-- Puts an entry under a name, in place of one that is there. -/
def put (name : String) (entry : Entry) : Folder → Folder
  | empty => add name entry empty
  | add other old rest =>
      if other = name then add name entry rest else add other old (rest.put name entry)

def names : Folder → List String
  | empty => []
  | add name _ rest => name :: rest.names

/-- The entry at a location; links on the way are not followed. -/
def entryAt? (folder : Folder) : Location → Option Entry
  | [] => some (.directory folder)
  | name :: location =>
      match location, folder.find? name with
      | [], entry => entry
      | location, some (.directory inner) => inner.entryAt? location
      | _, _ => none

/-- Changes the folder at a location, making folders on the way. -/
def modifyAt (change : Folder → Folder) (folder : Folder) : Location → Folder
  | [] => change folder
  | name :: location =>
      let inner :=
        match folder.find? name with
        | some (.directory inner) => inner
        | _ => empty
      folder.put name (.directory (inner.modifyAt change location))

/-- Puts an entry at a location. -/
def putAt (folder : Folder) (location : Location) (entry : Entry) : Folder :=
  match location.getLast? with
  | none => folder
  | some name => folder.modifyAt (put name entry) location.dropLast

end Folder

mutual

/-- The files in an entry with their locations, links aside. -/
def Entry.files (location : Location) : Entry → List (Location × Content)
  | .file content => [(location, content)]
  | .directory folder => folder.files location
  | .link _ => []

/-- The files below a folder with their locations, links aside. -/
def Folder.files (location : Location) : Folder → List (Location × Content)
  | .empty => []
  | .add name entry rest => entry.files (location ++ [name]) ++ rest.files location

end

mutual

/-- How many folders lie one in the other in an entry. -/
def Entry.depth : Entry → Nat
  | .file _ => 0
  | .directory folder => folder.depth + 1
  | .link _ => 0

/-- How many folders lie one in the other below a folder. -/
def Folder.depth : Folder → Nat
  | .empty => 0
  | .add _ entry rest => max entry.depth rest.depth

end

/-- A tree of files, seen from a working directory. -/
structure Files where
  top : Folder
  workingDirectory : Location
  deriving Inhabited

/-- How the last name of a path is treated: whether a link there is followed, and whether the name
may be free. -/
structure Ending where
  follow : Bool := true
  mayBeFree : Bool := false

namespace Files

def maxLinks : Nat := 40

/-- The names of a path.  A slash at the end asks for a directory, as `.` does. -/
def names (path : Path) : List String :=
  let parts := (Path.split path.toList).map String.ofList
  let names := parts.filter (· != "")
  if parts.getLast? == some "" && !names.isEmpty then names ++ ["."] else names

/-- Goes from a folder along names; `follow` continues at the target of a link. -/
def walk (top : Folder) (ending : Ending)
    (follow : Location → Path → List String → Except FileError Location) :
    Location → List String → Except FileError Location
  | location, [] => .ok location
  | location, name :: rest =>
      if name = "." then walk top ending follow location rest
      else if name = ".." then walk top ending follow location.dropLast rest
      else
        let next := location ++ [name]
        match top.entryAt? next with
        | none => if rest.isEmpty && ending.mayBeFree then .ok next else .error .notFound
        | some (.directory _) => walk top ending follow next rest
        | some (.file _) => if rest.isEmpty then .ok next else .error .notADirectory
        | some (.link target) =>
            if rest.isEmpty && !ending.follow then .ok next else follow location target rest

/-- Where names lead when at most `links` links are followed. -/
def resolve (top : Folder) (ending : Ending) :
    Nat → Location → List String → Except FileError Location
  | 0, _, _ => .error .tooManyLinks
  | links + 1, location, path =>
      walk top ending (fun location target rest =>
        if target.isEmpty then .error .notFound
        else
          resolve top ending links (if Path.isAbsolute target then [] else location)
            (names target ++ rest)) location path

/-- Where a path leads. -/
def locate (files : Files) (path : Path) (ending : Ending) : Except FileError Location :=
  if path.isEmpty then .error .notFound
  else
    resolve files.top ending (maxLinks + 1)
      (if Path.isAbsolute path then [] else files.workingDirectory) (names path)

/-- The entry that a path leads to. -/
def entryOf (files : Files) (path : Path) (ending : Ending) : Except FileError Entry := do
  let location ← files.locate path ending
  match files.top.entryAt? location with
  | some entry => .ok entry
  | none => .error .notFound

/-- The entry that a path leads to when links are followed. -/
def entry (files : Files) (path : Path) : Except FileError Entry := files.entryOf path {}

def isPresent (files : Files) (path : Path) : Bool := (files.entry path).isOk

def isDirectory (files : Files) (path : Path) : Bool :=
  match files.entry path with
  | .ok (.directory _) => true
  | _ => false

/-- The text of the file that a path leads to. -/
def readText (files : Files) (path : Path) : Except FileError Text := do
  match ← files.entry path with
  | .file (.text text) => .ok text
  | .file (.binary _) => .error .invalidData
  | .directory _ => .error .isADirectory
  | .link _ => .error .notFound

/-- Writes a text to the file that a path leads to; the file need not be there yet. -/
def writeText (files : Files) (path : Path) (text : Text) : Except FileError Files := do
  let location ← files.locate path { mayBeFree := true }
  match files.top.entryAt? location with
  | some (.directory _) => .error .isADirectory
  | _ => .ok { files with top := files.top.putAt location (.file (.text text)) }

end Files

end Untranslated
