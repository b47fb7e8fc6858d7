import Untranslated.Config.Basic
import Untranslated.Files.Expansion

/-!
# Finding source files

The files to look at: those with the extension of a source file, below the places that are
included, and neither ignored nor inside something ignored.  Links below an included place are not
followed.
-/

namespace Untranslated

open Pattern (Glob GlobError)

structure ScanOptions where
  includes : List String
  ignores : List String
  ignoreTestFiles : Bool
  deriving DecidableEq, Repr, Inhabited

/-- What went wrong while looking for files. -/
inductive ScanWarning where
  | invalidIgnore (pattern : String) (error : GlobError)
  | missingInclude (path : Path)
  | invalidInclude (pattern : String) (error : GlobError)
  | inaccessible (path : Path) (error : FileError)
  deriving DecidableEq, Repr, Inhabited

structure ScanResult where
  /-- The files found, in the order of paths. -/
  files : List Path
  /-- How many places could not be looked into. -/
  skipped : Nat
  warnings : List ScanWarning
  deriving DecidableEq, Repr, Inhabited

def ScanWarning.message : ScanWarning → String
  | invalidIgnore pattern error => "Invalid ignore pattern '" ++ pattern ++ "': " ++ error.message
  | missingInclude path => "Include path does not exist: " ++ path
  | invalidInclude pattern error => "Invalid glob pattern '" ++ pattern ++ "': " ++ error.message
  | inaccessible path error =>
      "Cannot access path: IO error for operation on " ++ path ++ ": " ++ error.message

/-- What is left out: whole places, and paths that a pattern stands for. -/
structure IgnoreRules where
  places : List Path
  patterns : List Glob
  deriving DecidableEq, Repr, Inhabited

namespace IgnoreRules

/-- The places among the ignores, read from the base. -/
def placesOf (base : Path) (ignores : List String) : List Path :=
  (ignores.filter (!Glob.isGlob ·)).map base.join

/-- The patterns among texts; those that are none are left out. -/
def patternsOf (patterns : List String) : List Glob :=
  (patterns.filter Glob.isGlob).filterMap fun pattern => (Glob.parse pattern).toOption

def ofOptions (base : Path) (options : ScanOptions) : IgnoreRules where
  places := placesOf base options.ignores
  patterns := patternsOf options.ignores ++
    if options.ignoreTestFiles then patternsOf Config.testFilePatterns else []

def isIgnored (rules : IgnoreRules) (path : Path) : Bool :=
  rules.places.any path.isWithin || rules.patterns.any (·.isMatch path)

/-- The ignores that look like patterns and are none. -/
def warnings (ignores : List String) : List ScanWarning :=
  (ignores.filter Glob.isGlob).filterMap fun pattern =>
    match Glob.parse pattern with
    | .ok _ => none
    | .error error => some (.invalidIgnore pattern error)

end IgnoreRules

/-- The extensions of source files. -/
def sourceExtensions : List String := ["tsx", "ts", "mts", "cts", "jsx", "js", "mjs", "cjs"]

def Path.isSource (path : Path) : Bool :=
  match path.extension? with
  | some ending => sourceExtensions.contains ending
  | none => false

mutual

/-- The source files in an entry, links aside. -/
def Entry.sources (isIgnored : Path → Bool) (path : Path) : Entry → List Path
  | .file _ => if !isIgnored path && path.isSource then [path] else []
  | .directory folder => if isIgnored path then [] else folder.sources isIgnored path
  | .link _ => []

/-- The source files below a folder, links aside. -/
def Folder.sources (isIgnored : Path → Bool) (path : Path) : Folder → List Path
  | .empty => []
  | .add name entry rest =>
      entry.sources isIgnored (path.join name) ++ rest.sources isIgnored path

end

namespace Files

/-- The places that one include stands for, or what is wrong with it. -/
def rootsOf (files : Files) (base : Path) (pattern : String) : Except ScanWarning (List Path) :=
  let path := base.join pattern
  if Glob.isGlob pattern then
    match files.expand path with
    | .ok paths => .ok (paths.filter files.isDirectory)
    | .error error => .error (.invalidInclude pattern error)
  else if files.isPresent path then .ok [path]
  else .error (.missingInclude path)

/-- The source files at or below a place.  A place that is a link to a folder is entered. -/
def sourcesAt (files : Files) (isIgnored : Path → Bool) (root : Path) :
    Except ScanWarning (List Path) :=
  match files.entryOf root { follow := false } with
  | .error error => .error (.inaccessible root error)
  | .ok (.link _) =>
      match files.entry root with
      | .error error => .error (.inaccessible root error)
      | .ok (.directory folder) => .ok (folder.sources isIgnored root)
      | .ok _ => .ok []
  | .ok entry => .ok (entry.sources isIgnored root)

/-- The results among outcomes. -/
def found (outcomes : List (Except ScanWarning (List Path))) : List Path :=
  outcomes.flatMap fun
    | .ok paths => paths
    | .error _ => []

/-- The warnings among outcomes. -/
def warned (outcomes : List (Except ScanWarning (List Path))) : List ScanWarning :=
  outcomes.filterMap fun
    | .ok _ => none
    | .error warning => some warning

/-- Looks for source files from a base directory. -/
def scan (files : Files) (base : Path) (options : ScanOptions) : ScanResult :=
  let rules := IgnoreRules.ofOptions base options
  let roots :=
    if options.includes.isEmpty then [.ok [base]] else options.includes.map (files.rootsOf base)
  let outcomes := (found roots).map (files.sourcesAt rules.isIgnored)
  { files := (found outcomes).foldl (fun paths path => Path.insert path paths) []
    skipped := (warned outcomes).length
    warnings := IgnoreRules.warnings options.ignores ++ warned roots ++ warned outcomes }

end Files

end Untranslated
