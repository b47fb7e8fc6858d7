import Untranslated.Pattern.Glob
import Untranslated.Pattern.Regex.Parser
import Untranslated.Rule.Options

/-!
# Configuration

What a project may configure, and when a configuration makes sense.
-/

namespace Untranslated

open Pattern (Glob GlobError Regex RegexError)

structure Config where
  /-- Where to look; everywhere if empty. -/
  includes : List String := []
  /-- What to leave out. -/
  ignores : List String := ["**/node_modules/**", "**/dist/**", "**/build/**"]
  ignoreTestFiles : Bool := true
  wrapperFunction : String := "i18n"
  translationModule : String := "./i18n"
  translationModulePattern : String := "(^|[/.])i18n(\\.[cm]?[jt]sx?)?$"
  targetScript : String := "[\\x\x7b0400\x7d-\\x\x7b04FF\x7d]"
  deriving DecidableEq, Repr, Inhabited

namespace Config

/-- The name of the file that holds a configuration. -/
def fileName : String := ".unwrappedrc.json"

/-- The files that hold tests rather than what a program shows. -/
def testFilePatterns : List String := [
  "**/*.test.tsx", "**/*.test.ts", "**/*.test.jsx", "**/*.test.js",
  "**/*.spec.tsx", "**/*.spec.ts", "**/*.spec.jsx", "**/*.spec.js",
  "**/__tests__/**"]

/-- The settings of a configuration, in the order in which they are written. -/
inductive Field where
  | includes
  | ignores
  | ignoreTestFiles
  | wrapperFunction
  | translationModule
  | translationModulePattern
  | targetScript
  deriving DecidableEq, Repr, Inhabited

namespace Field

def all : List Field :=
  [includes, ignores, ignoreTestFiles, wrapperFunction, translationModule,
    translationModulePattern, targetScript]

def key : Field → String
  | includes => "includes"
  | ignores => "ignores"
  | ignoreTestFiles => "ignoreTestFiles"
  | wrapperFunction => "wrapperFunction"
  | translationModule => "translationModule"
  | translationModulePattern => "translationModulePattern"
  | targetScript => "targetScript"

def ofKey? (key : String) : Option Field := all.find? (·.key == key)

end Field

/-- Why a configuration makes no sense. -/
inductive Fault where
  | invalidGlob (field : Field) (pattern : String) (error : GlobError)
  | emptyWrapperFunction
  | invalidRegex (field : Field) (pattern : String) (error : RegexError)
  deriving DecidableEq, Repr, Inhabited

def checkGlob (field : Field) (pattern : String) : Except Fault Unit :=
  match Glob.parse pattern with
  | .ok _ => .ok ()
  | .error error => .error (.invalidGlob field pattern error)

def compileRegex (field : Field) (pattern : String) : Except Fault Regex :=
  match Regex.parse pattern.toList with
  | .ok regex => .ok regex
  | .error error => .error (.invalidRegex field pattern error)

/-- The settings of the search that a configuration asks for. -/
def ruleOptions (config : Config) : Except Fault RuleOptions := do
  let modulePattern ← compileRegex .translationModulePattern config.translationModulePattern
  let targetScript ← compileRegex .targetScript config.targetScript
  return {
    modulePattern
    wrapperFunction := config.wrapperFunction
    translationModule := config.translationModule
    targetScript }

/-- Checks a configuration: what is ignored must be patterns, what is included may also be plain
paths, the function must have a name, and the search must have settings. -/
def validate (config : Config) : Except Fault Unit := do
  config.ignores.forM (checkGlob .ignores)
  (config.includes.filter Glob.isGlob).forM (checkGlob .includes)
  if (Text.trim config.wrapperFunction.toList).isEmpty then throw .emptyWrapperFunction
  let _ ← config.ruleOptions

end Config

end Untranslated
