import Untranslated.Config.Basic
import Untranslated.Json.Reader

/-!
# Configurations as JSON

A configuration is an object, in which settings may be missing and unknown keys are ignored, or an
array of the settings in order.
-/

namespace Untranslated.Config

open Json (Reader)
open Json.Reader (fail peek? advance)

/-- Reads the value of one setting. -/
def readField (config : Config) : Field → Reader Config
  | .includes => do return { config with includes := ← Reader.array Reader.string }
  | .ignores => do return { config with ignores := ← Reader.array Reader.string }
  | .ignoreTestFiles => do return { config with ignoreTestFiles := ← Reader.bool }
  | .wrapperFunction => do return { config with wrapperFunction := ← Reader.string }
  | .translationModule => do return { config with translationModule := ← Reader.string }
  | .translationModulePattern => do
      return { config with translationModulePattern := ← Reader.string }
  | .targetScript => do return { config with targetScript := ← Reader.string }

/-- Reads the members of an object; no setting may be given twice. -/
def readMembers : Nat → Bool → List Field → Config → Reader Config
  | 0, _, _, _ => fail .malformed
  | fuel + 1, isFirst, seen, config => do
      match ← Reader.nextKey? isFirst with
      | none =>
          advance
          return config
      | some key =>
          match Field.ofKey? key with
          | none =>
              Reader.colon
              Reader.skip
              readMembers fuel false seen config
          | some field =>
              if seen.contains field then fail .wrongType
              Reader.colon
              let config ← readField config field
              readMembers fuel false (field :: seen) config

/-- Reads settings in order from an array, which may stop after any of them. -/
def readElements : List Field → Bool → Config → Reader Config
  | [], _, config => do
      Reader.endArray
      return config
  | field :: fields, isFirst, config => do
      if ← Reader.nextElement isFirst then
        let config ← readField config field
        readElements fields false config
      else
        Reader.endArray
        return config

def read : Reader Config := do
  match ← peek? with
  | some '{' =>
      advance
      readMembers ((← get).length + 1) true [] {}
  | some '[' =>
      advance
      readElements Field.all true {}
  | _ => Reader.mismatch

/-- Reads a configuration that makes up a whole text. -/
def parse (text : Text) : Except Json.Error Config :=
  match (do
    let config ← read
    Reader.finish
    return config : Reader Config).run text with
  | .ok (config, _) => .ok config
  | .error error => .error error

/-! ### Writing -/

/-- The escape of a character in a string, if it needs one. -/
def escapeChar (char : Char) : List Char :=
  match char with
  | '"' => ['\\', '"']
  | '\\' => ['\\', '\\']
  | '\x08' => ['\\', 'b']
  | '\x0c' => ['\\', 'f']
  | '\n' => ['\\', 'n']
  | '\r' => ['\\', 'r']
  | '\t' => ['\\', 't']
  | _ =>
      if char.toNat < 0x20 then
        ['\\', 'u', '0', '0', Nat.digitChar (char.toNat / 16), Nat.digitChar (char.toNat % 16)]
      else [char]

def quote (text : String) : String :=
  "\"" ++ String.ofList (text.toList.flatMap escapeChar) ++ "\""

/-- A list of strings, one a line. -/
def renderStrings (strings : List String) : String :=
  match strings with
  | [] => "[]"
  | strings => "[\n    " ++ ",\n    ".intercalate (strings.map quote) ++ "\n  ]"

def renderField (config : Config) : Field → String
  | .includes => renderStrings config.includes
  | .ignores => renderStrings config.ignores
  | .ignoreTestFiles => if config.ignoreTestFiles then "true" else "false"
  | .wrapperFunction => quote config.wrapperFunction
  | .translationModule => quote config.translationModule
  | .translationModulePattern => quote config.translationModulePattern
  | .targetScript => quote config.targetScript

/-- A configuration with every setting on a line of its own. -/
def render (config : Config) : String :=
  let members := Field.all.map fun field => "  " ++ quote field.key ++ ": " ++ config.renderField field
  "\x7b\n" ++ ",\n".intercalate members ++ "\n\x7d"

end Untranslated.Config
