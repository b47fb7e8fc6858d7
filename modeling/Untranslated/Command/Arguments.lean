import Untranslated.Files.Path

/-!
# Command-line arguments

The commands and their options.  Arguments are read from left to right.  The value of an option is
settled when the next option or the end follows it, so a fault in it gives way to an unknown
argument right after it.
-/

namespace Untranslated

/-- The options that commands on source files share. -/
structure CommonArguments where
  sourceRoot : Option Path := none
  wrapperFunction : Option String := none
  verbose : Bool := false
  deriving DecidableEq, Repr, Inhabited

inductive Command where
  /-- Report what is not translated. -/
  | check (common : CommonArguments)
  /-- Show what the fixes would change, or change it. -/
  | fix (common : CommonArguments) (apply : Bool)
  /-- Write a configuration file. -/
  | init
  deriving DecidableEq, Repr, Inhabited

/-- Why arguments start no command. -/
inductive UsageOutcome where
  | help
  | version
  | invalidValue
  | unknownArgument
  | invalidSubcommand
  | tooManyValues
  | argumentConflict
  deriving DecidableEq, Repr, Inhabited

namespace UsageOutcome

/-- Help and the version are no faults. -/
def exitCode : UsageOutcome → Nat
  | help | version => 0
  | _ => 2

end UsageOutcome

def Command.verbose : Command → Bool
  | .check common | .fix common _ => common.verbose
  | .init => false

namespace Arguments

/-- The commands that have options of their own. -/
inductive Kind where
  | check
  | fix
  | init
  deriving DecidableEq, Repr, Inhabited

/-- The names that select a command or help. -/
inductive Selector where
  | command (kind : Kind)
  | help

def selector? : String → Option Selector
  | "check" => some (.command .check)
  | "fix" => some (.command .fix)
  | "init" => some (.command .init)
  | "help" => some .help
  | _ => none

/-- Options that take a value. -/
inductive ValueOption where
  | sourceRoot
  | wrapperFunction
  deriving DecidableEq, Repr, Inhabited

/-- Options that take none. -/
inductive Flag where
  | verbose
  | apply
  | help
  deriving DecidableEq, Repr, Inhabited

inductive Named where
  | valued (option : ValueOption)
  | flag (flag : Flag)

/-- The option of a command with a long name. -/
def long? (kind : Kind) (name : String) : Option Named :=
  match kind, name with
  | _, "help" => some (.flag .help)
  | .init, _ => none
  | _, "source-root" => some (.valued .sourceRoot)
  | _, "wrapper-function" => some (.valued .wrapperFunction)
  | _, "verbose" => some (.flag .verbose)
  | .fix, "apply" => some (.flag .apply)
  | _, _ => none

/-- The flag of a command with a short name. -/
def short? (kind : Kind) : Char → Option Flag
  | 'h' => some .help
  | 'v' => if kind = .init then none else some .verbose
  | _ => none

/-- What has been read of a command's arguments. -/
structure State where
  common : CommonArguments := {}
  apply : Bool := false
  /-- An option that was named last, and its value if that has been read. -/
  pending : Option (ValueOption × Option String) := none
  deriving DecidableEq, Repr, Inhabited

namespace State

/-- Gives an option its value; an option takes one only once, and a path must not be empty. -/
def assign (state : State) (option : ValueOption) (value : String) : Except UsageOutcome State :=
  let common := state.common
  match option with
  | .sourceRoot =>
      if common.sourceRoot.isSome then .error .argumentConflict
      else if value.isEmpty then .error .invalidValue
      else .ok { state with common := { common with sourceRoot := some value } }
  | .wrapperFunction =>
      if common.wrapperFunction.isSome then .error .argumentConflict
      else .ok { state with common := { common with wrapperFunction := some value } }

/-- Settles the option that was named last. -/
def settle (state : State) : Except UsageOutcome State :=
  match state.pending with
  | none => .ok state
  | some (_, none) => .error .invalidValue
  | some (option, some value) => { state with pending := none }.assign option value

def raise (state : State) (flag : Flag) : Except UsageOutcome State := do
  let state ← state.settle
  match flag with
  | .help => .error .help
  | .verbose =>
      if state.common.verbose then .error .argumentConflict
      else .ok { state with common := { state.common with verbose := true } }
  | .apply => if state.apply then .error .argumentConflict else .ok { state with apply := true }

/-- Names an option whose value is still to come. -/
def expect (state : State) (option : ValueOption) : Except UsageOutcome State := do
  let state ← state.settle
  return { state with pending := some (option, none) }

/-- Names an option together with its value. -/
def attach (state : State) (option : ValueOption) (value : String) :
    Except UsageOutcome State := do
  (← state.settle).assign option value

end State

/-- Splits the text of a long option at its first equals sign. -/
def splitEquals (chars : List Char) : String × Option String :=
  let name := chars.takeWhile (· != '=')
  match chars.drop name.length with
  | _ :: value => (String.ofList name, some (String.ofList value))
  | [] => (String.ofList name, none)

def readLong (kind : Kind) (state : State) (chars : List Char) : Except UsageOutcome State :=
  let (name, value) := splitEquals chars
  match long? kind name, value with
  | none, _ => .error .unknownArgument
  | some (.flag flag), none => state.raise flag
  | some (.flag _), some _ => .error .tooManyValues
  | some (.valued option), none => state.expect option
  | some (.valued option), some value => state.attach option value

/-- Reads flags that share one hyphen. -/
def readShort (kind : Kind) : State → List Char → Except UsageOutcome State
  | state, [] => .ok state
  | state, char :: chars =>
      match short? kind char with
      | none => .error .unknownArgument
      | some flag => (state.raise flag).bind (readShort kind · chars)

/-- Reads the arguments of a command; after `--` none of them is an option, and commands take no
others. -/
def readAll (kind : Kind) : State → List String → Except UsageOutcome State
  | state, [] => state.settle
  | state, argument :: arguments =>
      match argument.toList with
      | ['-', '-'] => if arguments.isEmpty then state.settle else .error .unknownArgument
      | '-' :: '-' :: chars => (readLong kind state chars).bind (readAll kind · arguments)
      | '-' :: char :: chars =>
          (readShort kind state (char :: chars)).bind (readAll kind · arguments)
      | _ =>
          match state.pending with
          | some (option, none) =>
              readAll kind { state with pending := some (option, some argument) } arguments
          | _ => .error .unknownArgument

/-- Help on a command: the names given must lead to one. -/
def readHelp : List String → UsageOutcome
  | [] => .help
  | [name] => if (selector? name).isSome then .help else .invalidSubcommand
  | _ => .invalidSubcommand

/-- What is read of the arguments before a command is named; the flags there end the reading. -/
def readTop : List String → Except UsageOutcome (Option Command)
  | [] => .ok none
  | argument :: arguments =>
      match selector? argument, argument.toList with
      | some .help, _ => .error (readHelp arguments)
      | some (.command kind), _ => do
          let state ← readAll kind {} arguments
          match kind with
          | .check => return some (.check state.common)
          | .fix => return some (.fix state.common state.apply)
          | .init => return some .init
      | none, ['-', '-'] =>
          match arguments with
          | [] => .ok none
          | name :: _ =>
              .error (if (selector? name).isSome then .unknownArgument else .invalidSubcommand)
      | none, '-' :: '-' :: chars =>
          match splitEquals chars with
          | ("help", none) => .error .help
          | ("version", none) => .error .version
          | ("help", some _) | ("version", some _) => .error .tooManyValues
          | _ => .error .unknownArgument
      | none, '-' :: 'h' :: _ => .error .help
      | none, '-' :: 'V' :: _ => .error .version
      | none, '-' :: _ :: _ => .error .unknownArgument
      | none, _ => .error .invalidSubcommand

end Arguments

/-- The command that arguments ask for, if they name one. -/
def Command.ofArguments (arguments : List String) : Except UsageOutcome (Option Command) :=
  Arguments.readTop arguments

end Untranslated
