import BuildFleet.CommandLine.Argument
import BuildFleet.Operator.Config

/-!
# Settings from the command line and the environment

Every setting of the operator can be given as a long option or in a variable of the
environment; the option wins. Options are read from left to right, and a value that stands
in an argument of its own counts only when something that is not out of place follows it or
nothing does, so an argument that means nothing is reported before a bad value in front of
it.
-/

namespace BuildFleet

/-- What can be set. -/
inductive Setting where
  | watchNamespace | fieldManager | notReadyBackoff | errorBackoff | watchTimeout | jsonLogs
  deriving DecidableEq, Inhabited, Repr

namespace Setting

/-- All settings, in the order in which they are listed. -/
def all : List Setting :=
  [watchNamespace, fieldManager, notReadyBackoff, errorBackoff, watchTimeout, jsonLogs]

/-- The name of the long option. -/
def optionName : Setting → String
  | watchNamespace => "watch-namespace"
  | fieldManager => "field-manager"
  | notReadyBackoff => "not-ready-backoff-secs"
  | errorBackoff => "error-backoff-secs"
  | watchTimeout => "watch-timeout-secs"
  | jsonLogs => "json-logs"

/-- The variable of the environment. -/
def envVariable : Setting → String
  | watchNamespace => "BUILDKIT_OPERATOR_WATCH_NAMESPACE"
  | fieldManager => "BUILDKIT_OPERATOR_FIELD_MANAGER"
  | notReadyBackoff => "BUILDKIT_OPERATOR_NOT_READY_BACKOFF"
  | errorBackoff => "BUILDKIT_OPERATOR_ERROR_BACKOFF"
  | watchTimeout => "BUILDKIT_OPERATOR_WATCH_TIMEOUT"
  | jsonLogs => "BUILDKIT_OPERATOR_JSON_LOGS"

/-- Whether the option takes a value; one that takes none stands for true. -/
def takesValue : Setting → Bool
  | jsonLogs => false
  | _ => true

/-- The option with its dashes. -/
def flag (s : Setting) : String := "--" ++ s.optionName

/-- The setting of an option. -/
def ofOption? (name : String) : Option Setting := all.find? fun s => s.optionName == name

end Setting

/-- A number in decimal digits, of which there is at least one. -/
def digitsValue? (cs : List Char) : Option Nat :=
  if cs.isEmpty ∨ ¬ cs.all Char.isDigit then none
  else some (cs.foldl (fun n c => n * 10 + (c.toNat - '0'.toNat)) 0)

/-- A number that fits 64 unsigned bits, perhaps with a plus sign. -/
def natural64? (s : String) : Option Nat :=
  let value := match s.toList with
    | '+' :: rest => digitsValue? rest
    | cs => digitsValue? cs
  value.bind fun n => if n ≤ 0xffffffffffffffff then some n else none

/-- A number that fits 32 unsigned bits, perhaps with a sign, so zero may have a minus sign. -/
def natural32? (s : String) : Option Nat :=
  let value := match s.toList with
    | '+' :: rest => digitsValue? rest
    | '-' :: rest => (digitsValue? rest).bind fun n => if n = 0 then some 0 else none
    | cs => digitsValue? cs
  value.bind fun n => if n ≤ 0xffffffff then some n else none

namespace OperatorConfig

/-- The configuration with a setting. -/
def set (c : OperatorConfig) (s : Setting) (value : String) : Except UsageError OperatorConfig :=
  let number (n : Option Nat) (f : Nat → OperatorConfig) : Except UsageError OperatorConfig :=
    match n with
    | some n => .ok (f n)
    | none => .error (.malformedValue s.flag value)
  match s with
  | .watchNamespace => .ok { c with watchNamespace := some value }
  | .fieldManager => .ok { c with fieldManager := value }
  | .notReadyBackoff => number (natural64? value) fun n => { c with notReadyBackoff := n }
  | .errorBackoff => number (natural64? value) fun n => { c with errorBackoff := n }
  | .watchTimeout => number (natural32? value) fun n => { c with watchTimeout := n }
  | .jsonLogs =>
    if value = "true" then .ok { c with jsonLogs := true }
    else if value = "false" then .ok { c with jsonLogs := false }
    else .error (.invalidValue s.flag)

end OperatorConfig

/-- How far options have been read. -/
structure SettingsReader where
  /-- What has been set. -/
  config : OperatorConfig := {}
  /-- The settings that have been given. -/
  given : List Setting := []
  /-- The last option, if it takes a value, and the argument with its value, if that came. -/
  waiting : Option (Setting × Option String) := none

namespace SettingsReader

/-- Takes a setting with its value. -/
def give (r : SettingsReader) (s : Setting) (value : String) :
    Except UsageError SettingsReader := do
  if r.given.contains s then throw (.repeated s.flag)
  return { r with config := ← r.config.set s value, given := s :: r.given }

/-- Takes the setting that waits. -/
def settle (r : SettingsReader) : Except UsageError SettingsReader :=
  match r.waiting with
  | none => .ok r
  | some (s, none) => .error (.invalidValue s.flag)
  | some (s, some value) => { r with waiting := none }.give s value

/-- Takes what the environment has, for settings that were not given. -/
def addVariables (env : String → Option String) :
    List Setting → SettingsReader → Except UsageError OperatorConfig
  | [], r => .ok r.config
  | s :: rest, r =>
    match if r.given.contains s then none else env s.envVariable with
    | none => r.addVariables env rest
    | some value => do (← r.give s value).addVariables env rest

/-- The end of the command line. -/
def finish (r : SettingsReader) (env : String → Option String) :
    Except UsageError OperatorConfig := do
  (← r.settle).addVariables env Setting.all

end SettingsReader

/-- What options ask for. -/
inductive SettingsRequest where
  /-- To run with a configuration. -/
  | config (c : OperatorConfig)
  /-- To tell about the options, at length or not. -/
  | help (long : Bool)
  deriving DecidableEq, Repr

namespace SettingsReader

/-- The argument after the mark that no options follow, if any, means nothing. -/
def endOptions (r : SettingsReader) (env : String → Option String) :
    List String → Except UsageError SettingsRequest
  | [] => do return .config (← r.finish env)
  | text :: _ => .error (.unknownArgument text)

/-- Reads options from left to right. -/
def read (env : String → Option String) :
    List String → SettingsReader → Except UsageError SettingsRequest
  | [], r => do return .config (← r.finish env)
  | text :: rest, r =>
    match Argument.ofText text with
    | .endOfOptions => r.endOptions env rest
    | .long "help" none => do
      let _ ← r.settle
      return .help true
    | .long "help" (some value) => .error (.unexpectedValue "--help" value)
    | .long name value =>
      match Setting.ofOption? name with
      | none => .error (.unknownArgument text)
      | some s =>
        if s.takesValue then do
          let r ← r.settle
          match value with
          | some value => read env rest (← r.give s value)
          | none => read env rest { r with waiting := some (s, none) }
        else
          match value with
          | some value => .error (.unexpectedValue s.flag value)
          | none => do read env rest (← (← r.settle).give s "true")
    | .short 'h' _ => do
      let _ ← r.settle
      return .help false
    | .short _ _ => .error (.unknownArgument text)
    | .plain value =>
      match r.waiting with
      | some (s, none) => read env rest { r with waiting := some (s, some value) }
      | _ => .error (.unknownArgument text)

end SettingsReader

/-- Reads the options of the operator. -/
def SettingsRequest.ofArguments (env : String → Option String) (args : List String) :
    Except UsageError SettingsRequest :=
  SettingsReader.read env args {}

end BuildFleet
