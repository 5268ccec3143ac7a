import BuildFleet.CommandLine.Settings
import BuildFleet.Definition.Catalog
import BuildFleet.Yaml.Printer

/-!
# The command line of the operator

The operator is run by its only command or without any. It can also print the definitions of
its custom resources, its version, or what its command line means.
-/

namespace BuildFleet

/-- What can be told about. -/
inductive HelpTopic where
  /-- The command line as a whole. -/
  | overview
  /-- The command that runs the operator, at length or not. -/
  | controller (long : Bool)
  /-- The command that tells about commands. -/
  | help
  deriving DecidableEq, Inhabited, Repr

/-- What a command line asks for. -/
inductive Command where
  /-- To run the operator. -/
  | run (config : OperatorConfig)
  /-- To print the definitions of the custom resources. -/
  | printDefinitions
  /-- To print the version. -/
  | printVersion
  /-- To tell about the command line. -/
  | printHelp (topic : HelpTopic)
  deriving DecidableEq, Repr

namespace Command

/-- The version of the operator. -/
def version : String := "0.1.0"

/-- The topic that commands after `help` name. -/
def helpTopic : List String → Except UsageError HelpTopic
  | [] => .ok .overview
  | ["controller"] => .ok (.controller true)
  | ["help"] => .ok .help
  | texts => .error (.unknownArgument (" ".intercalate texts))

/-- The command that runs the operator with the given options, or prints the definitions instead. -/
def ofSettings (definitions : Bool) (env : String → Option String) (args : List String) :
    Except UsageError Command := do
  match ← SettingsRequest.ofArguments env args with
  | .help long => return .printHelp (.controller long)
  | .config c => return if definitions then .printDefinitions else .run c

/-- Reads a command line whose arguments so far asked for the definitions or not. -/
def read (env : String → Option String) : Bool → List String → Except UsageError Command
  | definitions, [] => .ok (if definitions then .printDefinitions else .run {})
  | definitions, "controller" :: rest => ofSettings definitions env rest
  | _, "help" :: rest => do return .printHelp (← helpTopic rest)
  | definitions, text :: rest =>
    match Argument.ofText text with
    | .endOfOptions =>
      match rest with
      | [] => .ok (if definitions then .printDefinitions else .run {})
      | text :: _ => .error (.unknownArgument text)
    | .long name (some value) =>
      if ["crd", "help", "version"].contains name then .error (.unexpectedValue text value)
      else .error (.unknownArgument text)
    | .long "crd" none =>
      if definitions then .error (.repeated text) else read env true rest
    | .long "help" none => .ok (.printHelp .overview)
    | .long "version" none => .ok .printVersion
    | .long _ none => .error (.unknownArgument text)
    | .short 'h' _ => .ok (.printHelp .overview)
    | .short 'V' _ => .ok .printVersion
    | .short _ _ => .error (.unknownArgument text)
    | .plain _ => .error (.unknownArgument text)

/-- Reads a command line. -/
def ofArguments (env : String → Option String) (args : List String) :
    Except UsageError Command :=
  read env false args

/-- The definitions as YAML documents, each of which ends in an empty line. -/
def definitionsText : String :=
  String.join ([Instance.definition, Template.definition].map fun d =>
    "---\n" ++ Yaml.render d.toJson ++ "\n")

end Command

end BuildFleet
