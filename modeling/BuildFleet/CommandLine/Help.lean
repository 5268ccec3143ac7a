import BuildFleet.CommandLine.Command

/-!
# What the command line means

The texts that tell about the command line. Options of the operator are listed with their
variable, its value, and what holds if nothing is given; a long text puts these on lines of
their own.
-/

namespace BuildFleet

namespace Setting

/-- What a setting is for. -/
def purpose : Setting → String
  | watchNamespace => "Only watch this namespace (all namespaces when unset)"
  | fieldManager => "Field manager used for server-side apply and status patches"
  | notReadyBackoff => "Seconds to wait before re-checking a pod that is not ready yet"
  | errorBackoff => "Seconds to wait before retrying a failed reconcile"
  | watchTimeout => "Server-side timeout for watch requests"
  | jsonLogs => "Emit logs as JSON"

/-- What holds unless something else is given. -/
def defaultText? : Setting → Option String
  | watchNamespace => none
  | fieldManager => some ({} : OperatorConfig).fieldManager
  | notReadyBackoff => some (toString ({} : OperatorConfig).notReadyBackoff)
  | errorBackoff => some (toString ({} : OperatorConfig).errorBackoff)
  | watchTimeout => some (toString ({} : OperatorConfig).watchTimeout)
  | jsonLogs => none

/-- The option and a name for its value, if it takes one. -/
def usage (s : Setting) : String :=
  if s.takesValue then
    s.flag ++ " <" ++ (s.optionName.map fun c => if c = '-' then '_' else c.toUpper) ++ ">"
  else s.flag

/-- Where else the setting can come from. -/
def sources (env : String → Option String) (s : Setting) : List String :=
  ("[env: " ++ s.envVariable ++ "=" ++ (env s.envVariable).getD "" ++ "]")
    :: (s.defaultText?.map fun d => "[default: " ++ d ++ "]").toList

end Setting

namespace HelpTopic

/-- What the operator is. -/
def about : String :=
  "Buildkit Operator - ephemeral buildkitd instances built from shared templates"

/-- What the command is for that runs the operator. -/
def controllerAbout : String := "Run as controller (default mode)"

/-- What the command is for that tells about commands. -/
def helpAbout : String := "Print this message or the help of the given subcommand(s)"

/-- The lines about an option whose purpose is on lines of its own. -/
def optionLines (usage : String) (purpose : List String) : List String :=
  ("  " ++ usage) :: purpose.map fun line => "          " ++ line

/-- The lines about a setting. -/
def settingLines (env : String → Option String) (long : Bool) (s : Setting) : List String :=
  optionLines ("    " ++ s.usage)
    (if long then s.purpose :: "" :: s.sources env
    else [" ".intercalate (s.purpose :: s.sources env)])

/-- The lines about the options of the command that runs the operator. -/
def controllerLines (env : String → Option String) (long : Bool) : List String :=
  let helpPurpose := if long then "Print help (see a summary with '-h')"
    else "Print help (see more with '--help')"
  let options := Setting.all.map (settingLines env long)
    ++ [optionLines "-h, --help" [helpPurpose]]
  let description := if long then
      [controllerAbout, "", "Installs the CRDs, then watches Buildkit and BuildkitTemplate " ++
        "resources until interrupted."]
    else [controllerAbout]
  description ++ ["", "Usage: buildkit-operator controller [OPTIONS]", "", "Options:"]
    ++ (options.intersperse (if long then [""] else [])).flatten

/-- The lines about a topic. -/
def lines (env : String → Option String) : HelpTopic → List String
  | overview => [
    about, "",
    "Usage: buildkit-operator [OPTIONS] [COMMAND]", "",
    "Commands:",
    "  controller  " ++ controllerAbout,
    "  help        " ++ helpAbout, "",
    "Options:",
    "      --crd      Generate CRD manifests and exit",
    "  -h, --help     Print help",
    "  -V, --version  Print version"]
  | controller long => controllerLines env long
  | help => [
    helpAbout, "",
    "Usage: buildkit-operator help [COMMAND]...", "",
    "Arguments:",
    "  [COMMAND]...  Print help for the subcommand(s)"]

/-- What is told about a topic. -/
def text (env : String → Option String) (topic : HelpTopic) : String :=
  String.join ((topic.lines env).map fun line => line ++ "\n")

end HelpTopic

/-- What a command line comes to: an exit code, and what is printed as its result and beside it. -/
structure CommandResult where
  /-- The exit code. -/
  code : UInt32
  /-- The result. -/
  output : String := ""
  /-- What is told beside it. -/
  notice : String := ""
  deriving DecidableEq, Inhabited, Repr

/-- What a command line comes to where there is no API server. -/
def CommandResult.ofArguments (env : String → Option String) (args : List String) :
    CommandResult :=
  match Command.ofArguments env args with
  | .error e => { code := 2, notice := e.message }
  | .ok .printDefinitions => { code := 0, output := Command.definitionsText }
  | .ok .printVersion => { code := 0, output := operatorName ++ " " ++ Command.version ++ "\n" }
  | .ok (.printHelp topic) => { code := 0, output := topic.text env }
  | .ok (.run _) => { code := 1, notice := "Error: Failed to create Kubernetes client" }

end BuildFleet
