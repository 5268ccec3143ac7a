import BuildFleet.Failure
import BuildFleet.Resources.Ceiling
import BuildFleet.Template.Basic
import BuildFleet.Toml.Document

/-!
# Admission rules

Which templates and instances are accepted. A check gives a report of what breaks the rules
and of what is accepted but worth telling. Templates are checked on their own after their
defaults are filled in; most rules for an instance need its template.
-/

namespace BuildFleet

/-- The greatest length of a template's name in bytes, which leaves room for what is put
around it in the names of its ConfigMaps. -/
def templateNameLimit : Nat := 57

/-- A rule that an object breaks. -/
inductive Violation where
  /-- The name of a template is too long. -/
  | nameTooLong (bytes : Nat)
  /-- The port of a template is out of range. -/
  | portOutOfRange (port : Int)
  /-- The partial pod of a template has a name. -/
  | podNamed
  /-- The daemon configuration of a template is not TOML. -/
  | configNotToml
  /-- An instance names no template. -/
  | noTemplate
  /-- The template of an instance asks for an owner that the instance does not have. -/
  | noOwner (template : String)
  /-- The specification of an instance changed. -/
  | specChanged
  deriving DecidableEq, Repr

namespace Violation

/-- The field that breaks the rule. -/
def path : Violation → String
  | nameTooLong _ => "metadata.name"
  | portOutOfRange _ => "spec.port"
  | podNamed => "spec.podTemplate.metadata.name"
  | configNotToml => "spec.buildkitdToml"
  | noTemplate => "spec.template"
  | noOwner _ => "metadata.ownerReferences"
  | specChanged => "spec"

/-- What is wrong with the field. -/
def message : Violation → String
  | nameTooLong bytes =>
    "must be no more than " ++ toString templateNameLimit ++ " characters, got " ++ toString bytes
  | portOutOfRange port => "must be between 1 and 65535, got " ++ toString port
  | podNamed => "must not be set, as pod names are automatically generated"
  | configNotToml => "invalid TOML: not a TOML 1.0 document"
  | noTemplate => "BuildkitTemplate name must be specified"
  | noOwner template =>
    "BuildkitTemplate '" ++ template ++ "' requires owner references but none are present"
  | specChanged => "spec changes are not allowed for existing Buildkit objects"

/-- Field and fault in one text. -/
def text (v : Violation) : String := v.path ++ ": " ++ v.message

end Violation

/-- Something that is accepted but worth telling. -/
inductive Warning where
  /-- The resources asked for will be lowered to the ceiling. -/
  | resourcesCapped (template : String)
  deriving DecidableEq, Repr

/-- The wording of a warning. -/
def Warning.text : Warning → String
  | resourcesCapped template =>
    "requested resources exceed the maximum allowed by BuildkitTemplate '" ++ template
      ++ "' and will be capped"

/-- What a check found. -/
structure Report where
  /-- Rules that are broken. -/
  violations : List Violation := []
  /-- Other things worth telling. -/
  warnings : List Warning := []
  deriving DecidableEq, Inhabited, Repr

namespace Report

/-- Whether no rule is broken. -/
def isValid (r : Report) : Bool := r.violations.isEmpty

/-- All violations in one text. -/
def summary (r : Report) : String := "; ".intercalate (r.violations.map Violation.text)

/-- The warnings, or a failure that lists all violations. -/
def result (r : Report) : Except Failure (List Warning) :=
  if r.isValid then .ok r.warnings else .error (.validation r.summary)

end Report

namespace TemplateSpec

/-- Fills in the port and the image if they are zero and empty. -/
def withDefaults (s : TemplateSpec) : TemplateSpec :=
  { s with
    port := if s.port = 0 then defaultPort else s.port
    image := if s.image.isEmpty then defaultImage else s.image }

/-- Whether the partial pod has a name of its own. -/
def namesPod (s : TemplateSpec) : Bool :=
  match s.podTemplate with
  | some pod => !pod.metadata.name.isEmpty
  | none => false

end TemplateSpec

namespace Template

/-- The template with its defaults filled in. -/
def withDefaults (t : Template) : Template := { t with spec := t.spec.withDefaults }

/-- Checks a template. -/
def check (t : Template) : Report where
  violations :=
    (if templateNameLimit < t.name.utf8ByteSize then [.nameTooLong t.name.utf8ByteSize] else [])
      ++ (if 1 ≤ t.spec.port ∧ t.spec.port ≤ 65535 then [] else [.portOutOfRange t.spec.port])
      ++ (if t.spec.namesPod then [.podNamed] else [])
      ++ (if Toml.isDocument t.spec.buildkitdToml then [] else [.configNotToml])

end Template

namespace Instance

/-- Whether capping would lower the limits or requests of the instance. A ceiling for a
resource without a limit only fills in the limit, so it does not count. -/
def exceedsCeiling (i : Instance) (t : Template) : Bool :=
  let effective := Requirements.override i.spec.resources t.spec.resources.default
  let ceiling := (ResourceList.tighten t.spec.resources.maximum i.spec.maximum).filterKeys
    effective.limits.contains
  Requirements.exceedsMaximums ceiling [effective]

/-- Checks an instance that names a template against that template. -/
def checkAgainst (i : Instance) (t : Template) : Report where
  violations :=
    if t.spec.lifecycle.requireOwner ∧ (i.metadata.ownerReferences.getD []).isEmpty then
      [.noOwner i.spec.template]
    else []
  warnings := if i.exceedsCeiling t then [.resourcesCapped i.spec.template] else []

/-- Checks a change of an instance, whose specification is fixed. -/
def checkUpdate (old new : Instance) : Report where
  violations := if old.spec = new.spec then [] else [.specChanged]

end Instance

end BuildFleet
