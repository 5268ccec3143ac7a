import BuildFleet.Definition.Schema
import BuildFleet.Instance.Basic

/-!
# Definitions of custom resources

A definition tells the API server of a kind of objects: what they are called, which columns
a table of them has, and which values their specification and status admit.
-/

namespace BuildFleet

/-- A column in a table of objects. -/
structure PrinterColumn where
  /-- Its heading. -/
  name : String
  /-- The type of its values. -/
  type : String
  /-- Where its values are found in an object. -/
  path : String
  deriving DecidableEq, Inhabited, Repr

/-- Writes a column. -/
def PrinterColumn.toJson (c : PrinterColumn) : Json :=
  Json.ofFields [("name", .str c.name), ("type", .str c.type), ("jsonPath", .str c.path)]

/-- A kind of objects that the API server does not know by itself. -/
structure Definition where
  /-- The kind. -/
  kind : String
  /-- What one object is called. -/
  singular : String
  /-- What several objects are called. -/
  plural : String
  /-- Abbreviations. -/
  shortNames : List String
  /-- The columns of a table. -/
  columns : List PrinterColumn
  /-- What the specification admits. -/
  spec : Schema
  /-- What the status admits. -/
  status : Schema
  deriving Inhabited

namespace Definition

/-- The group that the kinds belong to. -/
def group : String := "buildkit.dev"

/-- The only version of the kinds. -/
def version : String := "v1alpha1"

/-- The schema of whole objects; their metadata goes without saying. -/
def schema (d : Definition) : Json :=
  Json.ofFields (("title", .str d.kind)
    :: (Schema.described
      ("Auto-generated derived type for " ++ d.kind ++ "Spec via `CustomResource`")
      (.record [("spec", d.spec), ("status", d.status)] ["spec"])).members)

/-- Writes a definition as an object of the API. -/
def toJson (d : Definition) : Json :=
  Json.ofFields [
    ("apiVersion", .str "apiextensions.k8s.io/v1"),
    ("kind", .str "CustomResourceDefinition"),
    ("metadata", Json.ofFields [("name", .str (d.plural ++ "." ++ group))]),
    ("spec", Json.ofFields [
      ("group", .str group),
      ("names", Json.ofFields [
        ("categories", .arr []),
        ("kind", .str d.kind),
        ("plural", .str d.plural),
        ("shortNames", .arr (d.shortNames.map .str)),
        ("singular", .str d.singular)]),
      ("scope", .str "Namespaced"),
      ("versions", .arr [Json.ofFields [
        ("additionalPrinterColumns", .arr (d.columns.map PrinterColumn.toJson)),
        ("name", .str version),
        ("schema", Json.ofFields [("openAPIV3Schema", d.schema)]),
        ("served", .bool true),
        ("storage", .bool true),
        ("subresources", Json.ofFields [("status", .obj [])])]])])]

end Definition

end BuildFleet
