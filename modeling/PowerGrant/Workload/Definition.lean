import PowerGrant.Workload.Object
import PowerGrant.Yaml.Writer

/-!
# The definition of the workload kind

What a cluster has to be told before it takes workload objects: the names of the kind and the schema
of its objects.
-/

namespace PowerGrant.Workload.Definition

/-- A property with a description. -/
def property (description : String) (fields : List (String × Json)) : Json :=
  .object (("description", .text description) :: fields)

/-- The schema of a text. -/
def textType : String × Json := ("type", .text "string")

/-- The schema of a list, empty if it is left out. -/
def listOf (description : String) (items : Json) : Json :=
  .object [("default", .array []), ("description", .text description), ("items", items),
    ("type", .text "array")]

/-- The schema of an object with properties, of which some have to be given. -/
def objectOf (properties : List (String × Json)) (required : String) : List (String × Json) :=
  [("properties", .object properties), ("required", .array [.text required]),
    ("type", .text "object")]

/-- The schema of the number of a CPU. -/
def cpu : Json :=
  .object [("format", .text "uint32"), ("minimum", .real "0.0"), ("type", .text "integer")]

/-- The schema of a node's entry. -/
def node : Json :=
  property "CPUs of a single node that belong to a workload." <|
    objectOf [("cpuIds", listOf "Sorted ascending, no duplicates" cpu),
      ("nodeName", .object [textType])] "nodeName"

/-- The schema of a spec. -/
def spec : Json :=
  property "Aggregate CPU assignment of one power profile across the cluster." <|
    objectOf [("nodes", listOf "Per-node CPU sets, at most one entry per node" node),
      ("profileName", property "Power profile applied to every CPU listed in `nodes`" [textType])]
      "profileName"

/-- The schema of a workload object. -/
def schema : Json :=
  .object [
    ("description", .text "Auto-generated derived type for PowerWorkloadSpec via `CustomResource`"),
    ("properties", .object [("spec", spec)]), ("required", .array [.text "spec"]),
    ("title", .text kind), ("type", .text "object")]

/-- The names of the kind. -/
def names : Json :=
  .object [("categories", .array []), ("kind", .text kind), ("plural", .text plural),
    ("shortNames", .array []), ("singular", .text "powerworkload")]

/-- The definition. -/
def toJson : Json :=
  .object [("apiVersion", .text "apiextensions.k8s.io/v1"),
    ("kind", .text "CustomResourceDefinition"),
    ("metadata", .object [("name", .text s!"{plural}.{group}")]),
    ("spec", .object [("group", .text group), ("names", names), ("scope", .text "Namespaced"),
      ("versions", .array [.object [("additionalPrinterColumns", .array []),
        ("name", .text groupVersion), ("schema", .object [("openAPIV3Schema", schema)]),
        ("served", .bool true), ("storage", .bool true), ("subresources", .object [])]])])]

/-- The document that tells a cluster. -/
def document : String := Yaml.write toJson

end PowerGrant.Workload.Definition
