import PowerGrant.Object.Metadata
import PowerGrant.Workload.Store

/-!
# Workload objects

The object by which a cluster knows a workload: its kind, its metadata and its spec.
-/

namespace PowerGrant

namespace Workload

/-- The group of the kind. -/
def group : String := "power.example.com"

/-- The version of the kind. -/
def groupVersion : String := "v1alpha1"

/-- The group and version of the kind. -/
def apiVersion : String := "power.example.com/v1alpha1"

/-- The word for several objects of the kind. -/
def plural : String := "powerworkloads"

/-- The kind of object. -/
def kind : String := "PowerWorkload"

/-- The object of a workload. -/
def toJson (w : Workload) : Json :=
  .object [("apiVersion", .text apiVersion), ("kind", .text kind),
    ("metadata", Json.present
      [("name", w.name.map .text), ("resourceVersion", w.version.map .text)]),
    ("spec", w.spec.toJson)]

/-- The workload that a JSON value describes; its metadata has to be there, and may be empty. -/
def ofJson? (j : Json) : Option Workload :=
  match Json.slots ["metadata", "spec"] j with
  | some [some metadata, some spec] => do
    let spec ← Spec.ofJson? spec
    if Object.metadataShape.fitsTo (Json.nestingLimit - 1) metadata then
      some ⟨metadata.getText? "name", metadata.getText? "resourceVersion", spec⟩
    else none
  | _ => none

end Workload

end PowerGrant
