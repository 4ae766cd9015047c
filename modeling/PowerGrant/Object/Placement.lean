import PowerGrant.Object.Metadata

/-!
# Shapes of what decides where a pod runs
-/

namespace PowerGrant.Object

open Json (Shape)
open Json.Shape (fieldsOf texts)

/-- What nodes are selected by. -/
def nodeTermShape : Shape :=
  let requirements : Shape :=
    .list <| .record [("key", .text), ("operator", .text), ("values", textList)]
  .record [("matchExpressions", requirements), ("matchFields", requirements)]

/-- What other pods are selected by. -/
def podTermShape : Shape :=
  .record [("labelSelector", labelSelectorShape), ("namespaceSelector", labelSelectorShape),
    ("namespaces", textList), ("topologyKey", .text)]

/-- What holds for the placing of a pod: requirements, and preferences with their weights. -/
def rulesShape (required preferred : Shape) (term : String) : Shape :=
  .record [("requiredDuringSchedulingIgnoredDuringExecution", required),
    ("preferredDuringSchedulingIgnoredDuringExecution",
      .list <| .record [(term, preferred), ("weight", .int32)])]

/-- Which nodes and which company a pod prefers. -/
def affinityShape : Shape :=
  .record [("nodeAffinity", rulesShape (.record [("nodeSelectorTerms", .list nodeTermShape)])
      nodeTermShape "preference"),
    ("podAffinity", rulesShape (.list podTermShape) podTermShape "podAffinityTerm"),
    ("podAntiAffinity", rulesShape (.list podTermShape) podTermShape "podAffinityTerm")]

/-- What a pod puts up with. -/
def tolerationShape : Shape :=
  .record <| ("tolerationSeconds", .int64) :: fieldsOf .text ["effect", "key", "operator", "value"]

/-- How pods are spread. -/
def spreadShape : Shape :=
  .record <| fieldsOf .text ["nodeAffinityPolicy", "nodeTaintsPolicy", "topologyKey",
      "whenUnsatisfiable"] ++
    [("labelSelector", labelSelectorShape), ("matchLabelKeys", textList), ("maxSkew", .int32),
      ("minDomains", .int32)]

end PowerGrant.Object
