import PowerGrant.Json.Shape

/-!
# Metadata of objects

The shape of what every object of a cluster says about itself: its name, its owners, its versions, and
who manages which of its fields.
-/

namespace PowerGrant.Object

open Json (Shape)
open Json.Shape (fieldsOf texts)

/-- A list of texts. -/
def textList : Shape := .list .text

/-- Texts by name. -/
def textMap : Shape := .map .text

/-- Who manages some fields of an object; the fields themselves may have any form. -/
def managerShape : Shape :=
  .record <| fieldsOf .text ["apiVersion", "fieldsType", "manager", "operation", "subresource"] ++
    [("fieldsV1", .kept), ("time", .time)]

/-- An object that another one belongs to. -/
def ownerShape : Shape :=
  .record <| fieldsOf .text ["apiVersion", "kind", "name", "uid"] ++
    fieldsOf .bool ["blockOwnerDeletion", "controller"]

/-- What an object says about itself. -/
def metadataShape : Shape :=
  .record <| fieldsOf .text ["generateName", "name", "namespace", "resourceVersion", "selfLink", "uid"] ++
    fieldsOf .time ["creationTimestamp", "deletionTimestamp"] ++
    fieldsOf .int64 ["deletionGracePeriodSeconds", "generation"] ++
    [("annotations", textMap), ("labels", textMap), ("finalizers", textList),
      ("managedFields", .list managerShape), ("ownerReferences", .list ownerShape)]

/-- What labels are selected by. -/
def labelSelectorShape : Shape :=
  .record [("matchLabels", textMap),
    ("matchExpressions", .list <| .record
      [("key", .text), ("operator", .text), ("values", textList)])]

/-- A reference to an object of the same namespace. -/
def localReferenceShape : Shape := texts ["name"]

/-- What may happen at most with resources, and what has to be there. -/
def resourcesShape : Shape :=
  .record [("claims", .list (texts ["name"])), ("limits", textMap), ("requests", textMap)]

end PowerGrant.Object
