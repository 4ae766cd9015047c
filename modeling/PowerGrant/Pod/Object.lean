import PowerGrant.Object.Pod
import PowerGrant.Pod.Basic

/-!
# Pods in JSON

A pod is read from the cluster's object for it. Parts may be missing or `null`; a part of another
type than documented makes the whole object unreadable.
-/

namespace PowerGrant

namespace Pod

/-- A member of a member; `null` if either is missing. -/
def part (j : Json) (outer inner : String) : Json :=
  ((j.get? outer).bind (·.get? inner)).getD .null

/-- The container that an object of the right shape describes. -/
def containerOf (j : Json) : Container where
  name := j.getText "name"
  requests := Table.ofList <|
    (part j "resources" "requests").members.map fun f => (f.1, f.2.text?.getD "")

/-- The container's status that an object of the right shape describes. -/
def statusOf (j : Json) : ContainerStatus where
  name := j.getText "name"
  id := j.getText? "containerID"

/-- The pod that an object of the right shape describes. -/
def ofObject (j : Json) : Pod where
  ns := (part j "metadata" "namespace").text?
  name := (part j "metadata" "name").text?
  uid := (part j "metadata" "uid").text?
  deleting := (part j "metadata" "deletionTimestamp").text?.isSome
  node := (part j "spec" "nodeName").text?
  initContainers := (part j "spec" "initContainers").items.map containerOf
  containers := (part j "spec" "containers").items.map containerOf
  phase := (part j "status" "phase").text?
  qosClass := (part j "status" "qosClass").text?
  initStatuses := (part j "status" "initContainerStatuses").items.map statusOf
  statuses := (part j "status" "containerStatuses").items.map statusOf

/-- The pod that a JSON value describes, if it has the shape of one. -/
def ofJson? (j : Json) : Option Pod :=
  if Object.podShape.fits j then some (ofObject j) else none

end Pod

end PowerGrant
