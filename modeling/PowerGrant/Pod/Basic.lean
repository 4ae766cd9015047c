import PowerGrant.PodKey
import PowerGrant.Table

/-!
# Pods

What the controller reads of a pod. A part that the cluster has not filled in yet is missing.
-/

namespace PowerGrant

/-- A container of a pod, as far as it is asked for resources. -/
structure Container where
  name : String
  /-- The quantities that it requests, by resource. -/
  requests : Table String String := {}
  deriving DecidableEq, Inhabited

/-- What the cluster reports of a container. -/
structure ContainerStatus where
  name : String
  /-- The id that the runtime gave it, in front of which the runtime's scheme stands. -/
  id : Option String := none
  deriving DecidableEq, Repr, Inhabited

/-- A pod. -/
structure Pod where
  ns : Option String := none
  name : Option String := none
  uid : Option String := none
  /-- Whether its deletion has been asked for. -/
  deleting : Bool := false
  /-- The node it runs on. -/
  node : Option String := none
  initContainers : List Container := []
  containers : List Container := []
  phase : Option String := none
  qosClass : Option String := none
  initStatuses : List ContainerStatus := []
  statuses : List ContainerStatus := []
  deriving DecidableEq, Inhabited

/-- What the pod is known by; a missing part counts as empty. -/
def Pod.key (p : Pod) : PodKey := ⟨p.ns.getD "", p.name.getD ""⟩

end PowerGrant
