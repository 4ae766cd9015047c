import PowerGrant.Cluster.Api
import PowerGrant.Object.Node
import PowerGrant.Pod.Object

/-!
# Pods and nodes of a cluster

* `fetchPod`: a pod from the API server.
* `resolveAddress`: the address of a node's profile service, made from the node's first address.
-/

namespace PowerGrant

variable {σ : Type}

namespace Cluster

/-- The path of the pods of a namespace. -/
def podsPath (ns : String) : String := s!"/api/v1/namespaces/{ns}/pods"

/-- The path of the nodes. -/
def nodesPath : String := "/api/v1/nodes"

/-- The pod of a key, if it exists. -/
def fetchPod (api : Api σ) (key : PodKey) : Script σ (Answer (Option Pod)) :=
  (api.fetch? (podsPath key.ns) key.name Pod.ofJson?).bind fun
    | .ok pod => .done (.ok pod)
    | .error _ => .done (.error (requestFailed s!"get pod {key.text}"))

/-- The first address of a node, if it has one that is not empty. -/
def firstAddress (node : Json) : Option String :=
  match (Pod.part node "status" "addresses").items with
  | a :: _ => if a.getText "address" = "" then none else some (a.getText "address")
  | [] => none

/-- The address of a service on a host; a host with colons is put between brackets. -/
def serviceUrl (scheme host : String) (port : UInt16) : String :=
  if host.toList.contains ':' then s!"{scheme}://[{host}]:{port}" else s!"{scheme}://{host}:{port}"

/-- The node that a JSON value describes, if it has the shape of one. -/
def nodeOf? (j : Json) : Option Json :=
  if Object.nodeShape.fits j then some j else none

/-- The address of the profile service of a node. -/
def resolveAddress (api : Api σ) (scheme : String) (port : UInt16) (node : String) :
    Script σ (Answer String) :=
  (api.fetch? nodesPath node nodeOf?).bind fun
    | .error _ => .done (.error (requestFailed s!"get node {node}"))
    | .ok found =>
      match found.bind firstAddress with
      | some host => .done (.ok (serviceUrl scheme host port))
      | none => .done (.error (.unavailable s!"Node {node} has no usable address"))

end Cluster

end PowerGrant
