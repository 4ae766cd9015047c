import PowerGrant.Cluster.Pods
import PowerGrant.Cluster.Workloads
import PowerGrant.Text.Cut

/-!
# An API server

The API server of a cluster as far as the controller uses it: pods, nodes and the workloads of one
namespace. One counter gives versions to workloads and to changes of pods.

* What does not exist is answered with code 404.
* Creating a workload whose name is taken, and replacing or deleting another version than the stored
  one, is answered with code 409.
* A number of writes to workloads may be refused with code 409 first, as if another writer had always
  been faster.
-/

namespace PowerGrant

/-- What a path names. -/
inductive Target where
  | pod (key : PodKey)
  | node (name : String)
  | events
  | workloads
  | workload (name : String)
  | unknown
  deriving DecidableEq, Repr, Inhabited

namespace Target

/-- What the path in these pieces names. -/
def ofPieces : List String → Target
  | ["", "api", "v1", "namespaces", ns, "pods", name] => .pod ⟨ns, name⟩
  | ["", "api", "v1", "nodes", name] => .node name
  | ["", "apis", "events.k8s.io", "v1", "namespaces", _, "events"] => .events
  | "" :: "apis" :: group :: version :: "namespaces" :: _ :: plural :: rest =>
    if group = Workload.group ∧ version = Workload.groupVersion ∧ plural = Workload.plural then
      if rest = [] then .workloads else .workload ("/".intercalate rest)
    else .unknown
  | _ => .unknown

/-- What a path names. -/
def ofPath (path : String) : Target :=
  ofPieces ((Text.pieces '/' path.toList).map String.ofList)

end Target

/-- The state of the server. -/
structure ApiServer where
  pods : Table PodKey Json := {}
  /-- The address of each node; a node may have none. -/
  nodes : Table String (Option String) := {}
  workloads : Versioned := {}
  /-- How many writes to workloads are still refused with a conflict. -/
  contended : Nat := 0
  deriving Inhabited

/-- A change of a pod in the cluster. -/
inductive ClusterChange where
  | applied (pod : Json)
  | deleted (pod : Json)
  deriving Inhabited

namespace ApiServer

/-- A refusal. -/
def refusal (code : Nat) (reason : String) : Response :=
  ⟨code, some (.object [("kind", .text "Status"), ("status", .text "Failure"),
    ("reason", .text reason), ("code", .nat code)])⟩

/-- The refusal of what does not exist. -/
def absent : Response := refusal 404 "NotFound"

/-- The refusal of a write that another one was faster than. -/
def stale : Response := refusal 409 "Conflict"

/-- The response with an object, if it exists. -/
def found : Option Json → Response
  | some j => ⟨200, some j⟩
  | none => absent

/-- The object of a node. -/
def nodeObject (name : String) (address : Option String) : Json :=
  .object [("metadata", .object [("name", .text name)]),
    ("status", .object [("addresses", .array (address.toList.map fun a =>
      .object [("type", .text "InternalIP"), ("address", .text a)]))])]

/-- The store after a workload was created, and the response. -/
def create (v : Versioned) (w : Workload) : Response × Versioned :=
  if (v.find? w.key).isSome then (refusal 409 "AlreadyExists", v)
  else
    let v := v.put w
    (⟨201, (v.find? w.key).map Workload.toJson⟩, v)

/-- The store after the workload `name` was replaced, and the response. -/
def replace (v : Versioned) (name : String) (w : Workload) : Response × Versioned :=
  match v.find? name with
  | none => (absent, v)
  | some stored =>
    if w.version.isNone || w.version = stored.version then
      let v := v.put { w with name := some name }
      (⟨200, (v.find? name).map Workload.toJson⟩, v)
    else (stale, v)

/-- The store after the workload `name` was deleted, and the response; `asked` is the version that has
to be stored. -/
def delete (v : Versioned) (name : String) (asked : Option String) : Response × Versioned :=
  match v.find? name with
  | none => (absent, v)
  | some stored =>
    if asked.isNone || asked = stored.version then
      (⟨200, some (.object [("kind", .text "Status"), ("status", .text "Success")])⟩, v.erase name)
    else (stale, v)

/-- The version that the body of a deletion asks for. -/
def askedVersion (body : Option Json) : Option String :=
  (body.bind (·.get? "preconditions")).bind (·.getText? "resourceVersion")

/-- The server after a write to its workloads, and the response. -/
def write (s : ApiServer) (f : Versioned → Response × Versioned) : Response × ApiServer :=
  if s.contended = 0 then
    let (response, workloads) := f s.workloads
    (response, { s with workloads })
  else (stale, { s with contended := s.contended - 1 })

/-- The response to a request, and the server after it. -/
def answer (s : ApiServer) (r : Request) : Response × ApiServer :=
  let given := r.body.bind Workload.ofJson?
  match r.method, Target.ofPath r.path, given with
  | .get, .pod key, _ => (found (s.pods.find? key), s)
  | .get, .node name, _ => (found ((s.nodes.find? name).map (nodeObject name)), s)
  | .get, .workload name, _ => (found ((s.workloads.find? name).map Workload.toJson), s)
  | .post, .events, _ => (⟨201, r.body⟩, s)
  | .post, .workloads, some w => s.write (create · w)
  | .put, .workload name, some w => s.write (replace · name w)
  | .delete, .workload name, _ => s.write (delete · name (askedVersion r.body))
  | .post, .workloads, none | .put, .workload _, none => (refusal 400 "BadRequest", s)
  | _, _, _ => (absent, s)

/-- The server after a pod changed. -/
def change (s : ApiServer) (c : ClusterChange) : ApiServer :=
  let key (pod : Json) := (Pod.ofObject pod).key
  { s with
    workloads := s.workloads.tick
    pods := match c with
      | .applied pod => s.pods.insert (key pod) pod
      | .deleted pod => s.pods.erase (key pod) }

/-- A server at its start: it has these pods, then nodes and workloads. -/
def start (pods : List Json) (nodes : Table String (Option String)) (workloads : List (String × Spec))
    (contended : Nat) : ApiServer :=
  let empty : ApiServer := { nodes, contended }
  let s := pods.foldl (fun s pod => s.change (.applied pod)) empty
  { s with workloads := workloads.foldl (fun v w => v.put ⟨some w.1, none, w.2⟩) s.workloads }

end ApiServer

end PowerGrant
