import PowerGrant.Cpu.List
import PowerGrant.Json.Record

/-!
# Grants

A grant is what a pod was given: its node, and for each container that asked for a power profile the
profile and the CPUs that now run with it. It holds all that is needed to take the CPUs back when
the pod itself can no longer be read.
-/

namespace PowerGrant

/-- What one container was given. -/
structure ContainerGrant where
  /-- The name of the container. -/
  name : String
  /-- The runtime's id of the container, or nothing if it is not known. -/
  id : String
  /-- The CPUs, in the order in which they were reported. -/
  cpus : List CpuId
  profile : String
  deriving DecidableEq, Repr, Inhabited

/-- What one pod was given. -/
structure Grant where
  node : String
  name : String
  ns : String
  uid : String
  containers : List ContainerGrant
  deriving DecidableEq, Repr, Inhabited

namespace ContainerGrant

/-- The container's grant as JSON. -/
def toJson (c : ContainerGrant) : Json :=
  .object [("name", .text c.name), ("id", .text c.id),
    ("exclusiveCpus", .array (c.cpus.map (.nat ·.toNat))), ("powerProfile", .text c.profile)]

/-- The container's grant that a JSON value describes. -/
def ofJson? (j : Json) : Option ContainerGrant :=
  match Json.slots ["name", "id", "exclusiveCpus", "powerProfile"] j with
  | some [name, id, cpus, profile] => do
    return {
      name := ← Json.required? Json.text? name
      id := ← Json.required? Json.text? id
      cpus := ← Json.required? (Json.listOf? Json.uint32?) cpus
      profile := ← Json.required? Json.text? profile }
  | _ => none

end ContainerGrant

namespace Grant

/-- The grant as JSON. -/
def toJson (g : Grant) : Json :=
  .object [("node", .text g.node), ("name", .text g.name), ("namespace", .text g.ns),
    ("uid", .text g.uid), ("containers", .array (g.containers.map ContainerGrant.toJson))]

/-- The grant that a JSON value describes. -/
def ofJson? (j : Json) : Option Grant :=
  match Json.slots ["node", "name", "namespace", "uid", "containers"] j with
  | some [node, name, ns, uid, containers] => do
    return {
      node := ← Json.required? Json.text? node
      name := ← Json.required? Json.text? name
      ns := ← Json.required? Json.text? ns
      uid := ← Json.required? Json.text? uid
      containers := ← Json.required? (Json.listOf? ContainerGrant.ofJson?) containers }
  | _ => none

end Grant

end PowerGrant
