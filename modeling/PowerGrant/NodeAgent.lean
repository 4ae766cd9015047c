import PowerGrant.Cpu.List
import PowerGrant.PodKey
import PowerGrant.Workload.Store

/-!
# Node agents

Every node runs an agent that lists, for the pods on it, the CPUs that each container has to itself.
Its answer is turned into a CPU list; ids that are no number of a CPU are left out.
-/

namespace PowerGrant

/-- The CPUs of a container as an agent lists them. -/
structure ListedContainer where
  name : String
  cpuIds : List Int
  deriving DecidableEq, Repr, Inhabited

/-- A pod as an agent lists it. -/
structure ListedPod where
  name : String
  ns : String
  containers : List ListedContainer
  deriving DecidableEq, Repr, Inhabited

namespace NodeAgent

/-- The method that lists pods. -/
def listMethod : String := "/v1.PodResourcesLister/List"

/-- What an agent answers. -/
inductive Reply where
  | listing (pods : List ListedPod)
  /-- It answers with an error. -/
  | refused
  /-- Nobody serves the socket. -/
  | unreachable
  deriving DecidableEq, Repr, Inhabited

/-- The CPU that an id stands for, if it is the number of one. -/
def cpu? (id : Int) : Option CpuId :=
  if 0 ≤ id ∧ id.toNat < UInt32.size then some (UInt32.ofNat id.toNat) else none

/-- The container of a name in the pods of a key; the first one counts. -/
def find? (pods : List ListedPod) (key : PodKey) (container : String) : Option ListedContainer :=
  ((pods.filter fun p => p.ns = key.ns && p.name = key.name).flatMap ListedPod.containers).find?
    fun c => c.name = container

/-- The CPU list of a container in the answer of the agent behind `socket`. -/
def cpuList (socket : String) (key : PodKey) (container : String) : Reply → Answer String
  | .listing pods =>
    match find? pods key container with
    | some c => .ok (formatCpuList (c.cpuIds.filterMap cpu?))
    | none => .error (.unavailable s!"Kubelet reports no container {container} in pod {key.text}")
  | .refused => .error (.unavailable "Kubelet pod-resources List call failed: ")
  | .unreachable => .error (.unavailable s!"Failed to connect to kubelet socket {socket}: ")

end NodeAgent

end PowerGrant
