import PowerGrant.Pod.Basic
import PowerGrant.Profile
import PowerGrant.Workload.Store

/-!
# Services

What the controller asks of the world outside: the cluster for pods, node addresses and workloads, a
node's profile service for power profiles, and a node's agent for the CPUs of a container.
-/

namespace PowerGrant

/-- The calls to the services outside, as scripts on their common state. -/
structure Services (σ : Type) where
  /-- A pod, if it exists. -/
  pod : PodKey → Script σ (Answer (Option Pod))
  /-- The address of the profile service of a node. -/
  address : (node : String) → Script σ (Answer String)
  /-- A power profile by name, if the service at an address knows it. -/
  profile : (name address : String) → Script σ (Answer (Option Profile))
  /-- The CPU list of a container. -/
  cpus : PodKey → (container : String) → Script σ (Answer String)
  workloads : WorkloadStore σ

/-- The store as a part of a larger state. -/
def WorkloadStore.onPart {σ τ : Type} (store : WorkloadStore σ) (get : τ → σ) (set : σ → τ → τ) :
    WorkloadStore τ where
  get name := (store.get name).onPart get set
  create w := (store.create w).onPart get set
  replace w := (store.replace w).onPart get set
  delete w := (store.delete w).onPart get set

/-- The services on a part of a larger state. -/
def Services.onPart {σ τ : Type} (services : Services σ) (get : τ → σ) (set : σ → τ → τ) :
    Services τ where
  pod key := (services.pod key).onPart get set
  address node := (services.address node).onPart get set
  profile name address := (services.profile name address).onPart get set
  cpus key container := (services.cpus key container).onPart get set
  workloads := services.workloads.onPart get set

end PowerGrant
