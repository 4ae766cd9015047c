import PowerGrant.Grant.Table

/-!
# Shares

A pod's share is, for each profile that its containers use, the set of CPUs they hold with it. Sets
of CPUs and lists of profiles are kept rising.

* `held`: what other pods hold on a node, which a release must leave in place.
* `stale`: what an earlier grant holds and the next one does not.
-/

namespace PowerGrant

/-- CPUs by profile: profiles rise, and so do the CPUs of each. -/
abbrev Shares := List (String × List CpuId)

namespace Shares

/-- The CPUs that containers hold with a profile. -/
def cpusOf (containers : List ContainerGrant) (profile : String) : List CpuId :=
  ascending ((containers.filter fun c => c.profile = profile).flatMap ContainerGrant.cpus)

/-- The CPUs that containers hold, by profile. -/
def ofContainers (containers : List ContainerGrant) : Shares :=
  (ascending (containers.map ContainerGrant.profile)).map fun p => (p, cpusOf containers p)

/-- The CPUs that a pod other than `key` holds on `node` with a profile. -/
def heldByOthers (t : GrantTable) (key : PodKey) (node profile : String) : List CpuId :=
  cpusOf (((GrantTable.onNode t node).filter fun e => e.1 ≠ key).flatMap fun e => e.2.containers)
    profile

/-- The shares without the CPUs that `keep` names for their profile, and without profiles that are
left with nothing. -/
def without (s : Shares) (keep : String → List CpuId) : Shares :=
  (s.map fun e => (e.1, e.2.filter fun cpu => !(keep e.1).contains cpu)).filter
    fun e => !e.2.isEmpty

/-- What `previous` holds that a pod on `node` with the containers `next` no longer does. -/
def stale (previous : Grant) (node : String) (next : List ContainerGrant) : Shares :=
  (ofContainers previous.containers).without fun p =>
    if previous.node = node then cpusOf next p else []

/-- What can be taken from `shares` on `node` without touching the CPUs of other pods. -/
def releasable (t : GrantTable) (key : PodKey) (node : String) (shares : Shares) : Shares :=
  shares.without (heldByOthers t key node)

end Shares

end PowerGrant
