import PowerGrant.Cluster.Pods
import PowerGrant.Cluster.Workloads
import PowerGrant.CommandLine.Setting
import PowerGrant.Controller.Loop
import PowerGrant.NodeAgent
import PowerGrant.ProfileService

/-!
# The daemon's services

The daemon reaches the world in three ways: requests to the API server, requests to the profile
services of nodes, and calls of the agent of its own node. Its services are made of these.
-/

namespace PowerGrant

/-- The ways out. -/
structure Transport (σ : Type) where
  /-- Sends a request to the API server. -/
  api : Api σ
  /-- Gets what an address gives. -/
  fetch : (url : String) → Script σ (Option Response)
  /-- Has the agent behind a socket list its pods. -/
  listPods : (socket : String) → Script σ NodeAgent.Reply

namespace Transport

variable {σ : Type} (t : Transport σ)

/-- The services of a daemon with these options. -/
def services (o : DaemonOptions) : Services σ where
  pod key := Cluster.fetchPod t.api key
  address node := Cluster.resolveAddress t.api o.appqosScheme o.appqosPort node
  profile name address := ProfileService.lookUp t.fetch name address
  cpus key container := (t.listPods o.kubeletSocketPath).bind fun reply =>
    .done (NodeAgent.cpuList o.kubeletSocketPath key container reply)
  workloads := Cluster.workloads t.api o.workloadNamespace

/-- Posts a rejection; whether that succeeds does not matter. -/
def report : Loop.Report σ := fun r =>
  ((t.api.call ⟨.post, r.path, some r.toJson⟩ some).bind fun _ => .done ()).onWorld

/-- The loop after the next thing that happens by itself before `moment`, if one does. -/
def step (o : DaemonOptions) (moment : Nat) (l : Loop σ) : Option (Loop σ) :=
  l.step (t.services o) o.reconcileConfig t.report moment

end Transport

end PowerGrant
