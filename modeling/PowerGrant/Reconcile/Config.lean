import PowerGrant.Pod.Request
import PowerGrant.Workload.Aggregator

/-!
# Settings of the reconciles
-/

namespace PowerGrant

/-- How reconciles are done. -/
structure ReconcileConfig where
  /-- The namespace of the workloads. -/
  workloadNamespace : String := "power-manager"
  policy : ProfilePolicy := .onePerPod
  /-- How long a call to a service may take, in milliseconds. -/
  callTimeout : Nat := 5000
  retry : Retry := ⟨5, 50⟩
  deriving DecidableEq, Repr, Inhabited

end PowerGrant
