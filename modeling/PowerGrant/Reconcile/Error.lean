import PowerGrant.Grant.Table
import PowerGrant.Pod.Request
import PowerGrant.Text.Duration
import PowerGrant.Workload.Store

/-!
# Outcomes of a reconcile

* `ReconcileError`: why a reconcile failed. A pod that is not running yet and a service that failed
  may be tried again; what a pod asks for in vain stays in vain until the pod changes.
* `Outcome`: what a reconcile that did not fail has done.
-/

namespace PowerGrant

/-- A part without which a pod cannot be given anything. -/
inductive IdentityPart where
  | uid
  | nodeName
  deriving DecidableEq, Repr, Inhabited

/-- The words for a part of a pod's identity. -/
def IdentityPart.words : IdentityPart → String
  | .uid => "uid"
  | .nodeName => "node name"

/-- Why a pod is refused what it asks for. -/
inductive ValidationError where
  | request (fault : RequestError)
  /-- The node's profile service does not know the profile. -/
  | unknownProfile (profile node : String)
  | missingIdentity (part : IdentityPart)
  | invalidCpuList (container : String) (fault : CpuListError)
  deriving DecidableEq, Repr, Inhabited

/-- The wording of a refusal. -/
def ValidationError.message : ValidationError → String
  | .request fault => fault.message
  | .unknownProfile profile node => s!"power profile '{profile}' not found on node {node}"
  | .missingIdentity part => s!"pod is missing {part.words}"
  | .invalidCpuList container fault =>
    s!"invalid CPU list for container {container}: {fault.message}"

/-- A call that is made under the call timeout. -/
inductive BoundedCall where
  | podLookup
  | addressResolution
  | cpuLookup
  /-- The change of one workload, with its further attempts and waits. -/
  | workloadUpdate
  deriving DecidableEq, Repr, Inhabited

/-- The words for a call. -/
def BoundedCall.words : BoundedCall → String
  | .podLookup => "pod lookup"
  | .addressResolution => "node address resolution"
  | .cpuLookup => "CPU assignment lookup"
  | .workloadUpdate => "workload update"

/-- How a call under a timeout went wrong. -/
inductive CallFault where
  | failed (error : ServiceError)
  | timedOut (limit : Nat)
  deriving DecidableEq, Repr, Inhabited

/-- The wording of a fault of `call`. -/
def CallFault.message (call : BoundedCall) : CallFault → String
  | .failed e => s!"{call.words} failed: {e.message}"
  | .timedOut limit => s!"{call.words} timed out after {Text.duration limit}"

/-- A phase in which the workloads of several profiles are changed. -/
inductive Phase where
  | grant
  | release
  | staleRelease
  deriving DecidableEq, Repr, Inhabited

/-- The words for a phase. -/
def Phase.words : Phase → String
  | .grant => "grant"
  | .release => "release"
  | .staleRelease => "release of stale"

/-- Why a reconcile failed although the pod asks for nothing wrong. -/
inductive TransientError where
  | call (what : BoundedCall) (fault : CallFault)
  | profileLookup (profile address : String) (fault : CallFault)
  /-- The node's agent has not given the container any CPUs yet. -/
  | noCpusYet (container : String)
  /-- In `phase` the workloads of these profiles were not changed. -/
  | partialFailure (phase : Phase) (key : PodKey) (failures : List (String × CallFault))
  | incompleteGrant (error : IncompleteGrant)
  deriving DecidableEq, Repr, Inhabited

/-- The wording of a failure that may pass. -/
def TransientError.message : TransientError → String
  | .call what fault => fault.message what
  | .profileLookup profile address (.failed e) =>
    s!"failed to look up power profile '{profile}' at {address}: {e.message}"
  | .profileLookup profile address (.timedOut _) =>
    s!"timed out looking up power profile '{profile}' at {address}"
  | .noCpusYet container => s!"kubelet reports no exclusive CPUs for container {container} yet"
  | .partialFailure phase key failures =>
    let details := failures.map fun f => s!"{f.1}: {f.2.message .workloadUpdate}"
    s!"{phase.words} of CPUs for pod {key.text} failed for {failures.length} profile(s): " ++
      "; ".intercalate details
  | .incompleteGrant e => e.message

/-- Why a reconcile failed. -/
inductive ReconcileError where
  | notReady (key : PodKey) (phase : String)
  | invalid (error : ValidationError)
  | transient (error : TransientError)
  deriving DecidableEq, Repr, Inhabited

namespace ReconcileError

/-- The wording of a failed reconcile. -/
def message : ReconcileError → String
  | .notReady key phase => s!"pod {key.text} is not running yet (phase {phase})"
  | .invalid e => e.message
  | .transient e => e.message

/-- Whether the same reconcile may succeed later. -/
def isRetryable : ReconcileError → Bool
  | .invalid _ => false
  | _ => true

end ReconcileError

/-- Why there was nothing to do for a pod. -/
inductive SkipReason where
  | podNotFound
  | noRecordedGrant
  | noPinnedContainers
  | noProfileRequests
  deriving DecidableEq, Repr, Inhabited

/-- The wording of a reason. -/
def SkipReason.message : SkipReason → String
  | .podNotFound => "pod not found"
  | .noRecordedGrant => "deleted pod has no recorded state"
  | .noPinnedContainers => "no container requests exclusive CPUs"
  | .noProfileRequests => "no container requests a power profile"

/-- What a reconcile that did not fail has done. -/
inductive Outcome where
  /-- The workloads and the table of grants are as the pod wants them. -/
  | applied
  | skipped (reason : SkipReason)
  deriving DecidableEq, Repr, Inhabited

end PowerGrant
