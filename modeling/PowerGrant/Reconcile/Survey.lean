import PowerGrant.Reconcile.Config
import PowerGrant.Reconcile.Error
import PowerGrant.Services

/-!
# Surveying a pod

The first half of a reconcile asks what has to be done for a pod and changes nothing. It reads the
pod, settles from the pod alone whether it may have what it asks for, confirms every profile with the
node's profile service and reads the CPUs of every container.

* `demand`: what a running pod asks for, from the pod alone.
* `survey`: what has to be done, in full.
-/

namespace PowerGrant

variable {σ : Type}

/-- A part of a reconcile, which may end it with an error. -/
abbrev Stage (σ α : Type) := ExceptT ReconcileError (Script σ) α

/-- A call under a timeout. -/
def bounded {α : Type} (limit : Nat) (call : Script σ (Answer α)) : Script σ (Except CallFault α) :=
  (call.within limit).bind fun
    | some (.ok a) => .done (.ok a)
    | some (.error e) => .done (.error (.failed e))
    | none => .done (.error (.timedOut limit))

/-- A call under a timeout that has to succeed. -/
def required {α : Type} (limit : Nat) (what : BoundedCall) (call : Script σ (Answer α)) :
    Stage σ α :=
  ExceptT.mk <| (bounded limit call).bind fun
    | .ok a => .done (.ok a)
    | .error fault => .done (.error (.transient (.call what fault)))

/-- Where a pod stands in its life. -/
inductive Standing where
  /-- It is being deleted, or has finished: its CPUs are given back. -/
  | leaving
  | running
  /-- It does not run yet. -/
  | pending (phase : String)
  deriving DecidableEq, Repr, Inhabited

/-- Where a pod stands; a pod that does not say is pending. -/
def Pod.standing (p : Pod) : Standing :=
  let phase := p.phase.getD "Unknown"
  if p.deleting then .leaving
  else if phase = "Succeeded" ∨ phase = "Failed" then .leaving
  else if phase = "Running" then .running
  else .pending phase

/-- What a running pod asks for. -/
inductive Demand where
  | nothing (reason : SkipReason)
  /-- Each of these containers is to run with the profile beside it. -/
  | profiles (uid node : String) (requests : List (Container × String))
  deriving Inhabited

/-- A part of a pod's identity, which may not be empty. -/
def identity (part : IdentityPart) (value : Option String) : Except ValidationError String :=
  match value with
  | some s => if s = "" then .error (.missingIdentity part) else .ok s
  | none => .error (.missingIdentity part)

/-- What a running pod asks for, if it may ask for that. -/
def Pod.demand (p : Pod) (policy : ProfilePolicy) : Except ValidationError Demand := do
  let uid ← identity .uid p.uid
  let node ← identity .nodeName p.node
  if p.pinnedContainers = [] then return .nothing .noPinnedContainers
  let requests ← (Pod.requestsOf p.pinnedContainers).mapError .request
  if requests = [] then return .nothing .noProfileRequests
  (checkPolicy policy (requests.map Prod.snd)).mapError .request
  return .profiles uid node requests

/-- Confirms that the profile service at `address` knows a profile: it has to answer with one that is
not empty. -/
def validateProfile (services : Services σ) (limit : Nat) (profile node address : String) :
    Stage σ Profile :=
  ExceptT.mk <| (bounded limit (services.profile profile address)).bind fun
    | .error fault => .done (.error (.transient (.profileLookup profile address fault)))
    | .ok (some found) =>
      .done (if found.isEmpty then .error (.invalid (.unknownProfile profile node)) else .ok found)
    | .ok none => .done (.error (.invalid (.unknownProfile profile node)))

/-- Confirms profiles one after the other. -/
def validateProfiles (services : Services σ) (limit : Nat) (node address : String) :
    List String → Stage σ Unit
  | [] => return ()
  | p :: ps => do
    let _ ← validateProfile services limit p node address
    validateProfiles services limit node address ps

/-- The CPUs that an agent's answer for a container lists. -/
def cpusOfAnswer (container list : String) : Except ReconcileError (List CpuId) :=
  if Text.trim list.toList = [] then .error (.transient (.noCpusYet container))
  else (parseCpuList list).mapError fun fault => .invalid (.invalidCpuList container fault)

/-- The CPUs of a container as the node's agent reports them. -/
def containerCpus (services : Services σ) (limit : Nat) (key : PodKey) (container : String) :
    Stage σ (List CpuId) := do
  let list ← required limit .cpuLookup (services.cpus key container)
  ExceptT.mk (.done (cpusOfAnswer container list))

/-- What each requesting container is given, with its CPUs. -/
def containerGrants (services : Services σ) (limit : Nat) (key : PodKey) (pod : Pod) :
    List (Container × String) → Stage σ (List ContainerGrant)
  | [] => return []
  | (c, profile) :: requests => do
    let cpus ← containerCpus services limit key c.name
    let rest ← containerGrants services limit key pod requests
    return ⟨c.name, pod.containerId c.name, cpus, profile⟩ :: rest

/-- What has to be done for a pod. -/
inductive Intent where
  | skip (reason : SkipReason)
  /-- Whatever was granted is taken back. -/
  | release
  /-- This is granted, in place of what was granted before. -/
  | grant (next : Grant)
  deriving DecidableEq, Repr, Inhabited

/-- What has to be done for a running pod. -/
def surveyRunning (services : Services σ) (config : ReconcileConfig) (key : PodKey) (pod : Pod) :
    Stage σ Intent := do
  match ← ExceptT.mk (.done ((pod.demand config.policy).mapError .invalid)) with
  | .nothing reason => return .skip reason
  | .profiles uid node requests =>
    let address ← required config.callTimeout .addressResolution (services.address node)
    validateProfiles services config.callTimeout node address (ascending (requests.map Prod.snd))
    let containers ← containerGrants services config.callTimeout key pod requests
    return .grant ⟨node, key.name, key.ns, uid, containers⟩

/-- What has to be done for the pod of a key. -/
def survey (services : Services σ) (config : ReconcileConfig) (key : PodKey) : Stage σ Intent := do
  match ← required config.callTimeout .podLookup (services.pod key) with
  | none => return .skip .podNotFound
  | some pod =>
    match pod.standing with
    | .leaving => return .release
    | .pending phase => throw (.notReady key phase)
    | .running => surveyRunning services config key pod

end PowerGrant
