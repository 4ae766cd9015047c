import PowerGrant.Grant.Shares
import PowerGrant.Reconcile.Survey

/-!
# Reconciling a pod

A reconcile brings the workloads in line with one pod. After the survey, `settle` does what was found
to be necessary, and only there are workloads and the table of grants changed.

* A release takes back all that is recorded for the pod, except for CPUs that another pod holds on the
  same node with the same profile. The record goes away only when every profile was dealt with.
* A grant first takes back what the pod no longer holds; as long as that fails nothing is granted.
  Then every profile is granted, and the grant is recorded even if some of them failed, so that
  everything in the workloads can be taken back later.
-/

namespace PowerGrant

variable {σ : Type}

/-- The table of grants beside the state of the services. -/
structure Site (σ : Type) where
  grants : GrantTable
  world : σ

/-- A script on the services, with the table of grants left alone. -/
def Script.onWorld {α : Type} (s : Script σ α) : Script (Site σ) α :=
  s.onPart Site.world fun world site => { site with world }

/-- Changes the workload of each profile of `shares`, one after the other and each under the timeout;
gives the profiles that failed. -/
def changeEach (limit : Nat) (change : String → List CpuId → Script σ (Answer WorkloadChange)) :
    Shares → Script σ (List (String × CallFault))
  | [] => .done []
  | (profile, cpus) :: rest =>
    (bounded limit (change profile cpus)).bind fun result =>
      (changeEach limit change rest).bind fun failures =>
        match result with
        | .ok _ => .done failures
        | .error fault => .done ((profile, fault) :: failures)

/-- Takes `shares` out of the workloads of `node`, except for CPUs that other pods hold there. -/
def releaseShares (services : Services σ) (config : ReconcileConfig) (key : PodKey) (node : String)
    (shares : Shares) : Script (Site σ) (List (String × CallFault)) :=
  (Script.read Site.grants).bind fun grants =>
    (changeEach config.callTimeout
      (fun profile cpus => services.workloads.remove config.retry profile node cpus)
      (Shares.releasable grants key node shares)).onWorld

/-- Adds `shares` to the workloads of `node`. -/
def grantShares (services : Services σ) (config : ReconcileConfig) (node : String)
    (shares : Shares) : Script (Site σ) (List (String × CallFault)) :=
  (changeEach config.callTimeout
    (fun profile cpus => services.workloads.add config.retry profile node cpus) shares).onWorld

/-- How a reconcile ends. -/
abbrev Result := Except ReconcileError Outcome

/-- The end of a phase in which these profiles failed. -/
def Phase.result (phase : Phase) (key : PodKey) (failures : List (String × CallFault)) : Result :=
  if failures = [] then .ok .applied
  else .error (.transient (.partialFailure phase key failures))

/-- Takes back what is recorded for the pod. -/
def settleRelease (services : Services σ) (config : ReconcileConfig) (key : PodKey) :
    Script (Site σ) Result := do
  match ← Script.read fun site => site.grants.find? key with
  | none => return .ok (.skipped .noRecordedGrant)
  | some entry =>
    let failures ←
      releaseShares services config key entry.node (Shares.ofContainers entry.containers)
    if failures = [] then
      Script.update fun site => { site with grants := site.grants.erase key }
    return Phase.release.result key failures

/-- Takes back what the pod no longer holds; gives the profiles that failed. -/
def releaseStale (services : Services σ) (config : ReconcileConfig) (key : PodKey) (next : Grant) :
    Script (Site σ) (List (String × CallFault)) := do
  match ← Script.read fun site => site.grants.find? key with
  | none => return []
  | some previous =>
    releaseShares services config key previous.node
      (Shares.stale previous next.node next.containers)

/-- Records a grant. -/
def recordGrant (key : PodKey) (next : Grant) : Script (Site σ) (Except IncompleteGrant Unit) :=
  Script.modifyGet fun site =>
    match GrantTable.record site.grants key next with
    | .ok grants => (.ok (), { site with grants })
    | .error e => (.error e, site)

/-- Gives the pod what it is to have now. -/
def settleGrant (services : Services σ) (config : ReconcileConfig) (key : PodKey) (next : Grant) :
    Script (Site σ) Result := do
  let stale ← releaseStale services config key next
  if stale ≠ [] then return Phase.staleRelease.result key stale
  let failures ← grantShares services config next.node (Shares.ofContainers next.containers)
  match ← recordGrant key next with
  | .error e => return .error (.transient (.incompleteGrant e))
  | .ok () => return Phase.grant.result key failures

/-- Does what a survey found to be necessary. -/
def settle (services : Services σ) (config : ReconcileConfig) (key : PodKey) :
    Intent → Script (Site σ) Result
  | .skip reason => .done (.ok (.skipped reason))
  | .release => settleRelease services config key
  | .grant next => settleGrant services config key next

/-- Brings the workloads and the table of grants in line with one pod. -/
def reconcile (services : Services σ) (config : ReconcileConfig) (key : PodKey) :
    Script (Site σ) Result :=
  (survey services config key).run.onWorld.bind fun
    | .error e => .done (.error e)
    | .ok intent => settle services config key intent

end PowerGrant
