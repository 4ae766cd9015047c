import PowerGrant.Cluster.Api
import PowerGrant.Cluster.Report
import PowerGrant.Workload.Object

/-!
# Workloads of a cluster

The workload store that the API server keeps in one namespace. The server compares versions and
answers a stale one with code 409, which is a conflict; a workload that is gone when it is to be
deleted counts as deleted.
-/

namespace PowerGrant

variable {σ : Type}

namespace Cluster

/-- The path of the workloads of a namespace. -/
def workloadsPath (ns : String) : String :=
  s!"/apis/{Workload.apiVersion}/namespaces/{ns}/{Workload.plural}"

/-- The path of a workload of a namespace. -/
def workloadPath (ns name : String) : String := Api.objectPath (workloadsPath ns) name

/-- A failed request about a workload as a failed call. -/
def workloadError (verb name : String) (e : ApiError) : ServiceError :=
  if e.code? = some 409 then .conflict name
  else requestFailed s!"{verb} {Workload.kind} {name}"

/-- The answer to a request about a workload. -/
def workloadAnswer {α β : Type} (verb name : String) (value : α → β) :
    Except ApiError α → Answer β
  | .ok a => .ok (value a)
  | .error e => .error (workloadError verb name e)

/-- The object that a deletion is bound to: the version that has to be stored. -/
def preconditions (w : Workload) : Json :=
  .object [("preconditions", Json.present [("resourceVersion", w.version.map .text)])]

/-- What the server answers a deletion with: a report on it or the workload that is being deleted. Either
way the answer as a whole has to be sound. -/
def deletionOf? (j : Json) : Option Unit :=
  let known :=
    if j.getText? "kind" = some "Status" then isReport j else (Workload.ofJson? j).isSome
  if known && j.isSound Json.nestingLimit then some () else none

/-- The workload store of a namespace. -/
def workloads (api : Api σ) (ns : String) : WorkloadStore σ where
  get name := (api.fetch? (workloadsPath ns) name Workload.ofJson?).bind fun r =>
    .done (workloadAnswer "get" name id r)
  create w := (api.call ⟨.post, workloadsPath ns, some w.toJson⟩ Workload.ofJson?).bind fun r =>
    .done (workloadAnswer "create" w.key (fun _ => ()) r)
  replace w := (api.call ⟨.put, workloadPath ns w.key, some w.toJson⟩ Workload.ofJson?).bind fun r =>
    .done (workloadAnswer "replace" w.key (fun _ => ()) r)
  delete w :=
    (api.call ⟨.delete, workloadPath ns w.key, some (preconditions w)⟩ deletionOf?).bind fun
      | .error e =>
        .done (if e.code? = some 404 then .ok () else .error (workloadError "delete" w.key e))
      | .ok () => .done (.ok ())

end Cluster

end PowerGrant
