import PowerGrant.Proofs.Cluster.Requests
import PowerGrant.Proofs.Workload.Contract

/-!
# The workload store of a cluster abides by the contract

The store leaves it to the API server to compare versions, and tells from codes and reasons what
came of a request. If the server keeps workloads as it should, so does the store.

* `Cluster.Conforms`: an API server that answers 404 for what does not exist, 409 for what exists
  already or has another version, and else does what is asked.
* **`Conforms.abides`**: the store with such a server abides by the contract of a store, as far as
  names that can be addressed.
-/

namespace PowerGrant.Cluster

variable {σ : Type}

/-- A body that stands for a workload: it is the workload's object, and is read as that. -/
def Says (body : Json) (w : Workload) : Prop :=
  body = w.toJson ∧ Workload.ofJson? body = some w

/-- The body of a deletion that is bound to a version. -/
def boundTo (version : String) : Json :=
  .object [("preconditions", .object [("resourceVersion", .text version)])]

/-- An API server that keeps the workloads of a namespace as documented, as far as the names served:
`view` says what it holds. Whatever it stores gets a version never given before, and an object without
a name counts as one with the empty name. -/
structure Conforms (api : Api σ) (ns : String) (served : String → Prop) (view : StoreView σ) :
    Prop where
  key : ∀ {s name w}, view.held s name = some w → w.key = name
  version : ∀ {s name w}, view.held s name = some w → ∃ v, w.version = some v ∧ view.given s v
  get_absent : ∀ {s name}, view.ready s → served name → view.held s name = none →
    (api ⟨.get, workloadPath ns name, none⟩).Ends s fun r t =>
      Api.Refuses 404 "NotFound" r ∧ view.Keeps s t
  get_found : ∀ {s name w}, view.ready s → served name → view.held s name = some w →
    (api ⟨.get, workloadPath ns name, none⟩).Ends s fun r t =>
      Api.Gives Workload.ofJson? w r ∧ view.Keeps s t
  create_taken : ∀ {s name body w}, view.ready s → served name → Says body w →
    w.key = name → view.held s name ≠ none →
    (api ⟨.post, workloadsPath ns, some body⟩).Ends s fun r t =>
      (∃ reason, Api.Refuses 409 reason r) ∧ view.Keeps s t
  create_free : ∀ {s name body w}, view.ready s → served name → Says body w →
    w.key = name → view.held s name = none →
    (api ⟨.post, workloadsPath ns, some body⟩).Ends s fun r t =>
      (∃ stored, Api.Gives Workload.ofJson? stored r) ∧ view.Stores s t w
  replace_gone : ∀ {s name body w v}, view.ready s → served name → Says body w →
    w.key = name → w.version = some v → view.held s name = none →
    (api ⟨.put, workloadPath ns name, some body⟩).Ends s fun r t =>
      (∃ reason, Api.Refuses 404 reason r) ∧ view.Keeps s t
  replace_stale : ∀ {s name body w v stored}, view.ready s → served name → Says body w →
    w.key = name → w.version = some v → view.held s name = some stored →
    stored.version ≠ some v →
    (api ⟨.put, workloadPath ns name, some body⟩).Ends s fun r t =>
      (∃ reason, Api.Refuses 409 reason r) ∧ view.Keeps s t
  replace_current : ∀ {s name body w v stored}, view.ready s → served name → Says body w →
    w.key = name → w.version = some v → view.held s name = some stored →
    stored.version = some v →
    (api ⟨.put, workloadPath ns name, some body⟩).Ends s fun r t =>
      (∃ stored, Api.Gives Workload.ofJson? stored r) ∧ view.Stores s t w
  delete_gone : ∀ {s name v}, view.ready s → served name → view.held s name = none →
    (api ⟨.delete, workloadPath ns name, some (boundTo v)⟩).Ends s fun r t =>
      (∃ reason, Api.Refuses 404 reason r) ∧ view.Keeps s t
  delete_stale : ∀ {s name v stored}, view.ready s → served name →
    view.held s name = some stored → stored.version ≠ some v →
    (api ⟨.delete, workloadPath ns name, some (boundTo v)⟩).Ends s fun r t =>
      (∃ reason, Api.Refuses 409 reason r) ∧ view.Keeps s t
  delete_current : ∀ {s name v stored}, view.ready s → served name →
    view.held s name = some stored → stored.version = some v →
    (api ⟨.delete, workloadPath ns name, some (boundTo v)⟩).Ends s fun r t =>
      Api.Gives deletionOf? () r ∧ view.Writes s t name none

variable {api : Api σ} {ns name : String} {served : String → Prop} {view : StoreView σ} {s : σ}

theorem says_toJson (w : Workload) : Says w.toJson w := ⟨rfl, w.ofJson?_toJson⟩

theorem preconditions_eq {w : Workload} {v : String} (h : w.version = some v) :
    preconditions w = boundTo v := by
  rw [preconditions, h]
  rfl

/-! ## The store, request by request -/

theorem get_eq (h : Addressable ns name) : (workloads api ns).get name =
    (api ⟨.get, workloadPath ns name, none⟩).bind fun r =>
      .done (workloadAnswer "get" name id
        (match Api.understand Workload.ofJson? r with
          | .ok w => .ok (some w)
          | .error e => if e.isAbsent then .ok none else .error e)) := by
  have hpath : Api.objectPath (workloadsPath ns) name = workloadPath ns name := rfl
  simp only [workloads, Api.fetch?, hpath, Api.call_eq h.inPath, Script.bind_assoc, Script.bind]
  refine congrArg (Script.bind _) (funext fun r => ?_)
  generalize Api.understand Workload.ofJson? r = a
  cases a <;> rfl

theorem create_eq {w : Workload} (h : Addressable ns w.key) : (workloads api ns).create w =
    (api ⟨.post, workloadsPath ns, some w.toJson⟩).bind fun r =>
      .done (workloadAnswer "create" w.key (fun _ => ())
        (Api.understand Workload.ofJson? r)) := by
  simp only [workloads, Api.call_eq h.inPath_collection, Script.bind_assoc, Script.bind]

theorem replace_eq {w : Workload} (h : Addressable ns w.key) : (workloads api ns).replace w =
    (api ⟨.put, workloadPath ns w.key, some w.toJson⟩).bind fun r =>
      .done (workloadAnswer "replace" w.key (fun _ => ())
        (Api.understand Workload.ofJson? r)) := by
  simp only [workloads, Api.call_eq h.inPath, Script.bind_assoc, Script.bind]

theorem delete_eq {w : Workload} (h : Addressable ns w.key) : (workloads api ns).delete w =
    (api ⟨.delete, workloadPath ns w.key, some (preconditions w)⟩).bind fun r =>
      .done (match Api.understand deletionOf? r with
        | .error e =>
          if e.code? = some 404 then .ok () else .error (workloadError "delete" w.key e)
        | .ok () => .ok ()) := by
  simp only [workloads, Api.call_eq h.inPath, Script.bind_assoc, Script.bind]
  refine congrArg (Script.bind _) (funext fun r => ?_)
  generalize Api.understand deletionOf? r = a
  cases a <;> rfl

/-- Codes and reasons say enough: with a server that keeps workloads as documented, the store keeps
to its contract. -/
theorem Conforms.abides (h : Conforms api ns served view)
    (haddr : ∀ name, served name → Addressable ns name) :
    (workloads api ns).Abides view served where
  key := h.key
  version := h.version
  get {s name} hs hname := by
    rw [get_eq (haddr name hname), Script.ends_bind_done]
    cases hw : view.held s name with
    | none =>
      refine (h.get_absent hs hname hw).mono fun r t hr => ⟨?_, hr.2⟩
      rw [Api.understand_of_refuses hr.1 (by decide)]
      rfl
    | some w =>
      refine (h.get_found hs hname hw).mono fun r t hr => ⟨?_, hr.2⟩
      rw [Api.understand_of_gives hr.1]
      rfl
  create_taken {s w} hs hname hw := by
    rw [create_eq (haddr _ hname), Script.ends_bind_done]
    refine (h.create_taken hs hname (says_toJson w) rfl hw).mono ?_
    rintro r t ⟨⟨reason, hr⟩, ht⟩
    rw [Api.understand_of_refuses hr (by decide)]
    exact ⟨rfl, ht⟩
  create_free {s w} hs hname hw := by
    rw [create_eq (haddr _ hname), Script.ends_bind_done]
    refine (h.create_free hs hname (says_toJson w) rfl hw).mono ?_
    rintro r t ⟨⟨stored, hr⟩, ht⟩
    rw [Api.understand_of_gives hr]
    exact ⟨rfl, ht⟩
  replace := by
    refine ⟨fun {s w v} hs hname hv hw => ?_, fun {s w v stored} hs hname hv hw hne => ?_,
      fun {s w v stored} hs hname hv hw he => ?_⟩
    all_goals
      rw [replace_eq (haddr _ hname), Script.ends_bind_done]
    · refine (h.replace_gone hs hname (says_toJson w) rfl hv hw).mono ?_
      rintro r t ⟨⟨reason, hr⟩, ht⟩
      rw [Api.understand_of_refuses hr (by decide)]
      exact ⟨⟨_, rfl⟩, ht⟩
    · refine (h.replace_stale hs hname (says_toJson w) rfl hv hw (hv ▸ hne)).mono ?_
      rintro r t ⟨⟨reason, hr⟩, ht⟩
      rw [Api.understand_of_refuses hr (by decide)]
      exact ⟨rfl, ht⟩
    · refine (h.replace_current hs hname (says_toJson w) rfl hv hw (hv ▸ he)).mono ?_
      rintro r t ⟨⟨stored, hr⟩, ht⟩
      rw [Api.understand_of_gives hr]
      exact ⟨rfl, ht⟩
  delete := by
    refine ⟨fun {s w v} hs hname hv hw => ?_, fun {s w v stored} hs hname hv hw hne => ?_,
      fun {s w v stored} hs hname hv hw he => ?_⟩
    all_goals
      rw [delete_eq (haddr _ hname), preconditions_eq hv, Script.ends_bind_done]
    · refine (h.delete_gone hs hname hw).mono ?_
      rintro r t ⟨⟨reason, hr⟩, ht⟩
      rw [Api.understand_of_refuses hr (by decide)]
      exact ⟨rfl, ht⟩
    · refine (h.delete_stale hs hname hw (hv ▸ hne)).mono ?_
      rintro r t ⟨⟨reason, hr⟩, ht⟩
      rw [Api.understand_of_refuses hr (by decide)]
      exact ⟨rfl, ht⟩
    · refine (h.delete_current hs hname hw (hv ▸ he)).mono ?_
      rintro r t ⟨hr, ht⟩
      rw [Api.understand_of_gives hr]
      exact ⟨rfl, ht⟩

end PowerGrant.Cluster
