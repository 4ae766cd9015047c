import PowerGrant.Daemon.Peers
import PowerGrant.Proofs.Cluster.Conforms

/-!
# The API server in memory

The server among the peers in memory finds out from a path what is asked, and keeps workloads as
documented.

* `Target.ofPath_workloadsPath`, `Target.ofPath_workloadPath`: what a path names.
* `ApiServer.gives_object`, `ApiServer.refuses_refusal`: what its answers say.
* **`Peers.conforms`**: the server, unless it refuses writes for now.
-/

namespace PowerGrant

open Cluster

/-! ## Paths -/

namespace Target

variable {ns : String}

theorem pieces_workloadsPath (hns : '/' ∉ ns.toList) :
    (Text.pieces '/' (workloadsPath ns).toList).map String.ofList =
      ["", "apis", Workload.group, Workload.groupVersion, "namespaces", ns, Workload.plural] := by
  have hpath : (workloadsPath ns).toList =
      "/apis/power.example.com/v1alpha1/namespaces".toList ++
        '/' :: (ns.toList ++ '/' :: "powerworkloads".toList) := by
    rw [toList_workloadsPath]
    simp
  rw [hpath, Text.pieces_append_sep, Text.pieces_append_sep, Text.pieces_of_not_mem hns]
  simp only [List.map_append, List.map_cons, String.ofList_toList]
  rfl

theorem ofPath_workloadsPath (hns : '/' ∉ ns.toList) :
    ofPath (workloadsPath ns) = .workloads := by
  rw [ofPath, pieces_workloadsPath hns]
  simp [ofPieces, Workload.group]

/-- The path of a workload names it, whatever its name is. -/
theorem ofPath_workloadPath (hns : '/' ∉ ns.toList) (name : String) :
    ofPath (workloadPath ns name) = .workload name := by
  have hname : "/".intercalate ((Text.pieces '/' name.toList).map String.ofList) = name := by
    rw [← String.toList_inj, String.toList_intercalate, List.map_map]
    simpa [Function.comp_def] using Text.intercalate_pieces '/' name.toList
  rw [ofPath, toList_workloadPath, Text.pieces_append_sep, List.map_append,
    pieces_workloadsPath hns]
  simp [ofPieces, Workload.group, hname, Text.pieces_ne_nil]

end Target

/-! ## Answers -/

namespace ApiServer

theorem gives_object {status : Nat} (h : ¬ (400 ≤ status ∧ status < 600)) (w : Workload) :
    Api.Gives Workload.ofJson? w (some ⟨status, some w.toJson⟩) :=
  ⟨_, rfl, h, w.ofJson?_toJson⟩

theorem refuses_refusal (code : Nat) (reason : String) (h : code < UInt16.size) :
    Api.Refuses code reason (some (refusal code reason)) := by
  refine ⟨_, rfl, rfl, ?_⟩
  have hs : Json.slots ["status", "message", "reason", "code"]
      (.object [("kind", .text "Status"), ("status", .text "Failure"), ("reason", .text reason),
        ("code", .nat code)]) =
      some [some (.text "Failure"), none, some (.text reason), some (.nat code)] := rfl
  simp only [refusal, Option.bind_some, Api.errorOf?, hs]
  simp [Json.required?, Json.orDefault?, Json.text?, Json.nat?, Json.nat, h]

variable {s : ApiServer} {ns name version : String} {body : Json} {w : Workload}

theorem answer_get (hns : '/' ∉ ns.toList) :
    s.answer ⟨.get, workloadPath ns name, none⟩ =
      (found ((s.workloads.find? name).map Workload.toJson), s) := by
  simp [answer, Target.ofPath_workloadPath hns]

theorem answer_post (hns : '/' ∉ ns.toList) (hw : Workload.ofJson? body = some w) :
    s.answer ⟨.post, workloadsPath ns, some body⟩ = s.write (create · w) := by
  simp [answer, Target.ofPath_workloadsPath hns, hw]

theorem answer_put (hns : '/' ∉ ns.toList) (hw : Workload.ofJson? body = some w) :
    s.answer ⟨.put, workloadPath ns name, some body⟩ = s.write (replace · name w) := by
  simp [answer, Target.ofPath_workloadPath hns, hw]

theorem answer_delete (hns : '/' ∉ ns.toList) :
    s.answer ⟨.delete, workloadPath ns name, some (boundTo version)⟩ =
      s.write (delete · name (some version)) := by
  have hasked : askedVersion (some (boundTo version)) = some version := rfl
  simp [answer, Target.ofPath_workloadPath hns, hasked]

/-! ### What a write does to the workloads -/

variable {v : Versioned} {stored : Workload} {asked : Option String}

theorem create_taken (h : v.find? w.key = some stored) :
    create v w = (refusal 409 "AlreadyExists", v) := by
  simp [create, h]

theorem create_free (h : v.find? w.key = none) : create v w =
    (⟨201, some { w with version := some (toString (v.counter + 1)) }.toJson⟩, v.put w) := by
  simp [create, h, Versioned.find?_put]

theorem replace_gone (h : v.find? name = none) : replace v name w = (absent, v) := by
  simp [replace, h]

theorem replace_stale (h : v.find? name = some stored) (hv : w.version = some version)
    (hne : stored.version ≠ some version) : replace v name w = (stale, v) := by
  simp [replace, h, hv, hne.symm]

/-- What is stored has the name that the path gives. -/
theorem replace_current (h : v.find? name = some stored) (hv : w.version = some version)
    (he : stored.version = some version) : replace v name w =
      (⟨200, some (Workload.toJson ⟨some name, some (toString (v.counter + 1)), w.spec⟩)⟩,
        v.put { w with name := some name }) := by
  simp [replace, h, hv, he, Versioned.find?_put, Workload.key]

theorem delete_gone (h : v.find? name = none) : delete v name asked = (absent, v) := by
  simp [delete, h]

theorem delete_stale (h : v.find? name = some stored) (hne : stored.version ≠ some version) :
    delete v name (some version) = (stale, v) := by
  simp [delete, h, hne.symm]

theorem delete_current (h : v.find? name = some stored) (he : stored.version = some version) :
    delete v name (some version) =
      (⟨200, some (.object [("kind", .text "Status"), ("status", .text "Success")])⟩,
        v.erase name) := by
  simp [delete, h, he]

end ApiServer

namespace Peers

/-- The server in memory while it is reached and refuses no writes. -/
def view : StoreView Peers :=
  .ofVersioned (fun p => p.entrance = some "" ∧ p.server.contended = 0) fun p => p.server.workloads

variable {p : Peers} {ns name : String} {post : Option Response → Peers → Prop}

theorem ends_api (h : view.ready p) (r : Request) :
    (transport.api r).Ends p post ↔
      post (some (p.server.answer r).1)
        { p.asked (.cluster r) with server := (p.server.answer r).2 } := by
  have hr : request r p = (some (p.server.answer r).1,
      { p.asked (.cluster r) with server := (p.server.answer r).2 }) := by
    simp [request, h.1]
  rw [transport, Script.ends_modifyGet, hr]

/-! ### Writes -/

section Writes

variable {r : Request} {f : Versioned → Response × Versioned} {response : Response}
  {v : Versioned} {code status : Nat} {reason : String} {w stored : Workload}

theorem ends_write (hp : view.ready p) (hr : p.server.answer r = p.server.write f)
    (hf : f p.server.workloads = (response, v)) :
    (transport.api r).Ends p post ↔ post (some response)
      { p.asked (.cluster r) with server := { p.server with workloads := v } } := by
  rw [ends_api hp, hr]
  simp only [ApiServer.write, hp.2, ↓reduceIte, hf]

theorem ends_refused (hp : view.ready p) (hr : p.server.answer r = p.server.write f)
    (hf : f p.server.workloads = (ApiServer.refusal code reason, p.server.workloads))
    (hcode : code < UInt16.size) :
    (transport.api r).Ends p fun a q =>
      (∃ reason, Api.Refuses code reason a) ∧ view.Keeps p q := by
  rw [ends_write hp hr hf]
  exact ⟨⟨reason, ApiServer.refuses_refusal code reason hcode⟩, StoreView.ofVersioned_keeps hp rfl⟩

theorem ends_stored (hp : view.ready p) (hr : p.server.answer r = p.server.write f)
    (hf : f p.server.workloads = (⟨status, some stored.toJson⟩, p.server.workloads.put w))
    (hstatus : ¬ (400 ≤ status ∧ status < 600)) :
    (transport.api r).Ends p fun a q =>
      (∃ stored, Api.Gives Workload.ofJson? stored a) ∧ view.Stores p q w := by
  rw [ends_write hp hr hf]
  exact ⟨⟨stored, ApiServer.gives_object hstatus stored⟩, StoreView.ofVersioned_stores hp rfl⟩

end Writes

/-- The server in memory keeps the workloads of a namespace as documented, whatever their names. -/
theorem conforms (hns : '/' ∉ ns.toList) (served : String → Prop) :
    Conforms transport.api ns served view where
  key := StoreView.ofVersioned_key
  version := StoreView.ofVersioned_version
  get_absent {p name} hp _ hw := by
    replace hw : p.server.workloads.find? name = none := hw
    rw [ends_api hp, ApiServer.answer_get hns, hw]
    exact ⟨ApiServer.refuses_refusal 404 _ (by decide), StoreView.ofVersioned_keeps hp rfl⟩
  get_found {p name w} hp _ hw := by
    replace hw : p.server.workloads.find? name = some w := hw
    rw [ends_api hp, ApiServer.answer_get hns, hw]
    exact ⟨ApiServer.gives_object (by decide) w, StoreView.ofVersioned_keeps hp rfl⟩
  create_taken {p name body w} hp _ hbody hname hw := by
    obtain ⟨stored, hw⟩ := Option.ne_none_iff_exists'.1 hw
    exact ends_refused hp (ApiServer.answer_post hns hbody.2)
      (ApiServer.create_taken (hname ▸ hw)) (by decide)
  create_free {p name body w} hp _ hbody hname hw :=
    ends_stored hp (ApiServer.answer_post hns hbody.2)
      (ApiServer.create_free (hname ▸ hw)) (by decide)
  replace_gone {p name body w v} hp _ hbody hname hv hw :=
    ends_refused hp (ApiServer.answer_put hns hbody.2) (ApiServer.replace_gone hw) (by decide)
  replace_stale {p name body w v stored} hp _ hbody hname hv hw hne :=
    ends_refused hp (ApiServer.answer_put hns hbody.2)
      (ApiServer.replace_stale hw hv hne) (by decide)
  replace_current {p name body w v stored} hp _ hbody hname hv hw he :=
    (ends_stored hp (ApiServer.answer_put hns hbody.2)
      (ApiServer.replace_current hw hv he) (by decide)).mono fun _ _ h =>
        ⟨h.1, h.2.congr hname.symm rfl⟩
  delete_gone {p name v} hp _ hw :=
    ends_refused hp (ApiServer.answer_delete hns) (ApiServer.delete_gone hw) (by decide)
  delete_stale {p name v stored} hp _ hw hne :=
    ends_refused hp (ApiServer.answer_delete hns) (ApiServer.delete_stale hw hne) (by decide)
  delete_current {p name v stored} hp _ hw he := by
    rw [ends_write hp (ApiServer.answer_delete hns) (ApiServer.delete_current hw he)]
    exact ⟨⟨_, rfl, by decide, rfl⟩, StoreView.ofVersioned_drops hp rfl⟩

end Peers

end PowerGrant
