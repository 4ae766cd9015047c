import Mathlib.Data.List.TakeWhile
import PowerGrant.Cluster.Workloads
import PowerGrant.Proofs.Json.Records

/-!
# Requests about workloads

What is sent to an API server about a workload says what it should, and what the server answers is
understood.

* `Workload.ofJson?_toJson`: what is written of a workload is read as that workload.
* `Cluster.Addressable`: the names of workloads whose path can be sent as it is.
  `Request.sendable_of_inPath`, `Api.call_eq`: such a request is sent.
* `Api.Gives`, `Api.Refuses`: what a server answers. `Api.understand_of_gives`,
  `Api.understand_of_refuses`: how that is understood.
-/

namespace PowerGrant

/-! ## Bodies -/

/-- The workload that an object of a workload describes is that workload. -/
theorem Workload.ofJson?_toJson (w : Workload) : ofJson? w.toJson = some w := by
  have hs : Json.slots ["metadata", "spec"] w.toJson =
      some [some (Json.present
        [("name", w.name.map .text), ("resourceVersion", w.version.map .text)]),
        some w.spec.toJson] := rfl
  obtain ⟨name, version, spec⟩ := w
  rw [ofJson?, hs]
  simp only [(Spec.roundTrip spec).1, Option.bind_eq_bind, Option.bind_some]
  cases name <;> cases version <;> rfl

/-! ## Paths -/

/-- A path of characters that may stand in one is sent as it is. -/
theorem Request.sendable_of_inPath {path : String} (h : ∀ c ∈ path.toList, inPath c = true) :
    sendable path = some path := by
  have hsent : path.toList.takeWhile (· ≠ '#') = path.toList := by
    refine List.takeWhile_eq_self_iff.2 fun c hc => decide_eq_true ?_
    rintro rfl
    exact absurd (h _ hc) (by decide)
  have hpath : path.toList.takeWhile (· ≠ '?') = path.toList := by
    refine List.takeWhile_eq_self_iff.2 fun c hc => decide_eq_true ?_
    rintro rfl
    exact absurd (h _ hc) (by decide)
  have hquery : path.toList.dropWhile (· ≠ '?') = [] := by
    rw [List.dropWhile_eq_nil_iff]
    exact List.takeWhile_eq_self_iff.1 hpath
  have hall : path.toList.all inPath = true := List.all_eq_true.2 h
  simp only [sendable, split, hsent, hpath, hquery, hall]
  simp

namespace Cluster

/-- The path of a workload of this name can be sent as it is. -/
def Addressable (ns name : String) : Prop :=
  ∀ c ∈ ns.toList ++ name.toList, Request.inPath c = true

instance (ns name : String) : Decidable (Addressable ns name) :=
  decidable_of_iff ((ns.toList ++ name.toList).all Request.inPath = true) List.all_eq_true

theorem toList_workloadsPath (ns : String) : (workloadsPath ns).toList =
    "/apis/power.example.com/v1alpha1/namespaces/".toList ++ ns.toList ++
      "/powerworkloads".toList := by
  simp [workloadsPath, Workload.apiVersion, Workload.plural, toString]

theorem toList_workloadPath (ns name : String) :
    (workloadPath ns name).toList = (workloadsPath ns).toList ++ '/' :: name.toList := by
  simp [workloadPath, Api.objectPath, toString]

variable {ns name : String}

theorem Addressable.inPath_collection (h : Addressable ns name) :
    ∀ c ∈ (workloadsPath ns).toList, Request.inPath c = true := by
  have hfirst : ∀ c ∈ "/apis/power.example.com/v1alpha1/namespaces/".toList,
      Request.inPath c = true := List.all_eq_true.1 rfl
  have hlast : ∀ c ∈ "/powerworkloads".toList, Request.inPath c = true :=
    List.all_eq_true.1 rfl
  intro c hc
  rw [toList_workloadsPath, List.append_assoc, List.mem_append, List.mem_append] at hc
  rcases hc with hc | hc | hc
  · exact hfirst c hc
  · exact h c (List.mem_append_left _ hc)
  · exact hlast c hc

theorem Addressable.inPath (h : Addressable ns name) :
    ∀ c ∈ (workloadPath ns name).toList, Request.inPath c = true := by
  intro c hc
  rw [toList_workloadPath, List.mem_append, List.mem_cons] at hc
  rcases hc with hc | rfl | hc
  · exact h.inPath_collection c hc
  · rfl
  · exact h c (List.mem_append_right _ hc)

end Cluster

/-! ## Answers -/

namespace Api

variable {σ α : Type} {read? : Json → Option α} {a : α} {r : Option Response} {code : Nat}
  {reason : String}

/-- The server does what is asked: the answer is one of success, and says `a`. -/
def Gives (read? : Json → Option α) (a : α) (r : Option Response) : Prop :=
  ∃ response, r = some response ∧ ¬ (400 ≤ response.status ∧ response.status < 600) ∧
    response.body.bind read? = some a

/-- The server refuses: the answer has the code as its status and says it together with a reason. -/
def Refuses (code : Nat) (reason : String) (r : Option Response) : Prop :=
  ∃ response, r = some response ∧ response.status = code ∧
    response.body.bind errorOf? = some (.refused code reason)

theorem call_eq {api : Api σ} {method : HttpMethod} {path : String} {body : Option Json}
    (h : ∀ c ∈ path.toList, Request.inPath c = true) :
    api.call ⟨method, path, body⟩ read? =
      (api ⟨method, path, body⟩).bind fun r => .done (understand read? r) := by
  rw [call, Request.sendable_of_inPath h]

theorem understand_of_gives (h : Gives read? a r) : understand read? r = .ok a := by
  obtain ⟨response, rfl, hstatus, ha⟩ := h
  simp only [understand, hstatus, ↓reduceIte, ha]

theorem understand_of_refuses (h : Refuses code reason r) (hcode : 400 ≤ code ∧ code < 600) :
    understand read? r = .error (.refused code reason) := by
  obtain ⟨response, rfl, rfl, he⟩ := h
  simp only [understand, hcode, and_self, ↓reduceIte, he, Option.getD_some]

end Api

end PowerGrant
