import PowerGrant.Proofs.Cluster.Peers
import PowerGrant.Proofs.Workload.Ledger

/-!
# The stand-in agrees with the cluster

The workload store in memory abides by the same contract as the one of a cluster. So a caller hears
the same from both, whatever it asks, and both come to hold the same specs: what is tried out with
the stand-in holds of a cluster. This is so for names that can be sent in a path; about other names
the store of a cluster cannot ask.

* **`Cluster.workloads_agree`**: a caller that starts with nothing stored hears the same from the
  store of a cluster and from the stand-in.
* `Cluster.not_workloads_agree_unaddressable`: not so for names that cannot be addressed.
-/

namespace PowerGrant.Cluster

variable {σ : Type}

theorem asks_any (call : StoreCall) : call.Asks fun _ => True := by
  cases call <;> trivial

/-- A caller that starts with nothing stored hears the same from the store of a cluster and from the
stand-in, namely what the ledger says, and leaves the same specs under the same names. With either
of them, what was written since it was read cannot be overwritten, and what is gone can be
deleted. -/
theorem workloads_agree {api : Api σ} {ns : String} {served : String → Prop} {view : StoreView σ}
    (h : Conforms api ns served view) (haddr : ∀ name, served name → Addressable ns name)
    {s : σ} (hs : view.ready s) (hnone : ∀ name, view.held s name = none)
    {t : StandIn} (hfail : t.workloadsFail = false) (hpending : t.pending = [])
    (hempty : ∀ name, t.store.find? name = none)
    {calls : List StoreCall} (hcalls : ∀ call ∈ calls, call.Asks served) :
    let cluster := (Dialogue.talk (workloads api ns) calls {}).run s
    let standIn := (Dialogue.talk StandIn.workloads calls {}).run t
    cluster.value.replies = standIn.value.replies ∧
      (∀ name, (view.held cluster.state name).map Workload.spec =
        standIn.state.store.specs name) ∧
      standIn.value.replies = (Ledger.after calls).replies ∧
      standIn.state.store.specs = (Ledger.after calls).specs ∧
      (workloads api ns).Guards view s calls ∧ StandIn.workloads.Guards StandIn.view t calls := by
  have hcluster := (h.abides haddr).tells hs hnone hcalls
  have hany : ∀ call ∈ calls, call.Asks fun _ => True := fun call _ => asks_any call
  have hstandIn := StandIn.abides.tells ⟨hfail, hpending⟩ hempty hany
  refine ⟨hcluster.replies.trans hstandIn.replies.symm, fun name => ?_, hstandIn.replies,
    funext hstandIn.specs, (h.abides haddr).guards hs hnone hcalls,
    StandIn.abides.guards ⟨hfail, hpending⟩ hempty hany⟩
  exact (hcluster.specs name).trans (hstandIn.specs name).symm

/-- One object is read twice and replaced by way of the one reading; the other comes too late. -/
theorem workloads_agree_late :
    let calls : List StoreCall := [.get "a", .create "a" none ⟨"p", []⟩, .get "a", .get "a",
      .replace 0 ⟨"q", []⟩, .replace 1 ⟨"r", []⟩, .get "a", .delete 2 ⟨"q", []⟩,
      .delete 0 ⟨"p", []⟩]
    let cluster := (Dialogue.talk (workloads Peers.transport.api "pm") calls {}).run {}
    let standIn := (Dialogue.talk StandIn.workloads calls {}).run {}
    Conforms Peers.transport.api "pm" (Addressable "pm") Peers.view ∧
      (∀ call ∈ calls, call.Asks (Addressable "pm")) ∧
      cluster.value.replies = standIn.value.replies ∧
      standIn.value.replies = [.absent, .done, .found ⟨"p", []⟩, .found ⟨"p", []⟩, .done,
        .conflict "a", .found ⟨"q", []⟩, .done, .done] := by
  intro calls
  have hconforms : Conforms Peers.transport.api "pm" (Addressable "pm") Peers.view :=
    Peers.conforms (by decide) _
  have ha : Addressable "pm" "a" := by decide
  have hcalls : ∀ call ∈ calls, call.Asks (Addressable "pm") := by
    simp [calls, StoreCall.Asks, ha]
  have hagree := workloads_agree hconforms (fun _ hname => hname) (s := {}) ⟨rfl, rfl⟩
    (fun _ => rfl) (t := {}) rfl rfl (fun _ => rfl) hcalls
  exact ⟨hconforms, hcalls, hagree.1, hagree.2.2.1.trans (by decide)⟩

/-- A server that answers 404 without saying why. -/
def silentServer : Api Unit := fun _ => .done (some ⟨404, none⟩)

/-- Not so for names that cannot be sent in a path, which the store of a cluster does not ask for or
asks for under another name, nor with a server that does not say why it refuses. -/
theorem not_workloads_agree_unaddressable :
    let heard {σ : Type} (store : WorkloadStore σ) (s : σ) (calls : List StoreCall) :=
      ((Dialogue.talk store calls {}).run s).value.replies
    Conforms Peers.transport.api "pm" (fun _ => True) Peers.view ∧
      heard (workloads Peers.transport.api "pm") {} [.get "a b"] = [.unavailable] ∧
      heard StandIn.workloads {} [.get "a b"] = [.absent] ∧
      heard (workloads Peers.transport.api "pm") {}
          [.create "a?b" none ⟨"p", []⟩, .get "a?b"] = [.done, .absent] ∧
      heard StandIn.workloads {}
          [.create "a?b" none ⟨"p", []⟩, .get "a?b"] = [.done, .found ⟨"p", []⟩] ∧
      heard (workloads silentServer "pm") () [.get "a"] = [.unavailable] :=
  ⟨Peers.conforms (by decide) _, by decide, by decide, by decide, by decide, by decide⟩

end PowerGrant.Cluster
