import PowerGrant.Proofs.Cpu.List
import PowerGrant.Proofs.Reconcile.TakenBack
import PowerGrant.Proofs.Reconcile.Warrant

/-!
# What a running pod has been given

When a reconcile of a running pod ends with everything applied, the table says of the pod what its
spec, its status and the agent's answers say, the workloads list it, and of what the pod held before
nothing else is left that no other pod holds.

* `Container.Qualifies`, `GivenTo`: the containers that are granted CPUs, and what each of them is
  granted.
* `Provided`: what is said of the pod.
* `Site.provided`: it holds after every reconcile of a running pod that was applied.
-/

namespace PowerGrant

/-- A container that is granted CPUs: it requests a whole number of them, at least one, and names one
profile. -/
def Container.Qualifies (c : Container) : Prop :=
  c.requestsWholeCpus = true ∧ c.profiles.length = 1

instance : DecidablePred Container.Qualifies := fun c =>
  inferInstanceAs (Decidable (c.requestsWholeCpus = true ∧ c.profiles.length = 1))

/-- A runtime's id as it is recorded: what follows its first `://`, or all of it without one. -/
def Unschemed (reported id : String) : Prop :=
  (∃ scheme, reported = scheme ++ "://" ++ id ∧
      ∀ a b : String, reported = a ++ "://" ++ b → scheme.length ≤ a.length) ∨
    id = reported ∧ ∀ a b : String, reported ≠ a ++ "://" ++ b

/-- The id that the first status of a container gives, of which those of the containers that run
first come first; empty if none gives one. -/
def Pod.Reports (p : Pod) (container id : String) : Prop :=
  match (p.initStatuses ++ p.statuses).find? fun s => s.name = container with
  | some ⟨_, some reported⟩ => Unschemed reported id
  | _ => id = ""

/-- What a container of a pod is granted: the CPUs of the agent's answer, in its order and as often
as it names them. -/
structure GivenTo (w : World) (key : PodKey) (pod : Pod) (c : Container) (g : ContainerGrant) :
    Prop where
  name : g.name = c.name
  id : pod.Reports c.name g.id
  cpus : ∃ answer parts, w.cpus.find? s!"{key.text}/{c.name}" = some answer ∧
    List.Forall₂ CpuList.Stands (Text.pieces ',' answer.toList) parts ∧ g.cpus = parts.flatten
  profile : c.profiles = [g.profile]

/-- After a reconcile the pod has what it asks for, and nothing else is left of what it had. -/
structure Provided (key : PodKey) (pod : Pod) (site after : Site World) (entry : Grant) : Prop where
  recorded : after.grants.find? key = some entry
  node : pod.node = some entry.node
  name : entry.name = key.name
  ns : entry.ns = key.ns
  uid : pod.uid = some entry.uid
  containers : List.Forall₂ (GivenTo site.world key pod)
    ((pod.initContainers ++ pod.containers).filter Container.Qualifies) entry.containers
  listed : ∀ c ∈ entry.containers, ∀ cpu ∈ c.cpus, after.Lists entry.node c.profile cpu
  left : ∀ previous, site.grants.find? key = some previous →
    ∀ node profile cpu, previous.Holds node profile cpu → ¬ entry.Holds node profile cpu →
      after.Lists node profile cpu → after.grants.HeldByOther key node profile cpu

/-! ## What the spec and the status say -/

theorem unschemed_withoutScheme (reported : String) :
    Unschemed reported (Pod.withoutScheme reported) := by
  have happend (a b : String) :
      reported = a ++ "://" ++ b ↔ reported.toList = a.toList ++ "://".toList ++ b.toList := by
    rw [← String.toList_inj, String.toList_append, String.toList_append]
  unfold Pod.withoutScheme
  split
  case h_1 scheme rest hcut =>
    obtain ⟨he, hmin⟩ := Text.cutText?_eq_some_iff.1 hcut
    refine .inl ⟨String.ofList scheme, (happend _ _).2 (by simpa using he), fun a b hab => ?_⟩
    rw [String.length_ofList, ← String.length_toList]
    exact hmin _ _ ((happend a b).1 hab)
  case h_2 hcut =>
    exact .inr ⟨rfl, fun a b hab => Text.cutText?_eq_none_iff.1 hcut _ _ ((happend a b).1 hab)⟩

theorem Pod.reports_containerId (p : Pod) (container : String) :
    p.Reports container (p.containerId container) := by
  unfold Pod.Reports Pod.containerId
  cases (p.initStatuses ++ p.statuses).find? fun s => s.name = container with
  | none => rfl
  | some status =>
    obtain ⟨name, _ | reported⟩ := status
    · rfl
    · exact unschemed_withoutScheme reported

/-- The requests of containers are those of the containers that name one profile. -/
theorem Pod.forall₂_requestsOf {cs : List Container} {requests : List (Container × String)}
    (h : Pod.requestsOf cs = .ok requests) :
    List.Forall₂ (fun c r => r.1 = c ∧ c.profiles = [r.2])
      (cs.filter fun c => c.profiles.length = 1) requests := by
  induction cs generalizing requests with
  | nil =>
    obtain rfl := Except.ok.inj h
    exact .nil
  | cons c cs ih =>
    unfold Pod.requestsOf at h
    obtain ⟨profile, hprofile, h⟩ := ok_of_bind_ok h
    obtain ⟨rest, hrest, h⟩ := ok_of_bind_ok h
    have hp := Container.profile_ok hprofile
    obtain rfl := Except.ok.inj h
    cases profile with
    | none =>
      have hp : c.profiles = [] := hp
      rw [List.filter_cons_of_neg (by simp [hp])]
      exact ih hrest
    | some p =>
      have hp : c.profiles = [p] := hp
      rw [List.filter_cons_of_pos (by simp [hp])]
      exact .cons ⟨rfl, hp⟩ (ih hrest)

/-- What a running pod asks for is what its spec says. -/
theorem Pod.demand_profiles {p : Pod} {policy : ProfilePolicy} {uid node : String}
    {requests : List (Container × String)}
    (h : p.demand policy = .ok (.profiles uid node requests)) :
    p.uid = some uid ∧ p.node = some node ∧
      List.Forall₂ (fun c r => r.1 = c ∧ c.profiles = [r.2])
        ((p.initContainers ++ p.containers).filter Container.Qualifies) requests := by
  have hd := demands_of_demand h
  -- a pod with pinned containers is guaranteed, so they are those that request whole CPUs
  have hpin : p.pinnedContainers =
      (p.initContainers ++ p.containers).filter Container.requestsWholeCpus := by
    have hpinned := hd.pinned
    unfold Pod.pinnedContainers at hpinned ⊢
    split at hpinned
    · rename_i hqos
      rw [if_pos hqos]
    · exact absurd rfl hpinned
  have hof := Pod.forall₂_requestsOf hd.made
  rw [hpin, List.filter_filter] at hof
  refine ⟨identity_eq hd.identified, identity_eq hd.placed, ?_⟩
  simpa only [Container.Qualifies, Bool.decide_and, Bool.decide_eq_true, and_comm] using hof

/-! ## What the agent says -/

theorem World.cpusOf_eq_some {w : World} {key : PodKey} {container : String} {cpus : List CpuId}
    (h : w.cpusOf key container = some cpus) :
    ∃ answer parts, w.cpus.find? s!"{key.text}/{container}" = some answer ∧
      List.Forall₂ CpuList.Stands (Text.pieces ',' answer.toList) parts ∧
        cpus = parts.flatten := by
  obtain ⟨answer, hf, hc⟩ := Option.bind_eq_some_iff.1 h
  have hparse : parseCpuList answer = .ok cpus := by
    unfold cpusOfAnswer at hc
    split at hc
    · cases hc
    · cases hp : parseCpuList answer with
      | error e => rw [hp] at hc; cases hc
      | ok found =>
        rw [hp] at hc
        exact congrArg _ (Option.some.inj hc)
  obtain ⟨parts, hparts⟩ := parseCpuList_ok_iff.1 hparse
  exact ⟨answer, parts, hf, hparts⟩

/-- Each container that asks for a profile is given its CPUs. -/
theorem World.forall₂_containersOf {w : World} {key : PodKey} {pod : Pod} {cs : List Container}
    {requests : List (Container × String)} {gs : List ContainerGrant}
    (hr : List.Forall₂ (fun c r => r.1 = c ∧ c.profiles = [r.2]) cs requests)
    (h : w.containersOf key pod requests = some gs) : List.Forall₂ (GivenTo w key pod) cs gs := by
  induction hr generalizing gs with
  | nil =>
    obtain rfl := Option.some.inj h
    exact .nil
  | @cons c r cs requests hc _ ih =>
    obtain ⟨c', profile⟩ := r
    obtain ⟨rfl, hprofile⟩ : c' = c ∧ c.profiles = [profile] := hc
    obtain ⟨cpus, hcpus, h⟩ := Option.bind_eq_some_iff.1 h
    obtain ⟨rest, hrest, h⟩ := Option.bind_eq_some_iff.1 h
    obtain rfl := Option.some.inj h
    exact .cons ⟨rfl, pod.reports_containerId c'.name, World.cpusOf_eq_some hcpus, hprofile⟩
      (ih hrest)

/-! ## The reconcile -/

section Provided

variable {policy : ProfilePolicy} {config : ReconcileConfig} {key : PodKey} {pod : Pod}
  {w : World} {site after : Site World} {intent : Intent} {result : Result} {next : Grant}

/-- For a running pod a reconcile that is applied has found a grant to make. -/
theorem World.Finds.asks (h : w.Finds policy key intent) (hp : w.pods.find? key.text = some pod)
    (hs : pod.standing = .running) (hset : Settled key site intent result after)
    (hr : result = .ok .applied) :
    ∃ uid node requests next, intent = .grant next ∧
      pod.demand policy = .ok (.profiles uid node requests) ∧
      ∃ containers, w.containersOf key pod requests = some containers ∧
        next = ⟨node, key.name, key.ns, uid, containers⟩ := by
  cases h with
  | gone => cases hset; cases hr
  | unasking => cases hset; cases hr
  | leaving hp' hs' =>
    obtain rfl := Option.some.inj (hp.symm.trans hp')
    rw [hs] at hs'
    cases hs'
  | asking hp' _ hd hdue =>
    obtain rfl := Option.some.inj (hp.symm.trans hp')
    refine ⟨_, _, _, _, rfl, hd, ?_⟩
    simp only [World.due, hp, hs, hd, Option.bind_eq_bind, Option.bind_some] at hdue
    obtain ⟨containers, hc, hn⟩ := Option.bind_eq_some_iff.1 hdue
    exact ⟨containers, hc, (Option.some.inj hn).symm⟩

/-- A grant that is applied is in the workloads, and what the pod held besides and no other pod does
is not. -/
theorem Settled.grant_applied (hs : Settled key site (.grant next) result after)
    (hone : ∀ name, Spec.OneEntry (site.world.store.specs name)) (hr : result = .ok .applied) :
    after.grants = site.grants.insert key next ∧
      (∀ profile cpu, (Shares.ofContainers next.containers).Has profile cpu →
        after.Lists next.node profile cpu) ∧
      ∀ previous, site.grants.find? key = some previous →
        ∀ node profile cpu, previous.Holds node profile cpu → ¬ next.Holds node profile cpu →
          after.Lists node profile cpu → site.grants.HeldByOther key node profile cpu := by
  cases hs with
  | stuck hne => exact absurd hr (result_ne_ok hne)
  | @granted _ failures between world hc hstale hp =>
    obtain rfl : failures = [] := Classical.byContradiction fun hne => result_ne_ok hne hr
    refine ⟨rfl, fun profile cpu hh => (hp.wholly rfl).listed hh, ?_⟩
    intro previous hf node profile cpu hheld hnext hl
    refine Classical.byContradiction fun hother => ?_
    -- what is listed now was listed after the stale shares were taken out
    rcases hp.partly.listed_of_adding hl with hl | ⟨rfl, hh⟩
    · have hhas := Shares.has_ofStale hf hheld hnext hother
      rw [GrantTable.before_of_find? hf] at hstale
      obtain rfl := hheld.1
      exact (hstale.wholly rfl).not_listed (hone _) hhas hl
    · exact hnext (Shares.holds_iff_mem_cpusOf.2 ⟨rfl, Shares.has_ofContainers.1 hh⟩)

/-- When a running pod is reconciled, no other writer writes and the result is that everything was
applied, the pod has what its spec, its status and the agent's answers say: so the table records it,
the workloads list it, and of what the pod held before nothing else is listed any more that no other
pod holds. Calls may have failed meanwhile. -/
theorem Site.provided (config : ReconcileConfig) (hq : site.world.Quiet)
    (hone : ∀ name, Spec.OneEntry (site.world.store.specs name))
    (hp : site.world.pods.find? key.text = some pod) (hd : pod.deleting = false)
    (hrun : pod.phase = some "Running")
    (hr : (site.reconcile config key).value = .ok .applied) :
    ∃ entry, Provided key pod site (site.reconcile config key).state entry := by
  obtain ⟨world, intent, hstore, hfinds, hset⟩ := Site.reconcile_finds hq hr
  have hs : pod.standing = .running := by simp [Pod.standing, hd, hrun]
  obtain ⟨uid, node, requests, next, rfl, hdemand, containers, hcs, rfl⟩ :=
    hfinds.asks hp hs hset hr
  obtain ⟨huid, hnode, hrequests⟩ := Pod.demand_profiles hdemand
  obtain ⟨hgrants, hlisted, hleft⟩ := hset.grant_applied (hstore ▸ hone) hr
  refine ⟨_, {
    recorded := by rw [hgrants, Table.find?_insert, if_pos rfl]
    node := hnode
    name := rfl
    ns := rfl
    uid := huid
    containers := World.forall₂_containersOf hrequests hcs
    listed := fun c hc cpu hcpu => hlisted _ _
      (Shares.has_ofContainers.2 (Shares.mem_cpusOf.2 ⟨c, hc, rfl, hcpu⟩))
    left := fun previous hf n profile cpu hh hnext hl => ?_ }⟩
  rw [hgrants]
  exact GrantTable.heldByOther_insert_self.2 (hleft previous hf n profile cpu hh hnext hl)

end Provided

/-- A pod of which two containers qualify: one that runs first, and one of the three others. The
quantity of `s` is no whole number of CPUs, and `p` names no profile. -/
def Pod.motley : Pod :=
  { ns := some "d", name := some "m", uid := some "u", node := some "n1", phase := some "Running",
    qosClass := some "Guaranteed",
    initContainers :=
      [{ name := "i", requests := .ofList [("cpu", "1"), ("power.example.com/perf", "1")] }]
    containers :=
      [{ name := "s", requests := .ofList [("cpu", "500m"), ("power.example.com/perf", "1")] },
        { name := "p", requests := .ofList [("cpu", "1")] },
        { name := "c", requests := .ofList [("cpu", "2"), ("power.example.com/perf", "2")] }]
    initStatuses := [{ name := "i", id := some "cri-o://a://b" }]
    statuses := [{ name := "i", id := some "cri-o://c" }, { name := "c", id := some "plain" }] }

/-- The pod is recorded on another node and with another profile, of which another pod holds one of
its CPUs. The first write to a workload meets a conflict. -/
def Site.motley : Site World where
  grants := .ofList
    [(⟨"d", "m"⟩, ⟨"n0", "m", "d", "u", [⟨"c", "", [4, 9], "slow"⟩]⟩),
      (⟨"d", "o"⟩, ⟨"n0", "o", "d", "v", [⟨"c", "", [9], "slow"⟩]⟩)]
  world :=
    { pods := .ofList [("d/m", Pod.motley)]
      cpus := .ofList [("d/m/i", "5-6,5"), ("d/m/c", " 6 ")]
      profiles := .ofList [("https://n1:5000", .ofList [("perf", { id := some 1 })])]
      store := (({} : Versioned).put ⟨some "slow-workload", none, ⟨"slow", [⟨"n0", [4, 9]⟩]⟩⟩).put
        ⟨some "perf-workload", none, ⟨"perf", [⟨"n1", [1]⟩]⟩⟩
      faults := [{ method := .replaceWorkload, conflict := true }] }

theorem Site.oneEntry_motley (name : String) :
    Spec.OneEntry (Site.motley.world.store.specs name) := by
  intro spec hs
  rw [Site.motley, Versioned.sets_put] at hs
  split at hs
  · obtain rfl := Option.some.inj hs
    decide
  · rw [Versioned.sets_put] at hs
    split at hs
    · obtain rfl := Option.some.inj hs
      decide
    · cases hs

/-- The CPU that the other pod holds stays with it, the other one is gone, and the containers that
qualify have what the agent lists for them. -/
theorem Site.provided_motley :
    let after := (Site.motley.reconcile {} ⟨"d", "m"⟩).state
    Provided ⟨"d", "m"⟩ Pod.motley Site.motley after
        ⟨"n1", "m", "d", "u", [⟨"i", "a://b", [5, 6, 5], "perf"⟩, ⟨"c", "plain", [6], "perf"⟩]⟩ ∧
      after.world.store.specs "slow-workload" = some ⟨"slow", [⟨"n0", [9]⟩]⟩ ∧
      after.world.store.specs "perf-workload" = some ⟨"perf", [⟨"n1", [1, 5, 6]⟩]⟩ := by
  have hq : ∀ f ∈ Site.motley.world.faults, f.peer = [] := by decide
  have hp : Site.motley.world.pods.find? (PodKey.text ⟨"d", "m"⟩) = some Pod.motley := by
    decide +kernel
  obtain ⟨entry, h⟩ := Site.provided {} hq Site.oneEntry_motley hp rfl rfl (by decide +kernel)
  have hf : (Site.motley.reconcile {} ⟨"d", "m"⟩).state.grants.find? ⟨"d", "m"⟩ =
      some ⟨"n1", "m", "d", "u",
        [⟨"i", "a://b", [5, 6, 5], "perf"⟩, ⟨"c", "plain", [6], "perf"⟩]⟩ := by decide +kernel
  obtain rfl := Option.some.inj (h.recorded.symm.trans hf)
  exact ⟨h, by decide +kernel, by decide +kernel⟩

end PowerGrant
