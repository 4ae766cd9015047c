import PowerGrant.Proofs.Reconcile.Cases
import PowerGrant.Proofs.Reconcile.Found

/-!
# Questions come first

A reconcile asks all its questions before it calls the workload store for the first time. One that
ends before that has changed nothing, whatever faults strike and whatever others write.

* `World.Stores`: calls to the store were made, and no others. `World.StoredFor`: they were about one
  workload.
* `Result.Early`: the results of a reconcile that has come no further than its questions.
* `reconcile_asks_first`: the calls of a reconcile in their order, and what an early result says.
-/

namespace PowerGrant

namespace World

/-- Questions were asked since `w`, and the store is still the same. -/
def Asked (w t : World) (asked : List Call) : Prop :=
  t.calls = w.calls ++ asked ∧ (∀ c ∈ asked, c.method.onStore = false) ∧ t.store = w.store

/-- Calls to the store were made since `w`, and no others. -/
def Stores (w t : World) (stored : List Call) : Prop :=
  t.calls = w.calls ++ stored ∧ ∀ c ∈ stored, c.method.onStore = true

variable {w t u : World} {stored later : List Call} {c : Call}

theorem Asked.noted {asked : List Call} (h : w.Asked t asked) (hc : c.method.onStore = false) :
    w.Asked (noted t c).2 (asked ++ [c]) := by
  obtain ⟨hcalls, hoff, hs⟩ := h
  refine ⟨by rw [noted_calls, hcalls, List.append_assoc], fun d hd => ?_, hs⟩
  rcases List.mem_append.1 hd with hd | hd
  · exact hoff d hd
  · rw [List.mem_singleton.1 hd]
    exact hc

namespace Stores

theorem refl (w : World) : w.Stores w [] := ⟨(List.append_nil _).symm, List.forall_mem_nil _⟩

theorem trans (h : w.Stores t stored) (h' : t.Stores u later) : w.Stores u (stored ++ later) := by
  refine ⟨by rw [h'.1, h.1, List.append_assoc], fun c hc => ?_⟩
  exact (List.mem_append.1 hc).elim (h.2 c) (h'.2 c)

theorem noted (w : World) (hc : c.method.onStore = true) : w.Stores (noted w c).2 [c] :=
  ⟨rfl, fun _ hd => List.mem_singleton.1 hd ▸ hc⟩

end Stores

/-! ## Updates and phases -/

/-- The store was called since `w`. -/
def HasStored (w t : World) : Prop := ∃ stored, w.Stores t stored ∧ stored ≠ []

/-- The store was called since `w`, and each call was about the workload `name`. -/
def StoredFor (name : String) (w t : World) : Prop :=
  ∃ stored, w.Stores t stored ∧ stored ≠ [] ∧ ∀ c ∈ stored, c.key = name

theorem StoredFor.hasStored {name : String} (h : w.StoredFor name t) : w.HasStored t := by
  obtain ⟨stored, hs, hne, -⟩ := h
  exact ⟨stored, hs, hne⟩

theorem StoredFor.noted {name : String} (h : w.StoredFor name t) (hc : c.method.onStore = true)
    (hk : c.key = name) : w.StoredFor name (World.noted t c).2 := by
  obtain ⟨stored, hs, -, hkeys⟩ := h
  refine ⟨stored ++ [c], hs.trans (.noted t hc), by simp, fun d hd => ?_⟩
  rcases List.mem_append.1 hd with hd | hd
  · exact hkeys d hd
  · rw [List.mem_singleton.1 hd]
    exact hk

theorem storedFor_noted (w : World) (hc : c.method.onStore = true) :
    w.StoredFor c.key (noted w c).2 :=
  ⟨[c], .noted w hc, List.cons_ne_nil c [], fun _ hd => by rw [List.mem_singleton.1 hd]⟩

/-- An update calls the store about its workload and nothing else. -/
theorem storing_update (w : World) (name : String) (op : Option Spec → Option Spec) :
    Update (fun _ => True) Eq (fun _ _ => True) name op (w.StoredFor name) (w.StoredFor name) where
  others t _ h := h ▸ Others.refl t
  peers_nil := trivial
  peers_fresh _ _ _ _ := trivial
  fresh_env _ _ h he := he ▸ h
  done_env _ _ h he := he ▸ h
  note _ _ h hc hk := ⟨trivial, h.noted hc hk⟩
  still _ _ := trivial
  read _ _ h _ _ := ⟨trivial, h, fun _ => h⟩
  write _ _ h _ _ := ⟨trivial, h⟩

theorem storedFor_of_ended {α β : Type} {name : String} {result : Except α β}
    (h : Update.Ended (w.StoredFor name) (w.StoredFor name) result t) : w.StoredFor name t := by
  cases result with
  | ok _ => exact h
  | error _ => exact h.elim id id

theorem add_storedFor (r : Retry) (limit : Nat) (node profile : String) (cpus : List CpuId)
    (w : World) :
    w.StoredFor (workloadName profile)
      ((bounded limit (workloads.add r profile node cpus)).run w).state :=
  storedFor_of_ended (((storing_update w _ _).add_safe
    (fun _ hc hk => ⟨trivial, hk ▸ storedFor_noted w hc⟩) fun _ _ => trivial).run fun _ => rfl)

theorem remove_storedFor (r : Retry) (limit : Nat) (node profile : String) (cpus : List CpuId)
    (w : World) :
    w.StoredFor (workloadName profile)
      ((bounded limit (workloads.remove r profile node cpus)).run w).state :=
  storedFor_of_ended (((storing_update w _ _).remove_safe
    (fun _ hc hk => ⟨trivial, hk ▸ storedFor_noted w hc⟩) fun _ _ => trivial).run fun _ => rfl)

theorem add_stores (r : Retry) (limit : Nat) (node profile : String) (cpus : List CpuId)
    (w : World) :
    w.HasStored ((bounded limit (workloads.add r profile node cpus)).run w).state :=
  (add_storedFor r limit node profile cpus w).hasStored

theorem remove_stores (r : Retry) (limit : Nat) (node profile : String) (cpus : List CpuId)
    (w : World) :
    w.HasStored ((bounded limit (workloads.remove r profile node cpus)).run w).state :=
  (remove_storedFor r limit node profile cpus w).hasStored

/-- A phase calls the store and nothing else, once at least for each of its shares. -/
theorem changeEach_stores {limit : Nat}
    {change : String → List CpuId → Script World (Answer WorkloadChange)}
    (h : ∀ profile cpus (w : World),
      w.HasStored ((bounded limit (change profile cpus)).run w).state)
    (shares : Shares) (w : World) :
    let ran := (changeEach limit change shares).run w
    ∃ stored, w.Stores ran.state stored ∧ (stored = [] → shares = [] ∧ ran.value = []) := by
  induction shares generalizing w with
  | nil => exact ⟨[], .refl w, fun _ => ⟨rfl, rfl⟩⟩
  | cons e rest ih =>
    obtain ⟨profile, cpus⟩ := e
    obtain ⟨stored, hs, hne⟩ := h profile cpus w
    obtain ⟨later, hl, -⟩ := ih ((bounded limit (change profile cpus)).run w).state
    refine ⟨stored ++ later, ?_, fun hnil => absurd (List.append_eq_nil_iff.1 hnil).1 hne⟩
    simp only [changeEach, Script.run_bind]
    have htrans := hs.trans hl
    cases ((bounded limit (change profile cpus)).run w).value <;> exact htrans

end World

/-! ## Reconciles -/

/-- The result of a reconcile that has come no further than its questions. -/
def Result.Early : Result → Prop
  | .ok .applied => False
  | .ok (.skipped _) => True
  | .error e => e.Early

theorem not_early_result {phase : Phase} {key : PodKey} {failures : List (String × CallFault)} :
    ¬ (phase.result key failures).Early := by
  unfold Phase.result
  split <;> exact id

section Site

variable {key : PodKey} {site : Site World} {next : Grant} {intent : Intent}

/-- A phase at a site calls the store and nothing else, if it has something to do. -/
theorem onWorld_stores {limit : Nat}
    {change : String → List CpuId → Script World (Answer WorkloadChange)}
    (h : ∀ profile cpus (w : World),
      w.HasStored ((bounded limit (change profile cpus)).run w).state)
    (shares : Shares) (site : Site World) :
    ∃ failures elapsed world stored,
      (changeEach limit change shares).onWorld.run site = ⟨failures, elapsed, { site with world }⟩ ∧
        site.world.Stores world stored ∧ (stored = [] → shares = [] ∧ failures = []) := by
  obtain ⟨stored, hs, hnil⟩ := World.changeEach_stores h shares site.world
  exact ⟨_, _, _, stored, run_onWorld _ site, hs, hnil⟩

/-- What a reconcile does once its questions are answered: it calls the store and nothing else. If
it does not, it has changed nothing, or taken back what others hold as well. -/
def OnlyStores (site : Site World) (result : Result) (site' : Site World) : Prop :=
  ∃ stored, site.world.Stores site'.world stored ∧
    (result.Early → stored = [] ∧ site' = site) ∧
    (stored = [] → result.Early ∨ result = .ok .applied)

/-- A phase that ends a reconcile. -/
theorem stored_of_phase {phase : Phase} {failures : List (String × CallFault)} {site' : Site World}
    {stored : List Call} (hs : site.world.Stores site'.world stored)
    (hnil : stored = [] → failures = []) : OnlyStores site (phase.result key failures) site' := by
  refine ⟨stored, hs, fun h => absurd h not_early_result, fun h => .inr ?_⟩
  rw [hnil h]
  rfl

theorem settleRelease_stores (config : ReconcileConfig) (key : PodKey) (site : Site World) :
    let ran := (settleRelease World.services config key).run site
    OnlyStores site ran.value ran.state := by
  simp only [settleRelease, Script.bind_eq, Script.pure_eq_done, Script.run_bind, Script.read,
    Script.run, id]
  cases site.grants.find? key with
  | none => exact ⟨[], .refl _, fun _ => ⟨rfl, rfl⟩, fun _ => .inl trivial⟩
  | some entry =>
    obtain ⟨failures, elapsed, world, stored, hrun, hs, hnil⟩ := onWorld_stores
      (World.remove_stores config.retry config.callTimeout entry.node)
      (Shares.ofRelease site.grants key entry) site
    rw [Shares.ofRelease, ← run_releaseShares_eq] at hrun
    simp only [Script.run_bind, hrun]
    by_cases hf : failures = []
    · rw [if_pos hf]
      exact stored_of_phase hs fun h => (hnil h).2
    · rw [if_neg hf]
      exact stored_of_phase hs fun h => (hnil h).2

theorem settleGrant_stores (config : ReconcileConfig) (key : PodKey) (hc : next.Complete)
    (site : Site World) :
    let ran := (settleGrant World.services config key next).run site
    OnlyStores site ran.value ran.state := by
  obtain ⟨stale, elapsed, between, released, hrun, hr, hnil⟩ := onWorld_stores
    (World.remove_stores config.retry config.callTimeout (site.grants.before key next).node)
    (Shares.ofStale site.grants key next) site
  rw [← run_releaseStale_eq] at hrun
  simp only [settleGrant, Script.bind_eq, Script.pure_eq_done, Script.run_bind, hrun]
  by_cases hne : stale = []
  · obtain ⟨failures, elapsed', world, granted, hgrant, hg, hsome⟩ :=
      onWorld_stores (World.add_stores config.retry config.callTimeout next.node)
        (Shares.ofContainers next.containers) { site with world := between }
    have hshares : Shares.ofContainers next.containers ≠ [] :=
      Shares.ofContainers_ne_nil hc.containers
    simp only [hne, ne_eq, not_true_eq_false, if_false, grantShares, World.services,
      Script.run_bind, hgrant, run_recordGrant hc]
    refine stored_of_phase (hr.trans hg) fun h => ?_
    exact absurd (hsome (List.append_eq_nil_iff.1 h).2).1 hshares
  · rw [if_pos hne]
    exact stored_of_phase hr fun h => (hnil h).2

theorem settle_stores (config : ReconcileConfig) (key : PodKey) (hc : intent.Complete)
    (site : Site World) :
    let ran := (settle World.services config key intent).run site
    OnlyStores site ran.value ran.state := by
  cases intent with
  | skip reason => exact ⟨[], .refl _, fun _ => ⟨rfl, rfl⟩, fun _ => .inl trivial⟩
  | release => exact settleRelease_stores config key site
  | grant next => exact settleGrant_stores config key (hc next rfl) site

/-- A survey asks questions and leaves the store as it is. -/
theorem survey_asks (config : ReconcileConfig) (key : PodKey) (w : World) :
    ∃ asked, w.Asked ((survey World.services config key).run.run w).state asked := by
  have hasking : Asking Eq (fun _ _ => True) fun t => ∃ asked, w.Asked t asked :=
    { env := fun _ _ ht he => he ▸ ht
      note := fun _ _ ⟨_, ht⟩ hc => ⟨trivial, _, ht.noted hc⟩
      still := fun _ _ => trivial }
  have hw : w.Asked w [] := ⟨(List.append_nil _).symm, List.forall_mem_nil _, rfl⟩
  exact ((survey_safe hasking config key w ⟨[], hw⟩).run fun _ => rfl).1

/-- Whatever faults strike and whatever others write, a reconcile asks all its questions before it
calls the store for the first time. A pod that is skipped, not ready or refused, and a question that
is not answered, end it before that, with the store and the table of grants as they were; no other
result but `applied` comes without a call to the store. -/
theorem reconcile_asks_first (config : ReconcileConfig) (key : PodKey) (site : Site World) :
    let ran := (reconcile World.services config key).run site
    ∃ asked stored,
      ran.state.world.calls = site.world.calls ++ (asked ++ stored) ∧
        (∀ c ∈ asked, c.method.onStore = false) ∧ (∀ c ∈ stored, c.method.onStore = true) ∧
        (Result.Early ran.value → stored = [] ∧ ran.state.world.store = site.world.store ∧
          ran.state.grants = site.grants) ∧
        (stored = [] → Result.Early ran.value ∨ ran.value = .ok .applied) := by
  obtain ⟨asked, hcalls, hoff, hstore⟩ := survey_asks config key site.world
  have hcomplete := (run_survey config key site.world).2.2
  have hsurveyed := surveyed_survey config key site.world
  simp only [reconcile, Script.run_bind, run_onWorld]
  cases hv : ((survey World.services config key).run.run site.world).value with
  | error e =>
    rw [hv] at hsurveyed
    refine ⟨asked, [], ?_, hoff, List.forall_mem_nil _, fun _ => ⟨rfl, hstore, rfl⟩,
      fun _ => .inl hsurveyed⟩
    rw [List.append_nil]
    exact hcalls
  | ok intent =>
    obtain ⟨stored, ⟨hlater, hon⟩, hearly, hnil⟩ := settle_stores config key (hcomplete intent hv)
      { site with world := ((survey World.services config key).run.run site.world).state }
    refine ⟨asked, stored, ?_, hoff, hon, fun h => ?_, hnil⟩
    · rw [hlater, hcalls, List.append_assoc]
    · obtain ⟨hs, heq⟩ := hearly h
      exact ⟨hs, by rw [heq]; exact hstore, by rw [heq]⟩

end Site

end PowerGrant
