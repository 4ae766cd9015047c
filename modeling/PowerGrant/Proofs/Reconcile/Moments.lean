import PowerGrant.Proofs.Reconcile.Runs
import PowerGrant.Proofs.Script.Trace

/-!
# Every moment of a run

Others may look at the store at any moment, also in the middle of a reconcile. While a pod is given
what its reconcile has found, some of that is already listed although the table still says what the
pod had before. Nothing of what it had and is not to hold any more is listed then, since that was
taken back first.

* `World.states_changeEach`: what every change of a phase keeps holds at every moment of it.
* `Reached.covered_during`: at every moment of a reconcile the store is covered by the table, or by
  the table that is about to be recorded.
* `Moment`: the moments of a run. `Claims`: what pods claim at such a moment.
* `Moment.listed_twice`: a CPU that is listed for two profiles is claimed with both of them.
-/

namespace PowerGrant

/-! ## Moments of a phase -/

namespace World

variable {inv : Specs → Prop} {shares : Shares} {limit : Nat} {r : Retry}
  {node : String} {w u : World}
  {change : String → List CpuId → Script World (Answer WorkloadChange)}

/-- What every change of a phase keeps holds at every moment of it. -/
theorem states_changeEach (op : Specs.Operation)
    (hchange : ∀ profile cpus (w : World), w.Quiet → w.Updating (workloadName profile)
      (op profile cpus) (bounded limit (change profile cpus)))
    (hinv : ∀ S S', inv S → Specs.Partly op shares S S' → inv S') (hw : w.Quiet)
    (h : inv w.store.specs) (hu : u ∈ (changeEach limit change shares).states w) :
    inv u.store.specs := by
  let good (u : World) : Prop := u.Quiet ∧ inv u.store.specs
  have hkept : ∀ e ∈ shares, ∀ w : World, good w → ∀ u : World,
      w.Untouched u ∨ w.Changed (workloadName e.1) (op e.1 e.2) u → good u := by
    rintro e he w ⟨hq, hi⟩ u (⟨hcalled, -, hs⟩ | ⟨hcalled, -, hs⟩)
    · exact ⟨hcalled.quiet hq, hs ▸ hi⟩
    · exact ⟨hcalled.quiet hq, hinv _ _ hi (.of_mem he hs)⟩
  have hsafe : (changeEach limit change shares).Safe Eq (fun _ => good) (fun _ => good) w := by
    refine changeEach_safe (fun e he w hw => ?_) ⟨hw, h⟩
    refine (hchange e.1 e.2 w hw.1).mono (fun t u hs => hkept e he w hw u hs.2) fun a u ha => ?_
    cases a with
    | ok done => exact hkept e he w hw u (.inr ha)
    | error fault => exact hkept e he w hw u ha
  exact (hsafe.states (fun _ => rfl) ⟨hw, h⟩ (fun _ _ hs => hs) u hu).2

theorem states_removeEach {t : GrantTable} (hw : w.Quiet) (h : Covered t w.store.specs)
    (hu : u ∈ (changeEach limit (fun p cpus => workloads.remove r p node cpus) shares).states w) :
    Covered t u.store.specs :=
  states_changeEach (Specs.removal node) (fun _ _ _ hw => remove_updating hw)
    (fun _ _ h hp => h.removal hp) hw h hu

theorem states_addEach {t : GrantTable} {key : PodKey} {next : Grant} (hw : w.Quiet)
    (h : Covered (t.insert key next) w.store.specs)
    (hu : u ∈ (changeEach limit (fun p cpus => workloads.add r p next.node cpus)
      (Shares.ofContainers next.containers)).states w) :
    Covered (t.insert key next) u.store.specs :=
  states_changeEach (Specs.adding next.node) (fun _ _ _ hw => add_updating hw)
    (fun _ _ h hp => h.adding hp) hw h hu

end World

/-! ## Moments of a reconcile -/

section Site

variable {α : Type} {site u : Site World} {config : ReconcileConfig} {key : PodKey}
  {next : Grant} {node : String} {shares : Shares} {t : GrantTable} {intent : Intent}

theorem mem_states_onWorld {x : Script World α} :
    u ∈ x.onWorld.states site ↔ ∃ w ∈ x.states site.world, { site with world := w } = u := by
  have hmap : x.onWorld.states site =
      (x.states site.world).map fun world => { site with world } := by
    unfold Script.onWorld
    rw [Script.states_onPart] <;> intros <;> rfl
  rw [hmap, List.mem_map]

theorem states_releaseShares (hq : site.world.Quiet) (h : Covered t site.world.store.specs)
    (hu : u ∈ (releaseShares World.services config key node shares).states site) :
    u.grants = site.grants ∧ Covered t u.world.store.specs := by
  obtain ⟨w, hw, rfl⟩ := mem_states_onWorld.1 (Script.mem_states_read_bind.1 hu)
  exact ⟨rfl, World.states_removeEach hq h hw⟩

theorem states_settleRelease (hq : site.world.Quiet)
    (h : Covered site.grants site.world.store.specs)
    (hu : u ∈ (settleRelease World.services config key).states site) :
    Covered u.grants u.world.store.specs := by
  replace hu := Script.mem_states_read_bind.1 hu
  cases hf : site.grants.find? key with
  | none =>
    rw [hf] at hu
    obtain rfl := Script.mem_states_done.1 hu
    exact h
  | some entry =>
    rw [hf] at hu
    obtain ⟨failures, elapsed, world, hrun, hp, -⟩ := run_releaseShares World.services_serve config
      key entry.node (Shares.distinct_ofContainers entry.containers) site hq
    rcases Script.mem_states_bind.1 hu with hu | hu
    · obtain ⟨hg, hc⟩ := states_releaseShares hq h hu
      exact hg ▸ hc
    · simp only [hrun] at hu
      split at hu
      · rename_i hnil
        subst hnil
        rcases Script.mem_states_bind.1 hu with hu | hu
        · rcases List.mem_cons.1 hu with rfl | hu
          · exact h.removal hp.partly
          · obtain rfl := List.mem_singleton.1 hu
            exact h.erase hf (hp.wholly rfl)
        · obtain rfl := Script.mem_states_done.1 hu
          exact h.erase hf (hp.wholly rfl)
      · obtain rfl := Script.mem_states_done.1 hu
        exact h.removal hp.partly

theorem states_releaseStale (hq : site.world.Quiet)
    (h : Covered site.grants site.world.store.specs)
    (hu : u ∈ (releaseStale World.services config key next).states site) :
    Covered u.grants u.world.store.specs := by
  replace hu := Script.mem_states_read_bind.1 hu
  cases hf : site.grants.find? key with
  | none =>
    rw [hf] at hu
    obtain rfl := Script.mem_states_done.1 hu
    exact h
  | some previous =>
    rw [hf] at hu
    obtain ⟨hg, hc⟩ := states_releaseShares hq h hu
    exact hg ▸ hc

/-- Until a grant is recorded the store is covered by the table as it was, or already by the one
that records it. -/
theorem states_settleGrant (hc : next.Complete) (hq : site.world.Quiet)
    (h : Covered site.grants site.world.store.specs)
    (hu : u ∈ (settleGrant World.services config key next).states site) :
    Covered u.grants u.world.store.specs ∨
      Covered (u.grants.insert key next) u.world.store.specs := by
  obtain ⟨stale, elapsed, between, hrun, hstale, hqb⟩ :=
    run_releaseStale World.services_serve config key next hq
  rcases Script.mem_states_bind.1 hu with hu | hu
  · exact .inl (states_releaseStale hq h hu)
  simp only [hrun] at hu
  split at hu
  · obtain rfl := Script.mem_states_done.1 hu
    exact .inl (h.removal hstale.partly)
  rename_i hnil
  obtain rfl : stale = [] := Decidable.byContradiction hnil
  -- all that is stale has gone, so from here on the next table covers the store
  have hb : Covered (site.grants.insert key next) between.store.specs :=
    h.replace hc (hstale.wholly rfl)
  obtain ⟨failures, elapsed', world, hgrant, hp, -⟩ := run_grantShares World.services_serve config
    next.node (Shares.distinct_ofContainers next.containers) { site with world := between } hqb
  rcases Script.mem_states_bind.1 hu with hu | hu
  · obtain ⟨w, hw, rfl⟩ := mem_states_onWorld.1 hu
    exact .inr (World.states_addEach hqb hb hw)
  have hw : Covered (site.grants.insert key next) world.store.specs := hb.adding hp.partly
  have hrecord := run_recordGrant hc key { site with world }
  simp only [hgrant] at hu
  rcases Script.mem_states_bind.1 hu with hu | hu
  · rcases Script.mem_states_modifyGet.1 hu with rfl | hu
    · exact .inr hw
    · -- and here it is the table
      obtain rfl := hu.trans (congrArg Ran.state hrecord)
      exact .inl hw
  · rw [hrecord] at hu
    obtain rfl := Script.mem_states_done.1 hu
    exact .inl hw

end Site

/-- The grant that a reconcile of the pod finds, if it is to make one. -/
def Site.computed (site : Site World) (config : ReconcileConfig) (key : PodKey) : Option Grant :=
  match ((survey World.services config key).run.run site.world).value with
  | .ok (.grant next) => some next
  | _ => none

section Run

variable {site u : Site World} {config : ReconcileConfig} {key : PodKey} {intent : Intent}
  {history : List Episode} {underway : Option (PodKey × Grant)}

/-- The states that a reconcile goes through that nothing disturbs. -/
def Site.moments (site : Site World) (config : ReconcileConfig) (key : PodKey) :
    List (Site World) :=
  (PowerGrant.reconcile World.services config key).states site

/-- A survey leaves the store as it is, at every moment. -/
theorem states_survey {w v : World} (hv : v ∈ (survey World.services config key).run.states w) :
    v.store = w.store := by
  have hw : w.Called w ∧ w.store = w.store := ⟨.refl w, rfl⟩
  have h := survey_safe (asking_called w) config key w hw
  exact (h.states (fun _ => rfl) hw (fun _ _ hs => hs.2) v hv).2

/-- At every moment of a reconcile the store is covered by the table, or by the table in which the
grant that the reconcile has found is recorded. -/
theorem Reached.covered_during (h : Reached history site) (hu : u ∈ site.moments config key) :
    Covered u.grants u.world.store.specs ∨
      ∃ next, site.computed config key = some next ∧
        Covered (u.grants.insert key next) u.world.store.specs := by
  obtain ⟨hcalled, hstore, hcomplete⟩ := run_survey config key site.world
  have hfound : Covered site.grants
      ((survey World.services config key).run.run site.world).state.store.specs := by
    rw [hstore]
    exact h.covered
  rcases Script.mem_states_bind.1 hu with hu | hu
  · obtain ⟨w, hw, rfl⟩ := mem_states_onWorld.1 hu
    refine .inl ?_
    show Covered site.grants w.store.specs
    rw [states_survey hw]
    exact h.covered
  · simp only [run_onWorld] at hu
    have hq := hcalled.quiet h.quiet
    cases hv : ((survey World.services config key).run.run site.world).value with
    | error e =>
      rw [hv] at hu
      obtain rfl := Script.mem_states_done.1 hu
      exact .inl hfound
    | ok intent =>
      rw [hv] at hu
      cases intent with
      | skip reason =>
        obtain rfl := Script.mem_states_done.1 hu
        exact .inl hfound
      | release => exact .inl (states_settleRelease hq hfound hu)
      | grant next =>
        have hnext : site.computed config key = some next := by
          simp [Site.computed, hv]
        exact (states_settleGrant (hcomplete _ hv next rfl) hq hfound hu).imp_right
          fun hc => ⟨next, hnext, hc⟩

/-! ## Claims -/

/-- The moments of runs, between reconciles and in the middle of one, with the grant that a
reconcile under way has found for its pod. -/
inductive Moment : Site World → Option (PodKey × Grant) → Prop
  | between {history : List Episode} {site : Site World} (h : Reached history site) :
    Moment site none
  | during {history : List Episode} {site u : Site World} (config : ReconcileConfig) (key : PodKey)
    (h : Reached history site) (hu : u ∈ site.moments config key) :
    Moment u ((site.computed config key).map (key, ·))

/-- What a pod claims: the grant that is recorded for it, and while its reconcile is under way the
one that this has found. -/
def Claims (site : Site World) (underway : Option (PodKey × Grant)) (key : PodKey) (g : Grant) :
    Prop :=
  site.grants.find? key = some g ∨ underway = some (key, g)

/-- At every moment the store is covered by a table that records claims only. -/
theorem Moment.covered (h : Moment u underway) :
    ∃ t : GrantTable, Covered t u.world.store.specs ∧
      ∀ key g, t.find? key = some g → Claims u underway key g := by
  cases h with
  | between h => exact ⟨u.grants, h.covered, fun _ _ hf => .inl hf⟩
  | during config key h hu =>
    rcases h.covered_during hu with hc | ⟨next, hnext, hc⟩
    · exact ⟨u.grants, hc, fun _ _ hf => .inl hf⟩
    · refine ⟨u.grants.insert key next, hc, fun k g hf => ?_⟩
      rw [Table.find?_insert] at hf
      split at hf
      · rename_i hk
        obtain rfl := Option.some.inj hf
        exact .inr (by rw [hnext, hk]; rfl)
      · exact .inl hf

/-- A CPU that is listed for two profiles at some moment is claimed by two pods, by one with each of
them, or a single grant has it with both. So a CPU that only one pod claims is not listed for both
while that pod moves it from one profile to the other, nor after an attempt to do so has failed. -/
theorem Moment.listed_twice {node p q : String} {cpu : CpuId} (h : Moment u underway)
    (hp : u.Lists node p cpu) (hq : u.Lists node q cpu) :
    ((∃ a b g g', a ≠ b ∧ (Claims u underway a g ∧ g.Holds node p cpu) ∧
          Claims u underway b g' ∧ g'.Holds node q cpu) ∨
        ∃ a g, Claims u underway a g ∧ g.Holds node p cpu ∧ g.Holds node q cpu) ∧
      ∀ a, (∀ b g, Claims u underway b g → g.Holds node p cpu ∨ g.Holds node q cpu → b = a) →
        ∃ g, Claims u underway a g ∧ g.Holds node p cpu ∧ g.Holds node q cpu := by
  obtain ⟨t, hc, hclaims⟩ := h.covered
  obtain ⟨a, g, hf, hg⟩ := hc.held p node cpu hp
  obtain ⟨b, g', hf', hg'⟩ := hc.held q node cpu hq
  have hsame : a = b → g = g' := fun hab => Option.some.inj (hf.symm.trans (hab ▸ hf'))
  constructor
  · by_cases hab : a = b
    · exact .inr ⟨a, g, hclaims a g hf, hg, hsame hab ▸ hg'⟩
    · exact .inl ⟨a, b, g, g', hab, ⟨hclaims a g hf, hg⟩, hclaims b g' hf', hg'⟩
  · intro k honly
    have ha : a = k := honly a g (hclaims a g hf) (.inl hg)
    have hb : b = k := honly b g' (hclaims b g' hf') (.inr hg')
    exact ⟨g, ha ▸ hclaims a g hf, hg, hsame (ha.trans hb.symm) ▸ hg'⟩

/-- The sample world in which the second pod asks for another profile. -/
def World.mixed : World :=
  { World.sample [] with
    pods := .ofList [("d/a", Pod.sample "a"),
      ("d/b", { Pod.sample "b" with
        containers :=
          [{ name := "c", requests := .ofList [("cpu", "2"), ("power.example.com/save", "2")] }] })]
    profiles := .ofList [("https://n1:5000",
      .ofList [("perf", { id := some 1 }), ("save", { id := some 2 })])] }

/-- The site with that world after both pods have been reconciled. -/
def Site.mixed : Site World :=
  (((⟨{}, World.mixed⟩ : Site World).reconcile {} ⟨"d", "a"⟩).state.reconcile {} ⟨"d", "b"⟩).state

/-- The CPU that both pods were given is listed for both profiles, and each of them claims it. -/
theorem listed_twice_mixed :
    (Site.mixed.Lists "n1" "perf" 5 ∧ Site.mixed.Lists "n1" "save" 5) ∧
      ∃ a b g g', a ≠ b ∧ (Claims Site.mixed none a g ∧ g.Holds "n1" "perf" 5) ∧
        Claims Site.mixed none b g' ∧ g'.Holds "n1" "save" 5 := by
  have hperf : Site.mixed.world.store.specs (workloadName "perf") =
      some ⟨"perf", [⟨"n1", [4, 5]⟩]⟩ := by decide +kernel
  have hsave : Site.mixed.world.store.specs (workloadName "save") =
      some ⟨"save", [⟨"n1", [5, 6]⟩]⟩ := by decide +kernel
  have hp : Site.mixed.Lists "n1" "perf" 5 :=
    ⟨_, hperf, _, List.mem_singleton.2 rfl, rfl, by decide⟩
  have hq : Site.mixed.Lists "n1" "save" 5 :=
    ⟨_, hsave, _, List.mem_singleton.2 rfl, rfl, by decide⟩
  have hreached : Reached _ Site.mixed :=
    .reconcile {} ⟨"d", "b"⟩
      (.reconcile {} ⟨"d", "a"⟩ (.start (fun _ => rfl) fun _ hf => nomatch hf))
  refine ⟨⟨hp, hq⟩, ((Moment.between hreached).listed_twice hp hq).1.resolve_right ?_⟩
  -- no grant of the table has more than one profile
  have hgrants : ∀ e ∈ Site.mixed.grants.entries, ∀ c ∈ e.2.containers, ∀ c' ∈ e.2.containers,
      c.profile = c'.profile := by decide +kernel
  rintro ⟨a, g, hf | hf, ⟨-, c, hc, hcp, -⟩, -, c', hc', hcq, -⟩
  · have heq := hgrants (a, g) ((Table.mem_entries_iff _ a g).2 hf) c hc c' hc'
    rw [hcp, hcq] at heq
    exact absurd heq (by decide)
  · cases hf

end Run

end PowerGrant
