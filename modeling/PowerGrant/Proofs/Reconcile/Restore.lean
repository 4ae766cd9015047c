import Mathlib.Logic.Relation
import PowerGrant.Proofs.Reconcile.Aggregate
import PowerGrant.Proofs.Reconcile.TakenBack
import PowerGrant.Proofs.Workload.Undo

/-!
# A release restores everything

While a pod runs, what it has may change any number of times. When it goes away in the end,
everything is as if it had never been there: also the order of the other nodes' entries, and which
workloads there are.

What carries the argument is that after each grant the store is the one before the first grant with
the last grant added to it, whatever the pod had in between.

* `Specs.Exact`: sound specs that list what the pods of a table hold.
* `Specs.With`: specs with a grant added. `With.regrant`: another grant takes its place.
  `With.release`: nothing is left of it.
* `release_restores`: any grants to a pod and then its release.
-/

namespace PowerGrant

/-- The specs are sound and list what the pods of a table hold. -/
structure Specs.Exact (t : GrantTable) (S : Specs) : Prop where
  sound : ∀ profile, Spec.Sound profile (S (workloadName profile))
  listed : ∀ profile node cpu,
    Spec.Listed (S (workloadName profile)) node cpu ↔ t.Holds node profile cpu

/-- Specs that are those of `S` with all added that a grant holds. -/
structure Specs.With (g : Grant) (S S' : Specs) : Prop where
  profile : ∀ p, S' (workloadName p) =
    Spec.added p g.node (Shares.cpusOf g.containers p) (S (workloadName p))
  other : ∀ name, (∀ p, name ≠ workloadName p) → S' name = S name

/-- The specs of a store that is the aggregate of a table. -/
theorem Versioned.Aggregates.exact {v : Versioned} {t : GrantTable} (h : v.Aggregates t) :
    Specs.Exact t v.specs := by
  refine ⟨fun profile s hs => ?_, fun profile node cpu => ⟨?_, fun hh => ?_⟩⟩
  · obtain ⟨w, hf, rfl⟩ := Versioned.specs_eq_some hs
    have ha := h.spec profile w hf
    exact ⟨ha.profile_eq, ⟨ha.nodup, fun e he => ⟨ha.cpus_ne_nil e he, ha.rises e he⟩⟩,
      ha.nodes_ne_nil⟩
  · rintro ⟨s, hs, e, he, rfl, hc⟩
    obtain ⟨w, hf, rfl⟩ := Versioned.specs_eq_some hs
    exact ((h.spec profile w hf).cpu_iff e he cpu).1 hc
  · have huses : t.Uses node profile := by
      obtain ⟨key, g, hf, hn, c, hc, hp, -⟩ := hh
      exact ⟨key, g, hf, hn, c, hc, hp⟩
    obtain ⟨w, hf⟩ := (h.exists_iff profile).2 ⟨node, huses⟩
    have ha := h.spec profile w hf
    obtain ⟨e, he, rfl⟩ := List.mem_map.1 ((ha.node_iff node).2 huses)
    exact ⟨w.spec, Versioned.specs_of_find? hf, e, he, rfl, (ha.cpu_iff e he cpu).2 hh⟩

/-- What others hold besides a pod that was recorded last. -/
theorem GrantTable.heldByOther_insert {t : GrantTable} {key : PodKey} {g : Grant}
    {node profile : String} {cpu : CpuId} (hn : t.find? key = none) :
    HeldByOther (t.insert key g) key node profile cpu ↔ t.Holds node profile cpu := by
  rw [heldByOther_insert_self]
  constructor
  · rintro ⟨k, g', -, hf, hh⟩
    exact ⟨k, g', hf, hh⟩
  · rintro ⟨k, g', hf, hh⟩
    have hk : k ≠ key := by
      rintro rfl
      rw [hn] at hf
      cases hf
    exact ⟨k, g', hk, hf, hh⟩

/-! ## Phases on specs with a grant -/

namespace Specs

variable {t : GrantTable} {key : PodKey} {g next : Grant} {S S₁ S₂ S₃ : Specs} {shares : Shares}
  {p : String}

/-- All shares of a grant are added. -/
theorem With.of_wholly (h : Wholly (adding g.node) (Shares.ofContainers g.containers) S S₁) :
    With g S S₁ := by
  refine ⟨fun p => ?_, fun name hn => h.other name fun e _ => hn e.1⟩
  by_cases hp : ∃ c ∈ g.containers, c.profile = p
  · exact h.dealt (p, _) (Shares.mem_ofContainers.2 ⟨hp, rfl⟩)
  · have hnil : Shares.cpusOf g.containers p = [] := List.eq_nil_iff_forall_not_mem.2 fun c hc => by
      obtain ⟨cg, hcg, hcp, -⟩ := Shares.mem_cpusOf.1 hc
      exact hp ⟨cg, hcg, hcp⟩
    rw [hnil, Spec.added_nil]
    refine h.other _ fun e he heq => hp ?_
    rw [workloadName_injective heq]
    exact (Shares.mem_ofContainers.1 he).1

/-- Shares of a grant that are not listed otherwise are taken out: what is left of the grant is
what the shares do not have. -/
theorem With.removal (h : With g S S₁) (hS : Spec.Sound p (S (workloadName p)))
    (hd : shares.Distinct)
    (hs : ∀ cpu, shares.Has p cpu → ¬ Spec.Listed (S (workloadName p)) g.node cpu)
    (hw : Wholly (Specs.removal g.node) shares S₁ S₂) :
    ∃ kept, S₂ (workloadName p) = Spec.added p g.node kept (S (workloadName p)) ∧
      ∀ cpu ∈ kept, cpu ∈ Shares.cpusOf g.containers p ∧ ¬ shares.Has p cpu := by
  by_cases hp : ∃ gone, (p, gone) ∈ shares
  · obtain ⟨gone, hm⟩ := hp
    have hdealt : S₂ (workloadName p) = Spec.removed g.node gone (S₁ (workloadName p)) :=
      hw.dealt _ hm
    rw [h.profile p, Spec.removed_added hS fun cpu hc => hs cpu ⟨gone, hm, hc⟩] at hdealt
    refine ⟨_, hdealt, fun cpu hc => ?_⟩
    obtain ⟨hc, hgone⟩ := List.mem_filter.1 hc
    refine ⟨hc, ?_⟩
    rintro ⟨gone', hm', hc'⟩
    obtain rfl : gone' = gone := congrArg Prod.snd (List.inj_on_of_nodup_map hd hm' hm rfl)
    simp [hc'] at hgone
  · refine ⟨_, (hw.other _ fun e he heq => hp ⟨e.2, ?_⟩).trans (h.profile p),
      fun cpu hc => ⟨hc, ?_⟩⟩
    · rw [workloadName_injective heq]
      exact he
    · rintro ⟨gone, hm, -⟩
      exact hp ⟨gone, hm⟩

/-- The next grant takes the place of the last one. -/
theorem With.regrant (h : With g S S₁) (hS : Exact t S) (hn : t.find? key = none)
    (hw : Wholly (Specs.removal g.node) (Shares.ofStale (t.insert key g) key next) S₁ S₂)
    (ha : Wholly (adding next.node) (Shares.ofContainers next.containers) S₂ S₃) :
    With next S S₃ := by
  have hbefore : GrantTable.before (t.insert key g) key next = g :=
    GrantTable.before_of_find? (by rw [Table.find?_insert, if_pos rfl])
  have hadd := With.of_wholly ha
  refine ⟨fun p => ?_, fun name hname => ?_⟩
  · have hstale : ∀ cpu, (Shares.ofStale (t.insert key g) key next).Has p cpu ↔
        (cpu ∈ Shares.cpusOf g.containers p ∧
          ¬ (g.node = next.node ∧ cpu ∈ Shares.cpusOf next.containers p)) ∧
        ¬ t.Holds g.node p cpu := fun cpu => by
      rw [Shares.ofStale, hbefore, Shares.has_releasable, Shares.has_stale,
        GrantTable.heldByOther_insert hn]
    obtain ⟨kept, hS₂, hkept⟩ := h.removal (hS.sound p) Shares.distinct_ofStale
      (fun cpu hc hl => ((hstale cpu).1 hc).2 ((hS.listed p g.node cpu).1 hl)) hw
    -- what is kept is granted again or listed for others
    have hagain : ∀ cpu ∈ kept, g.node = next.node ∧ cpu ∈ Shares.cpusOf next.containers p ∨
        Spec.Listed (S (workloadName p)) g.node cpu := fun cpu hc => by
      obtain ⟨hcg, hno⟩ := hkept cpu hc
      rw [hS.listed]
      by_contra hnot
      rw [not_or] at hnot
      exact hno ((hstale cpu).2 ⟨⟨hcg, hnot.1⟩, hnot.2⟩)
    rw [hadd.profile p, hS₂]
    by_cases hnode : g.node = next.node
    · rw [← hnode]
      exact Spec.added_added_of_listed (hS.sound p) fun cpu hc => (hagain cpu hc).imp_left And.right
    · rw [Spec.added_of_listed (hS.sound p)]
      exact fun cpu hc => (hagain cpu hc).resolve_left fun hsame => hnode hsame.1
  · rw [hadd.other name hname, hw.other name fun e _ => hname e.1, h.other name hname]

/-- Nothing is left of a grant that is released. -/
theorem With.release (h : With g S S₁) (hS : Exact t S) (hn : t.find? key = none)
    (hw : Wholly (Specs.removal g.node) (Shares.ofRelease (t.insert key g) key g) S₁ S₂) :
    S₂ = S := by
  funext name
  by_cases hname : ∃ p, name = workloadName p
  · obtain ⟨p, rfl⟩ := hname
    have hrelease : ∀ cpu, (Shares.ofRelease (t.insert key g) key g).Has p cpu ↔
        cpu ∈ Shares.cpusOf g.containers p ∧ ¬ t.Holds g.node p cpu := fun cpu => by
      rw [Shares.ofRelease, Shares.has_releasable, Shares.has_ofContainers,
        GrantTable.heldByOther_insert hn]
    obtain ⟨kept, hS₂, hkept⟩ := h.removal (hS.sound p) Shares.distinct_ofRelease
      (fun cpu hc hl => ((hrelease cpu).1 hc).2 ((hS.listed p g.node cpu).1 hl)) hw
    rw [hS₂]
    refine Spec.added_of_listed (hS.sound p) fun cpu hc => ?_
    obtain ⟨hcg, hno⟩ := hkept cpu hc
    rw [hS.listed]
    by_contra hnot
    exact hno ((hrelease cpu).2 ⟨hcg, hnot⟩)
  · have hname : ∀ p, name ≠ workloadName p := fun p hp => hname ⟨p, hp⟩
    rw [hw.other name fun e _ => hname e.1, h.other name hname]

end Specs

/-! ## Reconciles -/

section Run

variable {site site' start : Site World} {key : PodKey} {config : ReconcileConfig} {pod : Pod}
  {entry g : Grant}

/-- A reconcile of a running pod that is applied makes a grant in full. -/
theorem Site.reconcile_grants (hq : site.world.Quiet)
    (hp : site.world.pods.find? key.text = some pod) (hr : pod.standing = .running)
    (happlied : (site.reconcile config key).value = .ok .applied) :
    ∃ (next : Grant) (between : Specs),
      Specs.Wholly (Specs.removal (site.grants.before key next).node)
        (Shares.ofStale site.grants key next) site.world.store.specs between ∧
      Specs.Wholly (Specs.adding next.node) (Shares.ofContainers next.containers) between
        (site.reconcile config key).state.world.store.specs ∧
      (site.reconcile config key).state.grants = site.grants.insert key next := by
  obtain ⟨world, intent, hstore, hfinds, hs⟩ := Site.reconcile_finds hq happlied
  rw [happlied] at hs
  generalize (site.reconcile config key).state = after at hs ⊢
  generalize hresult : (.ok .applied : Result) = result at hs
  cases hfinds with
  | gone hp' => cases hp.symm.trans hp'
  | leaving hp' hl =>
    obtain rfl := Option.some.inj (hp.symm.trans hp')
    cases hr.symm.trans hl
  | unasking hp' hr' hd =>
    cases hs with
    | skipped reason => cases hresult
  | @asking pod' uid node requests next hp' hr' hd hdue =>
    cases hs with
    | stuck hne hp => exact absurd hresult.symm (result_ne_ok hne)
    | @granted next failures between world' hc hstale hadd =>
      have hnil : failures = [] :=
        Decidable.byContradiction fun hne => result_ne_ok hne hresult.symm
      refine ⟨next, between.store.specs, ?_, hadd.wholly hnil, rfl⟩
      rw [← hstore]
      exact hstale.wholly rfl

/-- Without faults a survey finds of a pod on its way out that it is to be released. -/
theorem survey_leaving (config : ReconcileConfig) {w : World} (hc : w.Calm)
    (hp : w.pods.find? key.text = some pod) (hl : pod.standing = .leaving) :
    ((survey World.services config key).run.run w).value = .ok .release := by
  have hget : (World.services.pod key).run w =
      ⟨.ok (some pod), 0, { w with calls := w.calls ++ [⟨.getPod, key.text, .none⟩] }⟩ := by
    rw [show World.services.pod key = World.call ⟨.getPod, key.text, .none⟩ _ from rfl,
      World.run_call hc]
    simp only [hp]
  have hfound : ((bounded config.callTimeout (World.services.pod key)).run w).value =
      .ok (some pod) := by
    rw [World.run_bounded_of_le (by rw [hget]; exact Nat.zero_le _), hget]
    rfl
  show ((((bounded config.callTimeout (World.services.pod key)).bind _).bind _).run w).value = _
  rw [Script.run_bind, Script.run_bind, hfound]
  simp only [Script.run_done, ExceptT.bindCont, hl]
  rfl

/-- A reconcile of a pod on its way out releases it in full if there are no faults. -/
theorem Site.reconcile_releases (site : Site World) (config : ReconcileConfig)
    (hc : site.world.Calm)
    (hp : site.world.pods.find? key.text = some pod) (hl : pod.standing = .leaving)
    (hf : site.grants.find? key = some entry) :
    (site.reconcile config key).value = .ok .applied ∧
      (site.reconcile config key).state.grants = site.grants.erase key ∧
      Specs.Wholly (Specs.removal entry.node) (Shares.ofRelease site.grants key entry)
        site.world.store.specs (site.reconcile config key).state.world.store.specs := by
  obtain ⟨hcalled, hstore, -⟩ := run_survey config key site.world
  have hfound := survey_leaving config hc hp hl
  obtain ⟨outcome, hok⟩ := calm_reconcile config key hc hfound
  rcases (run_reconcile World.services_serve config key hc.quiet).2 with
    ⟨e, hv, -, -⟩ | ⟨intent, hv, hs⟩
  · cases hfound.symm.trans hv
  · obtain rfl := Except.ok.inj (hfound.symm.trans hv)
    replace hs : Settled key _ .release (site.reconcile config key).value
      (site.reconcile config key).state := hs
    replace hok : (site.reconcile config key).value = .ok outcome := hok
    generalize site.reconcile config key = ran at hs hok ⊢
    obtain ⟨result, elapsed, after⟩ := ran
    cases hs with
    | unrecorded hf' => cases hf.symm.trans hf'
    | kept hf' hne hphase => exact absurd hok (result_ne_ok hne)
    | released hf' hphase =>
      obtain rfl := Option.some.inj (hf.symm.trans hf')
      have hw := hphase.wholly rfl
      rw [hstore] at hw
      exact ⟨rfl, rfl, hw⟩

/-- A reconcile by which a running pod is given something, after the world has changed in any way
but for the store, and without faults. -/
inductive Site.Grants (key : PodKey) (site : Site World) : Site World → Prop
  | reconcile {world : World} {pod : Pod} (config : ReconcileConfig)
    (hs : world.store = site.world.store) (hc : world.Calm)
    (hp : world.pods.find? key.text = some pod) (hr : pod.standing = .running)
    (happlied : (Site.reconcile { site with world } config key).value = .ok .applied) :
    Grants key site (Site.reconcile { site with world } config key).state

/-- All that has changed since `start` is that the pod holds `g`. -/
structure Site.Holding (start : Site World) (key : PodKey) (g : Grant) (site : Site World) :
    Prop where
  grants : site.grants = start.grants.insert key g
  specs : Specs.With g start.world.store.specs site.world.store.specs

/-- The first grant. -/
theorem Site.Grants.first (h : Site.Grants key start site) (hn : start.grants.find? key = none) :
    ∃ g, start.Holding key g site := by
  obtain ⟨config, hs, hc, hp, hr, happlied⟩ := h
  obtain ⟨next, between, hstale, hadd, hgrants⟩ :=
    Site.reconcile_grants hc.quiet hp hr happlied
  have hnil : Shares.ofStale start.grants key next = [] := by
    rw [Shares.ofStale, GrantTable.before_of_not_found hn]
    rfl
  rw [hnil, hs] at hstale
  rw [hstale.eq_of_nil] at hadd
  exact ⟨next, hgrants, .of_wholly hadd⟩

/-- The grants after it. -/
theorem Site.Holding.next (h : start.Holding key g site)
    (hS : Specs.Exact start.grants start.world.store.specs)
    (hn : start.grants.find? key = none) (hg : Site.Grants key site site') :
    ∃ g', start.Holding key g' site' := by
  obtain ⟨config, hs, hc, hp, hr, happlied⟩ := hg
  obtain ⟨next, between, hstale, hadd, hgrants⟩ :=
    Site.reconcile_grants hc.quiet hp hr happlied
  have hbefore : GrantTable.before (start.grants.insert key g) key next = g :=
    GrantTable.before_of_find? (by rw [Table.find?_insert, if_pos rfl])
  rw [h.grants, hbefore, hs] at hstale
  refine ⟨next, ?_, h.specs.regrant hS hn hstale hadd⟩
  rw [hgrants, h.grants]
  refine Table.ext_find? fun k => ?_
  simp only [Table.find?_insert]
  split <;> rfl

/-- After any grants to a pod without a record, it holds something, and nothing else has changed. -/
theorem Site.Grants.holding (hS : Specs.Exact start.grants start.world.store.specs)
    (hn : start.grants.find? key = none) (h : Relation.TransGen (Site.Grants key) start site) :
    ∃ g, start.Holding key g site := by
  induction h with
  | single hg => exact hg.first hn
  | tail _ hg ih =>
    obtain ⟨g, hh⟩ := ih
    exact hh.next hS hn hg

/-- Where the store is the aggregate of the table, a pod without a record may be given anything any
number of times: once it is released, the table and all specs stored are what they were. -/
theorem release_restores (config : ReconcileConfig) {world : World}
    (ha : start.world.store.Aggregates start.grants) (hn : start.grants.find? key = none)
    (h : Relation.TransGen (Site.Grants key) start site) (hs : world.store = site.world.store)
    (hc : world.Calm) (hp : world.pods.find? key.text = some pod)
    (hl : pod.standing = .leaving) :
    let ran := Site.reconcile { site with world } config key
    ran.value = .ok .applied ∧ ran.state.grants = start.grants ∧
      ran.state.world.store.specs = start.world.store.specs := by
  obtain ⟨g, hgrants, hwith⟩ := Site.Grants.holding ha.exact hn h
  have hf : site.grants.find? key = some g := by
    rw [hgrants, Table.find?_insert, if_pos rfl]
  have hran := Site.reconcile_releases { site with world } config hc hp hl hf
  dsimp only at hran ⊢
  generalize Site.reconcile { site with world } config key = ran at hran ⊢
  rw [hgrants, hs] at hran
  obtain ⟨hvalue, herase, hrelease⟩ := hran
  refine ⟨hvalue, ?_, hwith.release ha.exact hn hrelease⟩
  rw [herase]
  refine Table.ext_find? fun k => ?_
  rw [Table.find?_erase, Table.find?_insert]
  split
  · rename_i hk
    rw [hk, hn]
  · rfl

/-- The sample site after the second pod has been reconciled. -/
def Site.second : Site World := ((Site.sample []).reconcile {} ⟨"d", "b"⟩).state

/-- The site with other CPUs for the first pod, and with that pod as given. -/
def Site.withPod (site : Site World) (cpus : String) (pod : Pod) : Site World :=
  { site with
    world := { site.world with
      addresses := site.world.addresses.insert "n2" "https://n1:5000"
      cpus := site.world.cpus.insert "d/a/c" cpus
      pods := site.world.pods.insert "d/a" pod } }

/-- The site after the first pod was given CPUs too. -/
def Site.joined : Site World :=
  ((Site.second.withPod "4-5" (Pod.sample "a")).reconcile {} ⟨"d", "a"⟩).state

/-- The site after it was given others on another node. -/
def Site.wandered : Site World :=
  ((Site.joined.withPod "6-7" { Pod.sample "a" with node := some "n2" }).reconcile {}
    ⟨"d", "a"⟩).state

/-- The site with the first pod on its way out after that. -/
def Site.parting : Site World := Site.wandered.withPod "" { Pod.sample "a" with deleting := true }

/-- What the first pod was given is gone when it is, also from the node that it has left. -/
theorem release_restores_parting :
    let after := (Site.parting.reconcile {} ⟨"d", "a"⟩).state
    Site.parting.world.store.specs "perf-workload" =
        some ⟨"perf", [⟨"n1", [5, 6]⟩, ⟨"n2", [6, 7]⟩]⟩ ∧
      after.grants = Site.second.grants ∧
      after.world.store.specs = Site.second.world.store.specs := by
  have hsecond : Reached _ Site.second := .reconcile {} ⟨"d", "b"⟩ (reached_sample (by decide))
  have ha : Site.second.world.store.Aggregates Site.second.grants := by
    refine hsecond.aggregates fun key g hf => ?_
    have hkeys : Site.second.grants.keys = [⟨"d", "b"⟩] := by decide +kernel
    have hm : key ∈ Site.second.grants.keys := (Table.mem_keys_iff _ key).2 ⟨g, hf⟩
    rw [hkeys] at hm
    obtain rfl := List.mem_singleton.1 hm
    decide +kernel
  have hcalm (site : Site World) (hf : site.world.faults = []) : site.world.Calm := hf
  have hstays : (Site.second.withPod "4-5" (Pod.sample "a")).world.pods.find? "d/a" =
      some (Pod.sample "a") := by decide +kernel
  have hfirst : Site.Grants ⟨"d", "a"⟩ Site.second Site.joined :=
    .reconcile {} rfl (hcalm _ (by decide +kernel)) hstays (by decide) (by decide +kernel)
  let moved : Pod := { Pod.sample "a" with node := some "n2" }
  have hmoves : (Site.joined.withPod "6-7" moved).world.pods.find? "d/a" = some moved := by
    decide +kernel
  have hthen : Site.Grants ⟨"d", "a"⟩ Site.joined Site.wandered :=
    .reconcile {} rfl (hcalm _ (by decide +kernel)) hmoves (by decide) (by decide +kernel)
  have hleaves : Site.parting.world.pods.find? "d/a" =
      some { Pod.sample "a" with deleting := true } := by decide +kernel
  have hrestored := release_restores {} ha (by decide +kernel) (.tail (.single hfirst) hthen)
    (show Site.parting.world.store = Site.wandered.world.store from rfl)
    (hcalm Site.parting (by decide +kernel)) hleaves (by decide)
  exact ⟨by decide +kernel, hrestored.2⟩

end Run

end PowerGrant
