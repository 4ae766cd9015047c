import Mathlib.Data.List.Nodup
import PowerGrant.Proofs.Reconcile.Runs

/-!
# The store as the aggregate of the table

* `Versioned.Aggregates`: the store says for every profile exactly what the pods of a table hold.
* `Granted`: all that a pod holds is listed in the store. A reconcile that is applied grants its pod
  (`Settled.granted_self`), and no reconcile takes from other pods (`Settled.granted_other`).
* `Reached.aggregates`: when for every pod of the table the last reconcile that called the store was
  applied, the store is the aggregate of the table.
-/

namespace PowerGrant

/-- Some pod of the table on `node` has a container with `profile`. -/
def GrantTable.Uses (t : GrantTable) (node profile : String) : Prop :=
  ∃ key g, t.find? key = some g ∧ g.node = node ∧ ∃ c ∈ g.containers, c.profile = profile

/-- The spec says for a profile what the pods of a table hold with it. -/
structure Spec.AggregateOf (s : Spec) (t : GrantTable) (profile : String) : Prop where
  profile_eq : s.profile = profile
  /-- Each node has one entry at most, -/
  nodup : (s.nodes.map NodeEntry.node).Nodup
  /-- and those have one on which a pod uses the profile. -/
  node_iff : ∀ node, node ∈ s.nodes.map NodeEntry.node ↔ t.Uses node profile
  rises : ∀ e ∈ s.nodes, Rises e.cpus
  cpu_iff : ∀ e ∈ s.nodes, ∀ cpu, cpu ∈ e.cpus ↔ t.Holds e.node profile cpu
  nodes_ne_nil : s.nodes ≠ []
  cpus_ne_nil : ∀ e ∈ s.nodes, e.cpus ≠ []

/-- The store holds for each profile what the pods of a table hold with it, and nothing else. -/
structure Versioned.Aggregates (v : Versioned) (t : GrantTable) : Prop where
  named : ∀ name w, v.find? name = some w → ∃ profile, name = workloadName profile
  exists_iff : ∀ profile,
    (∃ w, v.find? (workloadName profile) = some w) ↔ ∃ node, t.Uses node profile
  spec : ∀ profile w, v.find? (workloadName profile) = some w → w.spec.AggregateOf t profile

/-- All that the pod holds according to the table is listed in the store. -/
def Granted (t : GrantTable) (S : Specs) (key : PodKey) : Prop :=
  ∀ g, t.find? key = some g → ∀ node profile cpu, g.Holds node profile cpu →
    Spec.Listed (S (workloadName profile)) node cpu

/-! ## One reconcile -/

section Settled

variable {t : GrantTable} {S S' : Specs} {key k : PodKey} {node : String} {shares : Shares}
  {site site' : Site World} {intent : Intent} {result : Result}

/-- What is taken out for one pod spares what other pods hold. -/
theorem Granted.removal (h : Granted t S k) (hk : k ≠ key)
    (hp : Specs.Partly (Specs.removal node) (Shares.releasable t key node shares) S S') :
    Granted t S' k := by
  intro g hf n profile cpu hg
  refine hp.keeps_listed (h g hf n profile cpu hg) ?_
  rintro rfl hs
  exact (Shares.has_releasable.1 hs).2 ⟨k, g, hk, hf, hg⟩

theorem Granted.adding (h : Granted t S k)
    (hp : Specs.Partly (Specs.adding node) shares S S') : Granted t S' k :=
  fun g hf n profile cpu hg => hp.keeps_listed_adding (h g hf n profile cpu hg)

/-- No reconcile takes from other pods. -/
theorem Settled.granted_other (hs : Settled key site intent result site') (hk : k ≠ key)
    (h : Granted site.grants site.world.store.specs k) :
    Granted site'.grants site'.world.store.specs k := by
  cases hs with
  | skipped reason => exact h
  | unrecorded hf => exact h
  | kept hf hne hp => exact h.removal hk hp.partly
  | released hf hp =>
    intro g hg
    rw [Table.find?_erase, if_neg hk] at hg
    exact h.removal hk hp.partly g hg
  | stuck hne hp => exact h.removal hk hp.partly
  | granted hc hstale hp =>
    intro g hg
    rw [Table.find?_insert, if_neg hk] at hg
    exact (h.removal hk hstale.partly).adding hp.partly g hg

/-- A reconcile that is applied has granted all that the table records for its pod. -/
theorem Settled.granted_self (hs : Settled key site intent result site')
    (hr : result = .ok .applied) : Granted site'.grants site'.world.store.specs key := by
  cases hs with
  | skipped reason => cases hr
  | unrecorded hf => cases hr
  | kept hf hne hp => exact absurd hr (result_ne_ok hne)
  | released hf hp =>
    intro g hg
    rw [Table.find?_erase, if_pos rfl] at hg
    cases hg
  | stuck hne hp => exact absurd hr (result_ne_ok hne)
  | @granted next failures between world hc hstale hp =>
    have hnil : failures = [] := Decidable.byContradiction fun hne => result_ne_ok hne hr
    intro g hg n profile cpu hh
    rw [Table.find?_insert, if_pos rfl] at hg
    obtain rfl := Option.some.inj hg
    obtain ⟨rfl, hc⟩ := Shares.holds_iff_mem_cpusOf.1 hh
    exact (hp.wholly hnil).listed (Shares.has_ofContainers.2 hc)

/-- A reconcile that has not called the store was applied or has changed nothing. -/
theorem Settled.unused (hs : Settled key site intent result site')
    (hu : ¬ site.world.Used site'.world) :
    result = .ok .applied ∨
      site'.grants = site.grants ∧ site'.world.store.specs = site.world.store.specs := by
  cases hs with
  | skipped reason => exact .inr ⟨rfl, rfl⟩
  | unrecorded hf => exact .inr ⟨rfl, rfl⟩
  | kept hf hne hp => exact absurd (hp.used_of_failed hne) hu
  | released hf hp => exact .inl rfl
  | stuck hne hp => exact absurd (hp.used_of_failed hne) hu
  | granted hc hstale hp =>
    have hused := hp.used (Shares.ofContainers_ne_nil hc.containers)
    exact absurd (hused.earlier hstale.called hp.called) hu

end Settled

/-! ## Whole runs -/

/-- Whether the reconcile made a call to the store. -/
def Episode.usesStore (e : Episode) : Bool := e.calls.any fun c => c.method.onStore

/-- How the last reconcile of a pod ended that made a call to the store. -/
def lastUse (history : List Episode) (key : PodKey) : Option Result :=
  (history.find? fun e => e.key = key && e.usesStore).map Episode.result

section Runs

variable {history : List Episode} {site : Site World} {config : ReconcileConfig} {key k : PodKey}

theorem Site.usesStore_iff :
    (site.episode config key).usesStore = true ↔
      site.world.Used (site.reconcile config key).state.world := by
  simp [Episode.usesStore, Site.episode, World.Used]

theorem lastUse_other (h : k ≠ key) :
    lastUse (site.episode config key :: history) k = lastUse history k := by
  have hk : (site.episode config key).key ≠ k := fun he => h he.symm
  simp [lastUse, hk]

theorem lastUse_unused (h : ¬ site.world.Used (site.reconcile config key).state.world) :
    lastUse (site.episode config key :: history) k = lastUse history k := by
  rw [← Site.usesStore_iff, Bool.not_eq_true] at h
  simp [lastUse, h]

theorem lastUse_used (h : site.world.Used (site.reconcile config key).state.world) :
    lastUse (site.episode config key :: history) key =
      some (site.reconcile config key).value := by
  rw [← Site.usesStore_iff] at h
  have hk : (site.episode config key).key = key := rfl
  simp [lastUse, h, hk]
  rfl

/-- In every run all that a pod holds is listed once its last use of the store was applied. -/
theorem Reached.granted (h : Reached history site)
    (hk : lastUse history k = some (.ok .applied)) :
    Granted site.grants site.world.store.specs k := by
  induction h with
  | start hs hq => cases hk
  | change h hs hq ih =>
    show Granted _ (Versioned.specs _) _
    rw [hs]
    exact ih hk
  | @reconcile history site config key h ih =>
    obtain ⟨world, hcalled, hstore, hend⟩ := site.reconcile_cases config key h.quiet
    have hsurveyed (hg : Granted site.grants site.world.store.specs k) :
        Granted site.grants world.store.specs k := by
      rw [hstore]
      exact hg
    rcases hend with ⟨e, hv, hs⟩ | ⟨intent, hs⟩
    · -- the survey failed, so that nothing has changed; if it used the store it was not applied
      have hlast : lastUse history k = some (.ok .applied) := by
        by_cases hkey : k = key
        · subst hkey
          by_cases hu : site.world.Used (site.reconcile config k).state.world
          · rw [lastUse_used hu, hv] at hk
            cases hk
          · rwa [lastUse_unused hu] at hk
        · rwa [lastUse_other hkey] at hk
      rw [hs]
      exact hsurveyed (ih hlast)
    · by_cases hkey : k = key
      · subst hkey
        by_cases hu : site.world.Used (site.reconcile config k).state.world
        · rw [lastUse_used hu] at hk
          exact hs.granted_self (Option.some.inj hk)
        · rw [lastUse_unused hu] at hk
          rcases hs.unused fun hused => hu (hused.earlier hcalled hs.called) with hr | ⟨ht, hS⟩
          · exact hs.granted_self hr
          · rw [ht, hS]
            exact hsurveyed (ih hk)
      · rw [lastUse_other hkey] at hk
        exact hs.granted_other hkey (hsurveyed (ih hk))

/-! ## The aggregate -/

/-- In a table of complete grants a profile is used where CPUs are held with it. -/
theorem GrantTable.uses_iff {t : GrantTable} (hc : ∀ key g, t.find? key = some g → g.Complete)
    {node profile : String} : t.Uses node profile ↔ ∃ cpu, t.Holds node profile cpu := by
  constructor
  · rintro ⟨key, g, hf, hn, c, hm, hp⟩
    obtain ⟨cpu, hcpu⟩ := List.exists_mem_of_ne_nil _ ((hc key g hf).cpus c hm)
    exact ⟨cpu, key, g, hf, hn, c, hm, hp, hcpu⟩
  · rintro ⟨cpu, key, g, hf, hn, c, hm, hp, -⟩
    exact ⟨key, g, hf, hn, c, hm, hp⟩

/-- In a well-formed spec the CPUs of an entry are those listed for its node. -/
theorem NodeEntry.listed_iff {es : List NodeEntry} (hd : (es.map NodeEntry.node).Nodup)
    {e : NodeEntry} (he : e ∈ es) (cpu : CpuId) : Listed es e.node cpu ↔ cpu ∈ e.cpus := by
  constructor
  · rintro ⟨f, hf, hn, hc⟩
    rwa [← List.inj_on_of_nodup_map hd hf he hn]
  · exact fun hc => ⟨e, he, rfl, hc⟩

/-- A store that is covered by the table and in which all pods are granted is its aggregate. -/
theorem Covered.aggregates_of_granted {v : Versioned} {t : GrantTable} (hc : Covered t v.specs)
    (hg : ∀ key g, t.find? key = some g → Granted t v.specs key) : v.Aggregates t := by
  have hlisted : ∀ profile node cpu,
      Spec.Listed (v.specs (workloadName profile)) node cpu ↔ t.Holds node profile cpu :=
    fun profile node cpu =>
      ⟨hc.held profile node cpu, fun ⟨key, g, hk, hh⟩ => hg key g hk g hk node profile cpu hh⟩
  refine ⟨fun name w hf => hc.named name ?_, fun profile => ?_, fun profile w hf => ?_⟩
  · rw [Versioned.specs_of_find? hf]
    exact Option.some_ne_none _
  · simp only [GrantTable.uses_iff hc.complete, ← hlisted]
    constructor
    · rintro ⟨w, hf⟩
      have hs := Versioned.specs_of_find? hf
      obtain ⟨-, ⟨-, hw⟩, hne⟩ := hc.sound profile _ hs
      obtain ⟨e, he⟩ := List.exists_mem_of_ne_nil _ hne
      obtain ⟨cpu, hcpu⟩ := List.exists_mem_of_ne_nil _ (hw e he).1
      exact ⟨e.node, cpu, w.spec, hs, e, he, rfl, hcpu⟩
    · rintro ⟨node, cpu, s, hs, -⟩
      obtain ⟨w, hf, -⟩ := Versioned.specs_eq_some hs
      exact ⟨w, hf⟩
  · have hs := Versioned.specs_of_find? hf
    obtain ⟨hp, ⟨hd, hw⟩, hne⟩ := hc.sound profile _ hs
    have hnodes : ∀ node cpu,
        NodeEntry.Listed w.spec.nodes node cpu ↔ t.Holds node profile cpu := by
      intro node cpu
      rw [← hlisted, hs, Spec.listed_some]
    refine ⟨hp, hd, fun node => ?_, fun e he => (hw e he).2, fun e he cpu => ?_, hne,
      fun e he => (hw e he).1⟩
    · simp only [GrantTable.uses_iff hc.complete, ← hnodes]
      constructor
      · intro hm
        obtain ⟨e, he, rfl⟩ := List.mem_map.1 hm
        obtain ⟨cpu, hcpu⟩ := List.exists_mem_of_ne_nil _ (hw e he).1
        exact ⟨cpu, e, he, rfl, hcpu⟩
      · rintro ⟨cpu, e, he, rfl, -⟩
        exact List.mem_map_of_mem he
    · rw [← hnodes, NodeEntry.listed_iff hd he]

/-- When for every pod of the table the last reconcile that called the store was applied, the store
says exactly what the pods of the table hold. -/
theorem Reached.aggregates (h : Reached history site)
    (happlied : ∀ key g, site.grants.find? key = some g →
      lastUse history key = some (.ok .applied)) :
    site.world.store.Aggregates site.grants :=
  h.covered.aggregates_of_granted fun key g hf => h.granted (happlied key g hf)

/-- Two pods that share a CPU make one entry, in which the CPU stands once. -/
theorem aggregates_both :
    Site.both.world.store.specs "perf-workload" = some ⟨"perf", [⟨"n1", [4, 5, 6]⟩]⟩ ∧
      Site.both.world.store.Aggregates Site.both.grants := by
  refine ⟨by decide +kernel, ?_⟩
  have h : Reached _ Site.both :=
    .reconcile {} ⟨"d", "b"⟩ (.reconcile {} ⟨"d", "a"⟩ (reached_sample (by decide)))
  refine h.aggregates fun key g hf => ?_
  have hkeys : Site.both.grants.keys = [⟨"d", "a"⟩, ⟨"d", "b"⟩] := by decide +kernel
  have hm : key ∈ Site.both.grants.keys := (Table.mem_keys_iff _ key).2 ⟨g, hf⟩
  rw [hkeys] at hm
  rcases List.mem_cons.1 hm with rfl | hm
  · decide +kernel
  · obtain rfl := List.mem_singleton.1 hm
    decide +kernel

end Runs

end PowerGrant
