import PowerGrant.Proofs.Reconcile.Cases

/-!
# Runs

A run starts with nothing granted and nothing stored. Between its reconciles the world may change in
any way but for the store, and any faults may strike that make no other writer write.

* `Reached`: the sites that a run reaches, with the reconciles that it made.
* `Covered`: every CPU that is listed in the store is held by a pod of the table.
* `Settled.covered`, `Reached.covered`: each reconcile keeps that, so every run does.
-/

namespace PowerGrant

/-- A reconcile of a run. -/
structure Episode where
  key : PodKey
  result : Result
  /-- The calls that it made. -/
  calls : List Call

namespace Site

/-- The run of a reconcile that nothing disturbs. -/
def reconcile (site : Site World) (config : ReconcileConfig) (key : PodKey) :
    Ran (Site World) Result :=
  (PowerGrant.reconcile World.services config key).run site

/-- A reconcile as part of a run. -/
def episode (site : Site World) (config : ReconcileConfig) (key : PodKey) : Episode where
  key := key
  result := (site.reconcile config key).value
  calls := site.world.madeSince (site.reconcile config key).state.world

/-- A CPU is listed for a profile on a node. -/
def Lists (site : Site World) (node profile : String) (cpu : CpuId) : Prop :=
  Spec.Listed (site.world.store.specs (workloadName profile)) node cpu

end Site

/-- The sites that runs reach, with the reconciles made, the last one in front. -/
inductive Reached : List Episode → Site World → Prop
  | start {world : World} (hs : ∀ name, world.store.find? name = none) (hq : world.Quiet) :
    Reached [] ⟨{}, world⟩
  /-- The world changes, with its faults. -/
  | change {history : List Episode} {site : Site World} {world : World} (h : Reached history site)
    (hs : world.store = site.world.store) (hq : world.Quiet) : Reached history { site with world }
  | reconcile {history : List Episode} {site : Site World} (config : ReconcileConfig) (key : PodKey)
    (h : Reached history site) :
    Reached (site.episode config key :: history) (site.reconcile config key).state

/-- The store holds sound workloads of profiles only, and every CPU that they list is held by a pod
of the table. -/
structure Covered (t : GrantTable) (S : Specs) : Prop where
  named : ∀ name, S name ≠ none → ∃ profile, name = workloadName profile
  sound : ∀ profile, Spec.Sound profile (S (workloadName profile))
  held : ∀ profile node cpu, Spec.Listed (S (workloadName profile)) node cpu →
    t.Holds node profile cpu
  complete : ∀ key g, t.find? key = some g → g.Complete

/-! ## What is taken back -/

namespace Shares

variable {t : GrantTable} {key : PodKey} {g next : Grant} {node profile : String} {cpu : CpuId}

/-- A complete grant has no empty share. -/
theorem ne_nil_of_complete (hc : next.Complete) : ∀ e ∈ ofContainers next.containers, e.2 ≠ [] := by
  intro e he
  obtain ⟨⟨c, hm, hcp⟩, he⟩ := mem_ofContainers.1 he
  obtain ⟨cpu, hcpu⟩ := List.exists_mem_of_ne_nil _ (hc.cpus c hm)
  rw [he]
  exact List.ne_nil_of_mem (mem_cpusOf.2 ⟨c, hm, hcp, hcpu⟩)

/-- What a pod holds and no other pod does is taken back with its record. -/
theorem has_ofRelease (hg : g.Holds node profile cpu)
    (hother : ¬ t.HeldByOther key node profile cpu) : (ofRelease t key g).Has profile cpu := by
  obtain ⟨rfl, hc⟩ := holds_iff_mem_cpusOf.1 hg
  exact has_releasable.2 ⟨has_ofContainers.2 hc, hother⟩

/-- What a pod holds, is not to hold any more and no other pod holds is stale. -/
theorem has_ofStale (hf : t.find? key = some g) (hg : g.Holds node profile cpu)
    (hnext : ¬ next.Holds node profile cpu) (hother : ¬ t.HeldByOther key node profile cpu) :
    (ofStale t key next).Has profile cpu := by
  rw [ofStale, GrantTable.before_of_find? hf]
  obtain ⟨rfl, hc⟩ := holds_iff_mem_cpusOf.1 hg
  refine has_releasable.2 ⟨has_stale.2 ⟨hc, fun hkept => hnext ?_⟩, hother⟩
  obtain ⟨hn, hm⟩ := hkept
  exact holds_iff_mem_cpusOf.2 ⟨hn.symm, hm⟩

/-- What is taken back before a grant is what the pod has held and is not to hold any more. -/
theorem held_of_ofStale (h : (ofStale t key next).Has profile cpu) :
    ∃ previous, t.find? key = some previous ∧ previous.Holds previous.node profile cpu ∧
      ¬ next.Holds previous.node profile cpu ∧
      ¬ t.HeldByOther key previous.node profile cpu := by
  obtain ⟨hs, hno⟩ := has_releasable.1 h
  obtain ⟨hc, hnext⟩ := has_stale.1 hs
  cases hf : t.find? key with
  | none =>
    -- a pod without a record holds nothing
    rw [GrantTable.before_of_not_found hf] at hc
    simp at hc
  | some previous =>
    rw [GrantTable.before_of_find? hf] at hc hnext hno
    refine ⟨previous, rfl, holds_iff_mem_cpusOf.2 ⟨rfl, hc⟩, fun hh => hnext ?_, hno⟩
    obtain ⟨hn, hm⟩ := holds_iff_mem_cpusOf.1 hh
    exact ⟨hn.symm, hm⟩

end Shares

/-! ## One reconcile -/

namespace Covered

variable {t : GrantTable} {S S' : Specs} {key : PodKey} {entry next : Grant} {node : String}
  {shares : Shares}

/-- Taking out leaves the store covered by the same table. -/
theorem removal (h : Covered t S) (hp : Specs.Partly (Specs.removal node) shares S S') :
    Covered t S' where
  named name hs := h.named name (hp.ne_none_of_removal hs)
  sound profile := hp.sound_removal (h.sound profile)
  held profile n cpu hl := h.held profile n cpu (hp.listed_of_removal hl)
  complete := h.complete

/-- A record goes away after all was taken back that only its pod held. -/
theorem erase (h : Covered t S) (hf : t.find? key = some entry)
    (hw : Specs.Wholly (Specs.removal entry.node) (Shares.ofRelease t key entry) S S') :
    Covered (t.erase key) S' := by
  have h' := h.removal hw.partly
  refine ⟨h'.named, h'.sound, fun profile n cpu hl => ?_, fun k g hk => ?_⟩
  · rw [GrantTable.holds_erase]
    rcases (h'.held profile n cpu hl).other_or_own key with ho | ⟨g, hg, hh⟩
    · exact ho
    · obtain rfl := Option.some.inj (hf.symm.trans hg)
      obtain rfl := hh.1
      exact Classical.byContradiction fun hno =>
        hw.not_listed (h.sound profile).oneEntry (Shares.has_ofRelease hh hno) hl
  · rw [Table.find?_erase] at hk
    split at hk
    · cases hk
    · exact h.complete k g hk

/-- A pod that has kept nothing of what it is not to hold may be given something else. -/
theorem replace (h : Covered t S) (hc : next.Complete)
    (hw : Specs.Wholly (Specs.removal (t.before key next).node) (Shares.ofStale t key next) S S') :
    Covered (t.insert key next) S' := by
  have h' := h.removal hw.partly
  refine ⟨h'.named, h'.sound, fun profile n cpu hl => ?_, fun k g hk => ?_⟩
  · rw [GrantTable.holds_insert]
    rcases (h'.held profile n cpu hl).other_or_own key with ho | ⟨g, hg, hh⟩
    · exact .inr ho
    · have hnode : (t.before key next).node = n := by
        rw [GrantTable.before_of_find? hg]
        exact hh.1
      rw [hnode] at hw
      refine Classical.byContradiction fun hno => ?_
      obtain ⟨hnext, hother⟩ := not_or.1 hno
      exact hw.not_listed (h.sound profile).oneEntry (Shares.has_ofStale hg hh hnext hother) hl
  · rw [Table.find?_insert] at hk
    split at hk
    · exact Option.some.inj hk ▸ hc
    · exact h.complete k g hk

/-- What is added for a pod is covered by a table that records it. -/
theorem adding (h : Covered (t.insert key next) S)
    (hp : Specs.Partly (Specs.adding next.node) (Shares.ofContainers next.containers) S S') :
    Covered (t.insert key next) S' where
  named name hs := (hp.ne_none_of_adding hs).elim (h.named name) id
  sound profile := by
    have hc : next.Complete := h.complete key next (by rw [Table.find?_insert, if_pos rfl])
    exact hp.sound_adding (Shares.ne_nil_of_complete hc) (h.sound profile)
  held profile n cpu hl := by
    rcases hp.listed_of_adding hl with hl | ⟨rfl, hs⟩
    · exact h.held profile n cpu hl
    · rw [GrantTable.holds_insert]
      exact .inl (Shares.holds_iff_mem_cpusOf.2 ⟨rfl, Shares.has_ofContainers.1 hs⟩)
  complete := h.complete

end Covered

variable {site site' : Site World} {key : PodKey} {intent : Intent} {result : Result}
  {history : List Episode} {config : ReconcileConfig}

/-- Carrying out an intent keeps the store covered, whatever fails. -/
theorem Settled.covered (hs : Settled key site intent result site')
    (h : Covered site.grants site.world.store.specs) :
    Covered site'.grants site'.world.store.specs := by
  cases hs with
  | skipped reason => exact h
  | unrecorded hf => exact h
  | kept hf hne hp => exact h.removal hp.partly
  | released hf hp => exact h.erase hf (hp.wholly rfl)
  | stuck hne hp => exact h.removal hp.partly
  | granted hc hstale hp => exact (h.replace hc (hstale.wholly rfl)).adding hp.partly

theorem Settled.called (hs : Settled key site intent result site') :
    site.world.Called site'.world := by
  cases hs with
  | skipped reason => exact .refl _
  | unrecorded hf => exact .refl _
  | kept hf hne hp => exact hp.called
  | released hf hp => exact hp.called
  | stuck hne hp => exact hp.called
  | granted hc hstale hp => exact hstale.called.trans hp.called

/-- A reconcile carries out what its survey has found, on the site that the survey has left. -/
theorem Site.reconcile_found {intent : Intent} {config : ReconcileConfig} {key : PodKey}
    (hv : ((survey World.services config key).run.run site.world).value = .ok intent) :
    let ran := (settle World.services config key intent).run
      { site with world := ((survey World.services config key).run.run site.world).state }
    (site.reconcile config key).value = ran.value ∧
      (site.reconcile config key).state = ran.state := by
  simp only [Site.reconcile, PowerGrant.reconcile, Script.run_bind, run_onWorld, hv, and_self]

/-- A reconcile either fails in its survey, or carries out an intent on a site of which only the
calls and faults are other than before. -/
theorem Site.reconcile_cases (config : ReconcileConfig) (key : PodKey) (hq : site.world.Quiet) :
    ∃ world : World, site.world.Called world ∧ world.store = site.world.store ∧
      ((∃ e, (site.reconcile config key).value = .error e ∧
          (site.reconcile config key).state = { site with world }) ∨
        ∃ intent, Settled key { site with world } intent (site.reconcile config key).value
          (site.reconcile config key).state) := by
  obtain ⟨hcalled, hstore, -⟩ := run_survey config key site.world
  refine ⟨_, hcalled, hstore, ?_⟩
  rcases (run_reconcile World.services_serve config key hq).2 with
    ⟨e, -, hv, hs⟩ | ⟨intent, -, hs⟩
  · exact .inl ⟨e, hv, hs⟩
  · exact .inr ⟨intent, hs⟩

theorem Site.called_reconcile (config : ReconcileConfig) (key : PodKey) (hq : site.world.Quiet) :
    site.world.Called (site.reconcile config key).state.world := by
  obtain ⟨world, hcalled, -, ⟨e, -, hs⟩ | ⟨intent, hs⟩⟩ := site.reconcile_cases config key hq
  · rw [hs]
    exact hcalled
  · exact hcalled.trans hs.called

/-! ## Whole runs -/

theorem Reached.quiet (h : Reached history site) : site.world.Quiet := by
  induction h with
  | start hs hq => exact hq
  | change h hs hq ih => exact hq
  | reconcile config key h ih => exact (Site.called_reconcile config key ih).quiet ih

/-- In every run the store lists only CPUs that some pod of the table holds. -/
theorem Reached.covered (h : Reached history site) :
    Covered site.grants site.world.store.specs := by
  induction h with
  | start hs hq =>
    have hnone : ∀ name, Versioned.specs _ name = none := fun name =>
      Versioned.specs_of_not_found (hs name)
    refine ⟨fun name hne => absurd (hnone name) hne, fun profile => ?_,
      fun profile n cpu hl => ?_, fun k g hk => nomatch hk⟩
    · rw [hnone]
      exact Spec.sound_none
    · rw [hnone] at hl
      exact absurd hl Spec.not_listed_none
  | change h hs hq ih =>
    show Covered _ (Versioned.specs _)
    rw [hs]
    exact ih
  | @reconcile history site config key h ih =>
    obtain ⟨world, -, hstore, ⟨e, -, hs⟩ | ⟨intent, hs⟩⟩ := site.reconcile_cases config key h.quiet
    · rw [hs]
      show Covered _ world.store.specs
      rw [hstore]
      exact ih
    · refine hs.covered ?_
      show Covered _ world.store.specs
      rw [hstore]
      exact ih

/-- Nothing is left behind in the store, whatever failed: each of its records is the workload of a
profile, and each CPU that it lists for a node is held there with that profile by a pod of the
table, so that a release can take it back. -/
theorem Reached.no_orphan (h : Reached history site) (name : String) (w : Workload)
    (hf : site.world.store.find? name = some w) :
    ∃ profile, name = workloadName profile ∧ w.spec.profile = profile ∧
      ∀ node cpu, NodeEntry.Listed w.spec.nodes node cpu → site.grants.Holds node profile cpu := by
  have hcov := h.covered
  have hs : site.world.store.specs name = some w.spec := Versioned.specs_of_find? hf
  obtain ⟨profile, rfl⟩ := hcov.named name (by rw [hs]; exact Option.some_ne_none _)
  refine ⟨profile, rfl, (hcov.sound profile _ hs).1, fun node cpu hl => ?_⟩
  refine hcov.held profile node cpu ?_
  rw [hs]
  exact Spec.listed_some.2 hl

/-- A pod that runs on `n1` and asks for two CPUs of its own with the profile `perf`. -/
def Pod.sample (name : String) : Pod :=
  { ns := some "d", name := some name, uid := some "u", node := some "n1", phase := some "Running",
    qosClass := some "Guaranteed",
    containers :=
      [{ name := "c", requests := .ofList [("cpu", "2"), ("power.example.com/perf", "2")] }] }

/-- A world in which two such pods run and share the CPU 5. -/
def World.sample (faults : List Fault) : World :=
  { pods := .ofList [("d/a", Pod.sample "a"), ("d/b", Pod.sample "b")],
    cpus := .ofList [("d/a/c", "4-5"), ("d/b/c", "5-6")],
    profiles := .ofList [("https://n1:5000", .ofList [("perf", { id := some 1 })])], faults }

/-- A site with that world, on which nothing was granted yet. -/
def Site.sample (faults : List Fault) : Site World := ⟨{}, World.sample faults⟩

theorem reached_sample {faults : List Fault} (h : ∀ f ∈ faults, f.peer = []) :
    Reached [] (Site.sample faults) :=
  .start (fun _ => rfl) h

/-- The site after both pods of the sample have been reconciled. -/
def Site.both : Site World :=
  (((Site.sample []).reconcile {} ⟨"d", "a"⟩).state.reconcile {} ⟨"d", "b"⟩).state

/-- The site after a reconcile in which the workload was created, but the answer came too late. -/
def Site.late : Site World :=
  ((Site.sample [{ method := .createWorkload, delayAfter := 6000 }]).reconcile {} ⟨"d", "a"⟩).state

/-- The CPUs of a workload that was created too late are in the table all the same. -/
theorem no_orphan_late :
    Site.late.world.store.specs "perf-workload" = some ⟨"perf", [⟨"n1", [4, 5]⟩]⟩ ∧
      Site.late.grants.Holds "n1" "perf" 4 := by
  have hw : Site.late.world.store.find? "perf-workload" =
      some ⟨some "perf-workload", some "1", ⟨"perf", [⟨"n1", [4, 5]⟩]⟩⟩ := by decide +kernel
  have h : Reached _ Site.late := .reconcile {} ⟨"d", "a"⟩ (reached_sample (by decide))
  obtain ⟨profile, hn, -, hl⟩ := h.no_orphan _ _ hw
  obtain rfl : "perf" = profile := workloadName_injective hn
  exact ⟨Versioned.specs_of_find? hw, hl "n1" 4 ⟨_, List.mem_singleton.2 rfl, rfl, by decide⟩⟩

end PowerGrant
