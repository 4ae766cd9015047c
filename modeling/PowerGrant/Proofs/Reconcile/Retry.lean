import Mathlib.Data.List.Nodup
import PowerGrant.Proofs.Reconcile.Runs
import PowerGrant.Proofs.World.Losses

/-!
# Retries converge

A reconcile that failed half-way leaves a part of its work behind, and the table may say already
that the work was done. The next one does the rest: what was taken out or added before is done again
without effect. So is what was done and heard to have failed, because its answer was lost.

* `Specs.Partly.trans`, `Specs.Partly.wholly`: going on with a phase is having done it once.
* `Advance`: how far reconciles with one intent have got. `Advance.settle`: another one gets at
  least as far, and to the end if it returns no error.
* `Site.attempt`: a reconcile in which calls fail before they take effect or after it.
* `retries_converge`: any number of attempts and then a reconcile in which nothing goes wrong come to
  what that reconcile alone comes to.
-/

namespace PowerGrant

/-! ## Phases done again -/

namespace Specs

variable {op : Operation} {shares : Shares} {S S' S'' : Specs}

/-- Doing a share's operation twice on its workload is doing it once. -/
def Idempotent (op : Operation) (shares : Shares) (S : Specs) : Prop :=
  ∀ e ∈ shares, op e.1 e.2 (op e.1 e.2 (S (workloadName e.1))) = op e.1 e.2 (S (workloadName e.1))

theorem idempotent_removal {node : String} (h : ∀ name, Spec.OneEntry (S name)) :
    Idempotent (removal node) shares S := fun _ _ => Spec.removed_removed (h _)

theorem idempotent_adding {node : String} : Idempotent (adding node) shares S :=
  fun _ _ => Spec.added_added

/-- A workload is that of one share. -/
theorem eq_of_name (hd : shares.Distinct) {e f : String × List CpuId} (he : e ∈ shares)
    (hf : f ∈ shares) (h : workloadName e.1 = workloadName f.1) : e = f :=
  List.inj_on_of_nodup_map hd he hf (workloadName_injective h)

/-- A phase that is gone on with is still a part of the phase. -/
theorem Partly.trans (hd : shares.Distinct) (hi : Idempotent op shares S)
    (h : Partly op shares S S') (h' : Partly op shares S' S'') : Partly op shares S S'' := by
  intro name
  rcases h' name with hs | ⟨e, he, rfl, hs⟩
  · rw [hs]
    exact h name
  · refine .inr ⟨e, he, rfl, ?_⟩
    rcases h (workloadName e.1) with hs' | ⟨f, hf, hn, hs'⟩
    · rw [hs, hs']
    · obtain rfl := eq_of_name hd he hf hn
      rw [hs, hs', hi e he]

/-- A phase that is gone on with to its end is the whole phase. -/
theorem Partly.wholly (hd : shares.Distinct) (hi : Idempotent op shares S)
    (h : Partly op shares S S') (h' : Wholly op shares S' S'') : Wholly op shares S S'' := by
  constructor
  · intro e he
    rw [h'.dealt e he]
    rcases h (workloadName e.1) with hs | ⟨f, hf, hn, hs⟩
    · rw [hs]
    · obtain rfl := eq_of_name hd he hf hn
      rw [hs, hi e he]
  · intro name hn
    rw [h'.other name hn]
    rcases h name with hs | ⟨e, he, hne, -⟩
    · exact hs
    · exact absurd hne (hn e he)

/-- A whole phase has one outcome. -/
theorem Wholly.unique (h : Wholly op shares S S') (h' : Wholly op shares S S'') : S' = S'' := by
  funext name
  by_cases hn : ∃ e ∈ shares, name = workloadName e.1
  · obtain ⟨e, he, rfl⟩ := hn
    rw [h.dealt e he, h'.dealt e he]
  · have hne : ∀ e ∈ shares, name ≠ workloadName e.1 := fun e he hne => hn ⟨e, he, hne⟩
    rw [h.other name hne, h'.other name hne]

end Specs

/-! ## How far reconciles have got -/

/-- How far reconciles of a pod have got with an intent, from the table `t₀` and the specs `S₀` to
the present ones, and whether that is the end. -/
inductive Advance (key : PodKey) (t₀ : GrantTable) (S₀ : Specs) (t : GrantTable) (S : Specs) :
    Intent → Bool → Prop
  | skipped {reason : SkipReason} (ht : t = t₀) (hs : S = S₀) :
    Advance key t₀ S₀ t S (.skip reason) true
  | unrecorded (hf : t₀.find? key = none) (ht : t = t₀) (hs : S = S₀) :
    Advance key t₀ S₀ t S .release true
  | releasing {entry : Grant} (hf : t₀.find? key = some entry) (ht : t = t₀)
    (hp : Specs.Partly (Specs.removal entry.node) (Shares.ofRelease t₀ key entry) S₀ S) :
    Advance key t₀ S₀ t S .release false
  | released {entry : Grant} (hf : t₀.find? key = some entry) (ht : t = t₀.erase key)
    (hw : Specs.Wholly (Specs.removal entry.node) (Shares.ofRelease t₀ key entry) S₀ S) :
    Advance key t₀ S₀ t S .release true
  | taking {next : Grant} (ht : t = t₀)
    (hp : Specs.Partly (Specs.removal (t₀.before key next).node) (Shares.ofStale t₀ key next)
      S₀ S) :
    Advance key t₀ S₀ t S (.grant next) false
  | granting {next : Grant} {between : Specs} (ht : t = t₀.insert key next)
    (hw : Specs.Wholly (Specs.removal (t₀.before key next).node) (Shares.ofStale t₀ key next)
      S₀ between)
    (hp : Specs.Partly (Specs.adding next.node) (Shares.ofContainers next.containers) between S) :
    Advance key t₀ S₀ t S (.grant next) false
  | granted {next : Grant} {between : Specs} (ht : t = t₀.insert key next)
    (hw : Specs.Wholly (Specs.removal (t₀.before key next).node) (Shares.ofStale t₀ key next)
      S₀ between)
    (hg : Specs.Wholly (Specs.adding next.node) (Shares.ofContainers next.containers) between S) :
    Advance key t₀ S₀ t S (.grant next) true

section Advance

variable {key : PodKey} {t₀ t t' : GrantTable} {S₀ S S' : Specs} {intent : Intent} {next : Grant}
  {site site' : Site World} {result : Result} {whole : Bool}

/-- Before the first reconcile. -/
theorem Advance.start (key : PodKey) (t₀ : GrantTable) (S₀ : Specs) (intent : Intent) :
    ∃ whole, Advance key t₀ S₀ t₀ S₀ intent whole := by
  cases intent with
  | skip reason => exact ⟨true, .skipped rfl rfl⟩
  | release =>
    cases hf : t₀.find? key with
    | none => exact ⟨true, .unrecorded hf rfl rfl⟩
    | some entry => exact ⟨false, .releasing hf rfl .refl⟩
  | grant next => exact ⟨false, .taking rfl .refl⟩

/-- There is one end. -/
theorem Advance.unique (h : Advance key t₀ S₀ t S intent true)
    (h' : Advance key t₀ S₀ t' S' intent true) : t = t' ∧ S = S' := by
  cases h with
  | skipped ht hs =>
    cases h' with
    | skipped ht' hs' => exact ⟨ht.trans ht'.symm, hs.trans hs'.symm⟩
  | unrecorded hf ht hs =>
    cases h' with
    | unrecorded _ ht' hs' => exact ⟨ht.trans ht'.symm, hs.trans hs'.symm⟩
    | released hf' => cases hf.symm.trans hf'
  | released hf ht hw =>
    cases h' with
    | unrecorded hf' => cases hf.symm.trans hf'
    | released hf' ht' hw' =>
      obtain rfl := Option.some.inj (hf.symm.trans hf')
      exact ⟨ht.trans ht'.symm, hw.unique hw'⟩
  | granted ht hw hg =>
    cases h' with
    | granted ht' hw' hg' =>
      obtain rfl := hw.unique hw'
      exact ⟨ht.trans ht'.symm, hg.unique hg'⟩

theorem insert_insert : (t₀.insert key next).insert key next = t₀.insert key next := by
  refine Table.ext_find? fun k => ?_
  simp only [Table.find?_insert]
  split <;> rfl

/-- A pod that is recorded as it is to be has nothing stale. -/
theorem ofStale_insert : Shares.ofStale (t₀.insert key next) key next = [] :=
  Shares.ofStale_of_find? (by rw [Table.find?_insert, if_pos rfl])

theorem Phased.of_nil {op : Specs.Operation} {w w' : World}
    {failures : List (String × CallFault)} (h : Phased op [] w failures w') :
    failures = [] ∧ w'.store.specs = w.store.specs := by
  have hnil : failures = [] := List.eq_nil_iff_forall_not_mem.2 fun f hf => by
    simpa using h.failed f hf
  exact ⟨hnil, (h.wholly hnil).eq_of_nil⟩

/-- The grant is gone on with when all that was stale was taken back before. -/
theorem Advance.grant {between : Specs} {w w' : World} {failures : List (String × CallFault)}
    (ht : t = t₀.insert key next)
    (hw : Specs.Wholly (Specs.removal (t₀.before key next).node) (Shares.ofStale t₀ key next)
      S₀ between)
    (hb : Specs.Partly (Specs.adding next.node) (Shares.ofContainers next.containers) between
      w.store.specs)
    (hp : Phased (Specs.adding next.node) (Shares.ofContainers next.containers) w failures w') :
    ∃ whole, Advance key t₀ S₀ t w'.store.specs (.grant next) whole ∧
      (failures = [] → whole = true) := by
  have hd := Shares.distinct_ofContainers next.containers
  by_cases hne : failures = []
  · exact ⟨true, .granted ht hw (hb.wholly hd Specs.idempotent_adding (hp.wholly hne)),
      fun _ => rfl⟩
  · exact ⟨false, .granting ht hw (hb.trans hd Specs.idempotent_adding hp.partly),
      fun hnil => absurd hnil hne⟩

/-- When the pod was recorded before, nothing is stale and the grant is gone on with. -/
theorem Advance.regrant {between : Specs} {failures : List (String × CallFault)} {mid world : World}
    (ht : site.grants = t₀.insert key next)
    (hw : Specs.Wholly (Specs.removal (t₀.before key next).node) (Shares.ofStale t₀ key next)
      S₀ between)
    (hb : Specs.Partly (Specs.adding next.node) (Shares.ofContainers next.containers) between
      site.world.store.specs)
    (hstale : Phased (Specs.removal (site.grants.before key next).node)
      (Shares.ofStale site.grants key next) site.world [] mid)
    (hp : Phased (Specs.adding next.node) (Shares.ofContainers next.containers) mid failures
      world) :
    ∃ whole, Advance key t₀ S₀ (site.grants.insert key next) world.store.specs (.grant next) whole ∧
      (failures = [] → whole = true) := by
  have hmid : mid.store.specs = site.world.store.specs := by
    rw [ht, ofStale_insert] at hstale
    exact hstale.of_nil.2
  rw [← hmid] at hb
  exact Advance.grant (by rw [ht, insert_insert]) hw hb hp

/-- Another reconcile gets at least as far, and to the end if it returns no error. -/
theorem Advance.settle (hone : ∀ name, Spec.OneEntry (S₀ name))
    (h : Advance key t₀ S₀ site.grants site.world.store.specs intent whole)
    (hs : Settled key site intent result site') :
    ∃ whole', Advance key t₀ S₀ site'.grants site'.world.store.specs intent whole' ∧
      ∀ outcome, result = .ok outcome → whole' = true := by
  cases hs with
  | skipped reason =>
    cases h with
    | skipped ht hs => exact ⟨true, .skipped ht hs, fun _ _ => rfl⟩
  | unrecorded hf =>
    cases h with
    | unrecorded hf' ht hs => exact ⟨true, .unrecorded hf' ht hs, fun _ _ => rfl⟩
    | releasing hf' ht hp =>
      rw [ht, hf'] at hf
      cases hf
    | released hf' ht hw => exact ⟨true, .released hf' ht hw, fun _ _ => rfl⟩
  | kept hf hne hp =>
    cases h with
    | unrecorded hf' ht hs =>
      rw [ht, hf'] at hf
      cases hf
    | releasing hf' ht hp' =>
      rw [ht] at hf hp
      obtain rfl := Option.some.inj (hf'.symm.trans hf)
      exact ⟨false, .releasing hf' ht
        (hp'.trans Shares.distinct_ofRelease (Specs.idempotent_removal hone) hp.partly),
        fun _ hr => absurd hr (result_ne_ok hne)⟩
    | released hf' ht hw =>
      rw [ht, Table.find?_erase, if_pos rfl] at hf
      cases hf
  | released hf hp =>
    cases h with
    | unrecorded hf' ht hs =>
      rw [ht, hf'] at hf
      cases hf
    | releasing hf' ht hp' =>
      rw [ht] at hf hp
      obtain rfl := Option.some.inj (hf'.symm.trans hf)
      exact ⟨true, .released hf' (congrArg (Table.erase · key) ht)
        (hp'.wholly Shares.distinct_ofRelease (Specs.idempotent_removal hone) (hp.wholly rfl)),
        fun _ _ => rfl⟩
    | released hf' ht hw =>
      rw [ht, Table.find?_erase, if_pos rfl] at hf
      cases hf
  | stuck hne hp =>
    cases h with
    | taking ht hp' =>
      rw [ht] at hp
      exact ⟨false, .taking ht
        (hp'.trans Shares.distinct_ofStale (Specs.idempotent_removal hone) hp.partly),
        fun _ hr => absurd hr (result_ne_ok hne)⟩
    | granting ht hw hp' =>
      rw [ht, ofStale_insert] at hp
      exact absurd hp.of_nil.1 hne
    | granted ht hw hg =>
      rw [ht, ofStale_insert] at hp
      exact absurd hp.of_nil.1 hne
  | @granted next failures between world hc hstale hp =>
    have hnone (outcome : Outcome) (hr : Phase.grant.result key failures = .ok outcome) :
        failures = [] := Decidable.byContradiction fun hne => result_ne_ok hne hr
    cases h with
    | taking ht hp' =>
      rw [ht] at hstale
      obtain ⟨whole, ha, hw⟩ := Advance.grant (congrArg (Table.insert · key _) ht)
        (hp'.wholly Shares.distinct_ofStale (Specs.idempotent_removal hone) (hstale.wholly rfl))
        .refl hp
      exact ⟨whole, ha, fun outcome hr => hw (hnone outcome hr)⟩
    | granting ht hw hp' =>
      obtain ⟨whole, ha, hw⟩ := Advance.regrant ht hw hp' hstale hp
      exact ⟨whole, ha, fun outcome hr => hw (hnone outcome hr)⟩
    | granted ht hw hg =>
      obtain ⟨whole, ha, hw⟩ := Advance.regrant ht hw hg.partly hstale hp
      exact ⟨whole, ha, fun outcome hr => hw (hnone outcome hr)⟩

end Advance

/-! ## Worlds in which answers may be lost -/

/-- Nobody else writes, and in no workload a node has two entries. -/
structure World.Orderly (w : World) : Prop where
  quiet : w.Quiet
  oneEntry : ∀ name, Spec.OneEntry (w.store.specs name)

theorem World.Orderly.changed {w t : World} {name : String} {op : Option Spec → Option Spec}
    (hw : w.Orderly) (h : w.Changed name op t)
    (hop : ∀ spec, Spec.OneEntry spec → Spec.OneEntry (op spec)) : t.Orderly := by
  obtain ⟨hc, -, hs⟩ := h
  refine ⟨hc.quiet hw.quiet, fun n => ?_⟩
  rw [hs n]
  split
  · exact hop _ (hw.oneEntry name)
  · exact hw.oneEntry n

/-- With answers that are lost, a change of an orderly world is still made or fails. -/
theorem World.losing_serves (lost : World.Losses) :
    World.Serves (World.servicesOn (World.losing lost)) World.Orderly where
  survey := survey_store services (losing lost)
  add _ _ _ _ _ _ hw := run_add_losing hw.quiet
  remove _ _ _ _ _ _ hw := run_remove_losing hw.quiet (hw.oneEntry _)
  still _ _ hw hc hs := ⟨hc.quiet hw.quiet, hs ▸ hw.oneEntry⟩
  added _ _ _ _ _ hw h := hw.changed h fun _ => Spec.OneEntry.added
  removed _ _ _ _ _ hw h := hw.changed h fun _ => Spec.OneEntry.removed

/-! ## Attempts -/

/-- What goes wrong in an attempt: faults strike its calls, and answers of its writes are lost. -/
structure Mishaps where
  faults : List Fault := []
  lost : World.Losses := fun _ => none

/-- The site with other faults. -/
def Site.withFaults (site : Site World) (faults : List Fault) : Site World :=
  { site with world := { site.world with faults } }

/-- The run of a reconcile among these mishaps. -/
def Site.attempted (config : ReconcileConfig) (key : PodKey) (site : Site World)
    (mishaps : Mishaps) : Ran (Site World) Result :=
  (PowerGrant.reconcile (World.servicesOn (World.losing mishaps.lost)) config key).run
    (site.withFaults mishaps.faults)

/-- The site after a reconcile among these mishaps. -/
def Site.attempt (config : ReconcileConfig) (key : PodKey) (site : Site World)
    (mishaps : Mishaps) : Site World :=
  (site.attempted config key mishaps).state

/-- The site after a reconcile in which nothing goes wrong. -/
def Site.faultless (config : ReconcileConfig) (key : PodKey) (site : Site World) : Site World :=
  ((site.withFaults []).reconcile config key).state

section Attempts

variable {config : ReconcileConfig} {key : PodKey} {site start : Site World} {m : Mishaps}
  {attempts : List Mishaps}

/-- Faults alone are those of the services of the world. -/
theorem Site.attempt_faults (faults : List Fault) :
    site.attempt config key { faults } = ((site.withFaults faults).reconcile config key).state :=
  rfl

/-- What a survey finds that no fault strikes. -/
def Site.found (config : ReconcileConfig) (key : PodKey) (site : Site World) :
    Except ReconcileError Intent :=
  ((survey World.services config key).run.run (site.withFaults []).world).value

/-- A survey among any faults finds nothing else than one without, if it finds something. -/
theorem Site.found_of_survey {faults : List Fault} {intent : Intent}
    (ht : start.world.SameTables site.world)
    (hi : ((survey World.services config key).run.run (site.withFaults faults).world).value =
      .ok intent) : start.found config key = .ok intent :=
  (survey_agrees config key).value (site.withFaults faults).world _ intent ⟨ht.symm.pods,
    ht.symm.addresses, ht.symm.profiles, ht.symm.cpus⟩ (spared_survey config key rfl) hi

/-- An attempt carries out what a survey finds without faults, or returns an error and changes
nothing. -/
theorem Site.attempt_cases (config : ReconcileConfig) (key : PodKey)
    (ht : start.world.SameTables site.world)
    (hone : ∀ name, Spec.OneEntry (site.world.store.specs name))
    (hq : ∀ f ∈ m.faults, f.peer = []) :
    let ran := site.attempted config key m
    ran.state.world.Orderly ∧
      ∃ world : World, site.world.SameTables world ∧ world.store = site.world.store ∧
        ((∃ e, ran.value = .error e ∧ ran.state = { site with world }) ∨
          ∃ intent, start.found config key = .ok intent ∧
            Settled key { site with world } intent ran.value ran.state) := by
  have hw : (site.withFaults m.faults).world.Orderly := ⟨hq, hone⟩
  obtain ⟨hcalled, hstore, -⟩ := run_survey config key (site.withFaults m.faults).world
  obtain ⟨hend, hcases⟩ := run_reconcile (World.losing_serves m.lost) config key hw
  refine ⟨hend, _, ⟨hcalled.tables.pods, hcalled.tables.addresses, hcalled.tables.profiles,
    hcalled.tables.cpus⟩, hstore, ?_⟩
  rcases hcases with ⟨e, -, he, hs⟩ | ⟨intent, hi, hs⟩
  · exact .inl ⟨e, he, hs⟩
  · exact .inr ⟨intent, Site.found_of_survey ht hi, hs⟩

/-- A reconcile in which nothing goes wrong returns no error if there is something to find. -/
theorem Site.faultless_ok {intent : Intent} (ht : start.world.SameTables site.world)
    (hi : start.found config key = .ok intent) :
    ∃ outcome, (site.attempted config key {}).value = .ok outcome := by
  have hfound : site.found config key = .ok intent := Site.found_of_survey ht.symm hi
  exact calm_reconcile config key rfl hfound

/-- How far attempts have got since `start`, and whether that is the end. -/
structure Underway (config : ReconcileConfig) (key : PodKey) (start site : Site World)
    (whole : Bool) : Prop where
  tables : start.world.SameTables site.world
  oneEntry : ∀ name, Spec.OneEntry (site.world.store.specs name)
  advance : (∃ intent, start.found config key = .ok intent ∧
      Advance key start.grants start.world.store.specs site.grants site.world.store.specs intent
        whole) ∨
    (∀ intent, start.found config key ≠ .ok intent) ∧ site.grants = start.grants ∧
      site.world.store.specs = start.world.store.specs

theorem Underway.initial (config : ReconcileConfig) (key : PodKey)
    (hone : ∀ name, Spec.OneEntry (start.world.store.specs name)) :
    ∃ whole, Underway config key start start whole := by
  cases hf : start.found config key with
  | ok intent =>
    obtain ⟨whole, ha⟩ := Advance.start key start.grants start.world.store.specs intent
    exact ⟨whole, .refl _, hone, .inl ⟨intent, hf, ha⟩⟩
  | error e =>
    have hno : ∀ intent, start.found config key ≠ .ok intent := fun intent hi =>
      nomatch hf.symm.trans hi
    exact ⟨true, .refl _, hone, .inr ⟨hno, rfl, rfl⟩⟩

/-- Another attempt gets at least as far, and to the end if it returns no error. -/
theorem Underway.attempt {whole : Bool}
    (hone : ∀ name, Spec.OneEntry (start.world.store.specs name))
    (h : Underway config key start site whole) (hq : ∀ f ∈ m.faults, f.peer = []) :
    ∃ whole', Underway config key start (site.attempt config key m) whole' ∧
      ∀ outcome, (site.attempted config key m).value = .ok outcome → whole' = true := by
  obtain ⟨ht, hsite, hstate⟩ := h
  obtain ⟨hend, world, htables, hstore, hcases⟩ :=
    Site.attempt_cases config key ht hsite hq
  have hspecs : world.store.specs = site.world.store.specs := by rw [hstore]
  rcases hcases with ⟨e, he, hs⟩ | ⟨intent, hi, hs⟩
  · refine ⟨whole, ⟨?_, hend.oneEntry, ?_⟩, fun outcome hr => nomatch he.symm.trans hr⟩
    · rw [Site.attempt, hs]
      exact ht.trans htables
    · rw [Site.attempt, hs, hspecs]
      exact hstate
  · rcases hstate with ⟨intent', hi', ha⟩ | ⟨hno, -, -⟩
    · obtain rfl := Except.ok.inj (hi.symm.trans hi')
      have ha : Advance key start.grants start.world.store.specs site.grants world.store.specs
          intent whole := hspecs.symm ▸ ha
      obtain ⟨whole', ha', hw⟩ := ha.settle hone hs
      exact ⟨whole', ⟨ht.trans (htables.trans hs.called.tables), hend.oneEntry,
        .inl ⟨intent, hi, ha'⟩⟩, hw⟩
    · exact absurd hi (hno intent)

theorem Underway.foldl {whole : Bool}
    (hone : ∀ name, Spec.OneEntry (start.world.store.specs name))
    (h : Underway config key start site whole)
    (hq : ∀ m ∈ attempts, ∀ f ∈ m.faults, f.peer = []) :
    ∃ whole', Underway config key start (attempts.foldl (Site.attempt config key) site) whole' := by
  induction attempts generalizing site whole with
  | nil => exact ⟨whole, h⟩
  | cons m attempts ih =>
    obtain ⟨whole', h', -⟩ := h.attempt hone (hq m List.mem_cons_self)
    exact ih h' fun n hn => hq n (List.mem_cons_of_mem _ hn)

/-- A reconcile in which nothing goes wrong gets to the end. -/
theorem Underway.faultless {whole : Bool}
    (hone : ∀ name, Spec.OneEntry (start.world.store.specs name))
    (h : Underway config key start site whole) :
    Underway config key start (site.faultless config key) true := by
  obtain ⟨whole', h', hw⟩ := h.attempt (m := {}) hone fun f hf => nomatch hf
  rw [Site.attempt_faults] at h'
  cases hf : start.found config key with
  | ok intent =>
    obtain ⟨outcome, hok⟩ := Site.faultless_ok h.tables hf
    exact hw outcome hok ▸ h'
  | error e =>
    refine ⟨h'.tables, h'.oneEntry, .inr ?_⟩
    rcases h'.advance with ⟨intent, hi, -⟩ | hsame
    · exact nomatch hf.symm.trans hi
    · exact hsame

/-- There is one end. -/
theorem Underway.unique {site' : Site World} (h : Underway config key start site true)
    (h' : Underway config key start site' true) :
    site.grants = site'.grants ∧ site.world.store.specs = site'.world.store.specs := by
  rcases h.advance with ⟨intent, hi, ha⟩ | ⟨hno, hg, hS⟩
  · rcases h'.advance with ⟨intent', hi', ha'⟩ | ⟨hno', -, -⟩
    · obtain rfl := Except.ok.inj (hi.symm.trans hi')
      exact ha.unique ha'
    · exact absurd hi (hno' intent)
  · rcases h'.advance with ⟨intent', hi', -⟩ | ⟨-, hg', hS'⟩
    · exact absurd hi' (hno intent')
    · exact ⟨hg.trans hg'.symm, hS.trans hS'.symm⟩

/-- However many reconciles of a pod fail, wherever, and whether the calls that failed have taken
effect or not: one in which nothing goes wrong leaves the table and the specs that it would have
left without them. -/
theorem retries_converge (config : ReconcileConfig) (key : PodKey) (start : Site World)
    (attempts : List Mishaps)
    (hone : ∀ name w, start.world.store.find? name = some w →
      (w.spec.nodes.map NodeEntry.node).Nodup)
    (hq : ∀ m ∈ attempts, ∀ f ∈ m.faults, f.peer = []) :
    let retried := (attempts.foldl (Site.attempt config key) start).faultless config key
    let once := start.faultless config key
    retried.grants = once.grants ∧
      ∀ name, (retried.world.store.find? name).map Workload.spec =
        (once.world.store.find? name).map Workload.spec := by
  have hone : ∀ name, Spec.OneEntry (start.world.store.specs name) := by
    intro name s hs
    obtain ⟨w, hf, rfl⟩ := Versioned.specs_eq_some hs
    exact hone name w hf
  obtain ⟨whole, hstart⟩ := Underway.initial config key hone
  obtain ⟨whole', hattempts⟩ := hstart.foldl hone hq
  obtain ⟨hg, hS⟩ := (hattempts.faultless hone).unique (hstart.faultless hone)
  exact ⟨hg, fun name => congrFun hS name⟩

/-- What goes wrong in three attempts: the workload cannot be created, then it is created and that
is heard to have failed, and then it is read too late. -/
def sampleAttempts : List Mishaps :=
  [{ faults := [{ method := .createWorkload, error := some "down" }] },
    { lost := fun _ => some (.unavailable "no answer") },
    { faults := [{ method := .getWorkload, delay := 6000 }] }]

/-- The site after these attempts and one in which nothing goes wrong. -/
def Site.retried : Site World :=
  (sampleAttempts.foldl (Site.attempt {} ⟨"d", "a"⟩) (Site.sample [])).faultless {} ⟨"d", "a"⟩

/-- The site after one attempt in which nothing goes wrong. -/
def Site.once : Site World := (Site.sample []).faultless {} ⟨"d", "a"⟩

/-- The failed attempts have made no difference. -/
theorem retries_converge_sample :
    Site.retried.grants = Site.once.grants ∧
      (Site.retried.world.store.find? "perf-workload").map Workload.spec =
        some ⟨"perf", [⟨"n1", [4, 5]⟩]⟩ := by
  have hone : ∀ name w, (Site.sample []).world.store.find? name = some w →
      (w.spec.nodes.map NodeEntry.node).Nodup := fun _ _ hf => nomatch hf
  obtain ⟨hg, hs⟩ := retries_converge {} ⟨"d", "a"⟩ (Site.sample []) sampleAttempts hone
    (by decide)
  have honce : (Site.once.world.store.find? "perf-workload").map Workload.spec =
      some ⟨"perf", [⟨"n1", [4, 5]⟩]⟩ := by decide +kernel
  exact ⟨hg, (hs "perf-workload").trans honce⟩

end Attempts

end PowerGrant
