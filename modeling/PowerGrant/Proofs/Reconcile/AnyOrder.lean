import Mathlib.Data.List.Basic
import PowerGrant.Proofs.Reconcile.Runs

/-!
# Pods in any order

Where no call fails, what reconciles leave behind does not depend on the order in which they were
made. Pods share workloads, and what is taken back for one of them depends on what the others hold
at that moment; but which CPUs are listed in the end can be told from the tables of grants before
and after alone.

* `World.finding`: what a survey finds in a world without faults, whatever was reconciled before.
* `Brought`: what the reconciles of some pods come to. `Brought.cons`: one reconcile more.
* `Specs.Becomes`: what reconciles keep of what is stored, beside the CPUs listed.
* `reconcileEach_perm`: the same pods in another order.
-/

namespace PowerGrant

/-! ## What is taken back and added -/

namespace Shares

variable {t : GrantTable} {key : PodKey} {entry next : Grant} {node profile : String} {cpu : CpuId}

/-- A release takes back what nobody holds any more. -/
theorem has_ofRelease_iff (hf : t.find? key = some entry) :
    node = entry.node ∧ (ofRelease t key entry).Has profile cpu ↔
      t.Holds node profile cpu ∧ ¬ GrantTable.Holds (t.erase key) node profile cpu := by
  rw [GrantTable.holds_erase]
  constructor
  · rintro ⟨rfl, hs⟩
    obtain ⟨hc, hno⟩ := has_releasable.1 hs
    exact ⟨⟨key, entry, hf, holds_iff_mem_cpusOf.2 ⟨rfl, has_ofContainers.1 hc⟩⟩, hno⟩
  · rintro ⟨hh, hno⟩
    obtain ⟨g, hg, hh⟩ := (hh.other_or_own key).resolve_left hno
    obtain rfl := Option.some.inj (hf.symm.trans hg)
    obtain rfl := hh.1
    exact ⟨rfl, has_ofRelease hh hno⟩

/-- Before a grant too, what nobody will hold any more is taken back. -/
theorem has_ofStale_iff :
    node = (t.before key next).node ∧ (ofStale t key next).Has profile cpu ↔
      t.Holds node profile cpu ∧ ¬ GrantTable.Holds (t.insert key next) node profile cpu := by
  rw [GrantTable.holds_insert, not_or]
  constructor
  · rintro ⟨rfl, hs⟩
    obtain ⟨g, hf, hh, hnext, hno⟩ := held_of_ofStale hs
    rw [GrantTable.before_of_find? hf]
    exact ⟨⟨key, g, hf, hh⟩, hnext, hno⟩
  · rintro ⟨hh, hnext, hno⟩
    obtain ⟨g, hg, hh⟩ := (hh.other_or_own key).resolve_left hno
    rw [GrantTable.before_of_find? hg]
    exact ⟨hh.1.symm, has_ofStale hg hh hnext hno⟩

end Shares

namespace Specs

variable {shares : Shares} {S S' S'' : Specs} {node profile n : String} {cpu : CpuId}

theorem Wholly.listed_removal_iff (h : Wholly (removal node) shares S S')
    (ho : Spec.OneEntry (S (workloadName profile))) :
    Spec.Listed (S' (workloadName profile)) n cpu ↔
      Spec.Listed (S (workloadName profile)) n cpu ∧ ¬ (n = node ∧ shares.Has profile cpu) := by
  refine ⟨fun hl => ⟨h.partly.listed_of_removal hl, ?_⟩, fun ⟨hl, hk⟩ => ?_⟩
  · rintro ⟨rfl, hs⟩
    exact h.not_listed ho hs hl
  · exact h.partly.keeps_listed hl fun hn hs => hk ⟨hn, hs⟩

theorem Wholly.listed_adding_iff (h : Wholly (adding node) shares S S') :
    Spec.Listed (S' (workloadName profile)) n cpu ↔
      Spec.Listed (S (workloadName profile)) n cpu ∨ n = node ∧ shares.Has profile cpu := by
  refine ⟨h.partly.listed_of_adding, fun hl => ?_⟩
  rcases hl with hl | ⟨rfl, hs⟩
  · exact h.partly.keeps_listed_adding hl
  · exact h.listed hs

/-- All that is stored is well-formed and lists CPUs, for whatever profile. -/
def Tidy (S : Specs) : Prop := ∀ name, ∃ q, Spec.Sound q (S name)

theorem tidy_of_wellFormed (h : ∀ name s, S name = some s → s.WellFormed ∧ s.nodes ≠ []) :
    S.Tidy := by
  intro name
  cases hS : S name with
  | none => exact ⟨"", Spec.sound_none⟩
  | some s =>
    refine ⟨s.profile, fun t ht => ?_⟩
    obtain rfl := Option.some.inj ht
    exact ⟨rfl, h name s hS⟩

/-- Under the name stands the workload of another profile than the one that it is named after. -/
def Misnamed (S : Specs) (name : String) : Prop :=
  ∃ profile s, name = workloadName profile ∧ S name = some s ∧ s.profile ≠ profile

theorem Tidy.sound (h : S.Tidy) (hm : ¬ S.Misnamed (workloadName profile)) :
    Spec.Sound profile (S (workloadName profile)) := by
  obtain ⟨q, hq⟩ := h (workloadName profile)
  intro s hS
  refine ⟨?_, (hq s hS).2⟩
  by_cases hp : s.profile = profile
  · exact hp
  · exact absurd ⟨profile, s, rfl, hS, hp⟩ hm

/-- What stores may become in which the workloads of profiles are changed: each is still that of
the profile that it was of, or of the one that it is named after. -/
structure Becomes (S S' : Specs) : Prop where
  sound : ∀ profile q, Spec.Sound q (S (workloadName profile)) →
    Spec.Sound q (S' (workloadName profile)) ∨ Spec.Sound profile (S' (workloadName profile))
  other : ∀ name, (∀ profile, name ≠ workloadName profile) → S' name = S name

namespace Becomes

theorem refl (S : Specs) : Becomes S S := ⟨fun _ _ h => .inl h, fun _ _ => rfl⟩

theorem trans (h : Becomes S S') (h' : Becomes S' S'') : Becomes S S'' := by
  refine ⟨fun profile q hs => ?_, fun name hn => (h'.other name hn).trans (h.other name hn)⟩
  rcases h.sound profile q hs with hs | hs
  · exact h'.sound profile q hs
  · exact .inr ((h'.sound profile profile hs).elim id id)

theorem removal (h : Partly (removal node) shares S S') : Becomes S S' := by
  refine ⟨fun profile q hs => .inl (h.sound_removal hs), fun name hn => ?_⟩
  exact (h name).resolve_right fun ⟨e, _, he, _⟩ => hn e.1 he

theorem adding (h : Partly (adding node) shares S S') (hne : ∀ e ∈ shares, e.2 ≠ []) :
    Becomes S S' := by
  refine ⟨fun profile q hs => ?_, fun name hn => ?_⟩
  · rcases h (workloadName profile) with hn | ⟨e, he, hp, hn⟩
    · exact .inl (hn ▸ hs)
    · obtain rfl := workloadName_injective hp
      rw [hn]
      cases hS : S (workloadName e.1) with
      | none => exact .inr (Spec.sound_none.added (hne e he))
      | some t =>
        -- what is there keeps its profile
        rw [hS] at hs
        obtain rfl := (hs t rfl).1
        exact .inl (hs.added (hne e he))
  · exact (h name).resolve_right fun ⟨e, _, he, _⟩ => hn e.1 he

theorem tidy (h : Becomes S S') (ht : Tidy S) : Tidy S' := by
  intro name
  obtain ⟨q, hq⟩ := ht name
  by_cases hn : ∃ profile, name = workloadName profile
  · obtain ⟨profile, rfl⟩ := hn
    exact (h.sound profile q hq).elim (⟨_, ·⟩) (⟨_, ·⟩)
  · rw [h.other name fun profile he => hn ⟨profile, he⟩]
    exact ⟨q, hq⟩

/-- What one store may become in two ways is of the same profile. -/
theorem profile_eq {name : String} {s s' : Spec} (h : Becomes S S') (h' : Becomes S S'')
    (ht : Tidy S) (hs : S' name = some s) (hs' : S'' name = some s') :
    s.profile = s'.profile ∨ S.Misnamed name := by
  by_cases hn : ∃ profile, name = workloadName profile
  · obtain ⟨profile, rfl⟩ := hn
    by_cases hm : S.Misnamed (workloadName profile)
    · exact .inr hm
    · have hsound := (h.sound profile profile (ht.sound hm)).elim id id
      have hsound' := (h'.sound profile profile (ht.sound hm)).elim id id
      exact .inl ((hsound s hs).1.trans (hsound' s' hs').1.symm)
  · have hother : ∀ profile, name ≠ workloadName profile := fun profile he => hn ⟨profile, he⟩
    rw [h.other name hother] at hs
    rw [h'.other name hother, hs] at hs'
    exact .inl (congrArg _ (Option.some.inj hs'))

end Becomes

end Specs

/-! ## Some reconciles -/

/-- What a survey comes to. -/
abbrev Finding := Except ReconcileError Intent

namespace Finding

/-- How a reconcile ends in which no call fails, of a pod for which `entry` is recorded. -/
def result (entry : Option Grant) : Finding → Result
  | .error e => .error e
  | .ok (.skip reason) => .ok (.skipped reason)
  | .ok .release => if entry = none then .ok (.skipped .noRecordedGrant) else .ok .applied
  | .ok (.grant _) => .ok .applied

/-- What is recorded for the pod after that. -/
def recorded (entry : Option Grant) : Finding → Option Grant
  | .ok .release => none
  | .ok (.grant next) => some next
  | .error _ | .ok (.skip _) => entry

/-- The pod is given the CPU. -/
def Gives (found : Finding) (node profile : String) (cpu : CpuId) : Prop :=
  ∃ next, found = .ok (.grant next) ∧ next.Holds node profile cpu

/-- What was given to a pod is held while that is what is recorded for it. -/
theorem Gives.holds {found : Finding} {entry : Option Grant} {t : GrantTable} {key : PodKey}
    {node profile : String} {cpu : CpuId} (h : found.Gives node profile cpu)
    (ht : t.find? key = found.recorded entry) : t.Holds node profile cpu := by
  obtain ⟨next, rfl, hh⟩ := h
  exact ⟨key, next, ht, hh⟩

end Finding

/-- What the reconciles of `keys` come to in which no call fails and of which the surveys find what
`found` says. Each CPU is listed that a pod was given, and of the others each that was listed
before, unless it was held then and nobody holds it now. -/
structure Brought (found : PodKey → Finding) (keys : List PodKey) (site : Site World)
    (results : List (PodKey × Result)) (site' : Site World) : Prop where
  called : site.world.Called site'.world
  results : results = keys.map fun key => (key, (found key).result (site.grants.find? key))
  grants : ∀ key, site'.grants.find? key =
    if key ∈ keys then (found key).recorded (site.grants.find? key) else site.grants.find? key
  specs : Specs.Becomes site.world.store.specs site'.world.store.specs
  listed : ∀ node profile cpu, site'.Lists node profile cpu ↔
    (∃ key ∈ keys, (found key).Gives node profile cpu) ∨
      site.Lists node profile cpu ∧
        (site.grants.Holds node profile cpu → site'.grants.Holds node profile cpu)

namespace Brought

variable {found : PodKey → Finding} {key : PodKey} {keys : List PodKey}
  {site site₁ site' : Site World} {r : Result} {results : List (PodKey × Result)}
  {node profile : String} {cpu : CpuId}

theorem nil (site : Site World) : Brought found [] site [] site where
  called := .refl _
  results := rfl
  grants _ := rfl
  specs := .refl _
  listed _ _ _ := by simp

/-- What is held was held before or was given. -/
theorem holds (h : Brought found keys site results site')
    (hh : site'.grants.Holds node profile cpu) :
    site.grants.Holds node profile cpu ∨ ∃ key ∈ keys, (found key).Gives node profile cpu := by
  obtain ⟨key, g, hf, hg⟩ := hh
  rw [h.grants] at hf
  split at hf
  · rename_i hk
    unfold Finding.recorded at hf
    split at hf
    · cases hf
    · obtain rfl := Option.some.inj hf
      exact .inr ⟨key, hk, _, ‹_›, hg⟩
    · exact .inl ⟨key, g, hf, hg⟩
    · exact .inl ⟨key, g, hf, hg⟩
  · exact .inl ⟨key, g, hf, hg⟩

/-- What one reconcile has recorded is there after those of other pods. -/
theorem find?_first (hk : key ∉ keys) (h₁ : Brought found [key] site [(key, r)] site₁)
    (h : Brought found keys site₁ results site') :
    site'.grants.find? key = (found key).recorded (site.grants.find? key) := by
  rw [h.grants, if_neg hk, h₁.grants, if_pos List.mem_cons_self]

/-- Which CPUs are listed after one pod and then others. A CPU that is held only in between, or not
in between only, is one that somebody was given. -/
theorem listed_cons (hk : key ∉ keys) (h₁ : Brought found [key] site [(key, r)] site₁)
    (h : Brought found keys site₁ results site') :
    site'.Lists node profile cpu ↔
      (∃ k ∈ key :: keys, (found k).Gives node profile cpu) ∨
        site.Lists node profile cpu ∧
          (site.grants.Holds node profile cpu → site'.grants.Holds node profile cpu) := by
  have hgiven : (found key).Gives node profile cpu → site'.grants.Holds node profile cpu :=
    fun hg => hg.holds (find?_first hk h₁ h)
  have hfirst : site₁.grants.Holds node profile cpu →
      site.grants.Holds node profile cpu ∨ (found key).Gives node profile cpu :=
    fun hh => by simpa using h₁.holds hh
  have hrest : site'.grants.Holds node profile cpu → site₁.grants.Holds node profile cpu ∨
      ∃ k ∈ keys, (found k).Gives node profile cpu := h.holds
  have hlisted := h₁.listed node profile cpu
  simp only [List.mem_singleton, exists_eq_left] at hlisted
  rw [h.listed, hlisted]
  simp only [List.mem_cons, exists_eq_or_imp]
  constructor
  · rintro (hlater | ⟨hg | ⟨hl, h₀⟩, hf⟩)
    · exact .inl (.inr hlater)
    · exact .inl (.inl hg)
    · exact .inr ⟨hl, fun hh => hf (h₀ hh)⟩
  · rintro ((hg | hlater) | ⟨hl, hkept⟩)
    · exact .inr ⟨.inl hg, fun _ => hgiven hg⟩
    · exact .inl hlater
    · by_cases hlater : ∃ k ∈ keys, (found k).Gives node profile cpu
      · exact .inl hlater
      · by_cases hg : (found key).Gives node profile cpu
        · exact .inr ⟨.inl hg, fun _ => hgiven hg⟩
        · exact .inr ⟨.inr ⟨hl, fun hh => (hrest (hkept hh)).resolve_right hlater⟩,
            fun hh => hkept ((hfirst hh).resolve_right hg)⟩

/-- One pod first and then the others. -/
theorem cons (hk : key ∉ keys) (h₁ : Brought found [key] site [(key, r)] site₁)
    (h : Brought found keys site₁ results site') :
    Brought found (key :: keys) site ((key, r) :: results) site' := by
  have hother : ∀ k, k ≠ key → site₁.grants.find? k = site.grants.find? k := fun k hne => by
    rw [h₁.grants, if_neg (by simpa using hne)]
  refine ⟨h₁.called.trans h.called, ?_, fun k => ?_, h₁.specs.trans h.specs,
    fun _ _ _ => listed_cons hk h₁ h⟩
  · rw [List.map_cons, h.results, List.singleton_inj.1 h₁.results]
    refine congrArg _ (List.map_congr_left fun k hm => ?_)
    rw [hother k fun heq => hk (heq ▸ hm)]
  · by_cases hkey : k = key
    · rw [hkey, find?_first hk h₁ h, if_pos List.mem_cons_self]
    · rw [h.grants, hother k hkey]
      simp only [List.mem_cons, hkey, false_or]

/-- Questions asked before make no difference. -/
theorem of_asked {world : World} (h : Brought found keys { site with world } results site')
    (hcalled : site.world.Called world) (hs : world.store = site.world.store) :
    Brought found keys site results site' where
  called := hcalled.trans h.called
  results := h.results
  grants := h.grants
  specs := hs ▸ h.specs
  listed node profile cpu := by
    rw [h.listed]
    simp only [Site.Lists, hs]

/-! ## One reconcile -/

/-- A reconcile that leaves the site as it is but for its calls. -/
theorem unchanged {world : World} (hcalled : site.world.Called world)
    (hs : world.store = site.world.store) (hr : r = (found key).result (site.grants.find? key))
    (hentry : (found key).recorded (site.grants.find? key) = site.grants.find? key)
    (hgives : ∀ next, found key ≠ .ok (.grant next)) :
    Brought found [key] site [(key, r)] { site with world } where
  called := hcalled
  results := by rw [hr]; rfl
  grants k := by
    split
    · rename_i hk
      rw [List.mem_singleton.1 hk, hentry]
    · rfl
  specs := by
    rw [hs]
    exact .refl _
  listed node profile cpu := by
    simp [Site.Lists, hs, Finding.Gives, hgives]

/-- A release that does all that is to be done. -/
theorem release {entry : Grant} {world : World} (hf : found key = .ok .release)
    (hentry : site.grants.find? key = some entry) (ht : site.world.store.specs.Tidy)
    (hp : Phased (Specs.removal entry.node) (Shares.ofRelease site.grants key entry) site.world []
      world) :
    Brought found [key] site [(key, .ok .applied)] ⟨site.grants.erase key, world⟩ := by
  have hw := hp.wholly rfl
  refine ⟨hp.called, by simp [hf, hentry, Finding.result], fun k => ?_, .removal hw.partly,
    fun node profile cpu => ?_⟩
  · rw [Table.find?_erase]
    by_cases hk : k = key
    · simp [hk, hf, Finding.recorded]
    · simp [hk]
  · show Spec.Listed (world.store.specs _) node cpu ↔ _
    rw [hw.listed_removal_iff (ht _).choose_spec.oneEntry, Shares.has_ofRelease_iff hentry]
    simp [Finding.Gives, hf, Site.Lists]

/-- A grant that does all that is to be done. -/
theorem grant {next : Grant} {between world : World} (hf : found key = .ok (.grant next))
    (hc : next.Complete) (ht : site.world.store.specs.Tidy)
    (hstale : Phased (Specs.removal (site.grants.before key next).node)
      (Shares.ofStale site.grants key next) site.world [] between)
    (hp : Phased (Specs.adding next.node) (Shares.ofContainers next.containers) between [] world) :
    Brought found [key] site [(key, .ok .applied)] ⟨site.grants.insert key next, world⟩ := by
  have hw := hstale.wholly rfl
  have hw' := hp.wholly rfl
  refine ⟨hstale.called.trans hp.called, by simp [hf, Finding.result], fun k => ?_,
    (Specs.Becomes.removal hw.partly).trans (.adding hw'.partly (Shares.ne_nil_of_complete hc)),
    fun node profile cpu => ?_⟩
  · rw [Table.find?_insert]
    by_cases hk : k = key
    · simp [hk, hf, Finding.recorded]
    · simp [hk]
  · have hgives : (∃ k ∈ [key], (found k).Gives node profile cpu) ↔
        node = next.node ∧ cpu ∈ Shares.cpusOf next.containers profile := by
      simp [Finding.Gives, hf, Shares.holds_iff_mem_cpusOf, eq_comm]
    show Spec.Listed (world.store.specs _) node cpu ↔ _
    rw [hw'.listed_adding_iff, hw.listed_removal_iff (ht _).choose_spec.oneEntry,
      Shares.has_ofStale_iff, Shares.has_ofContainers, hgives, or_comm]
    simp only [not_and, Classical.not_not]
    exact Iff.rfl

end Brought

/-- Carrying out an intent without an error. -/
theorem Settled.brought {found : PodKey → Finding} {key : PodKey} {site site' : Site World}
    {intent : Intent} {r : Result} {outcome : Outcome} (hs : Settled key site intent r site')
    (hf : found key = .ok intent) (hr : r = .ok outcome)
    (ht : site.world.store.specs.Tidy) : Brought found [key] site [(key, r)] site' := by
  cases hs with
  | skipped reason =>
    exact .unchanged (.refl _) rfl (by rw [hf]; rfl) (by rw [hf]; rfl) (by simp [hf])
  | unrecorded hnone =>
    exact .unchanged (.refl _) rfl (by rw [hf, hnone]; rfl) (by rw [hf, hnone]; rfl) (by simp [hf])
  | kept hentry hne hp => exact absurd hr (result_ne_ok hne)
  | stuck hne hp => exact absurd hr (result_ne_ok hne)
  | released hentry hp => exact .release hf hentry ht hp
  | granted hc hstale hp =>
    obtain rfl := Classical.byContradiction fun hne => result_ne_ok hne hr
    exact .grant hf hc ht hstale hp

/-- What the survey of a pod finds. -/
def World.finding (w : World) (config : ReconcileConfig) (key : PodKey) : Finding :=
  ((survey World.services config key).run.run w).value

/-- Earlier reconciles have no part in what a survey finds. -/
theorem World.finding_eq {w w' : World} (h : w.SameTables w') (hw : w.Calm) (hw' : w'.Calm)
    (config : ReconcileConfig) : w'.finding config = w.finding config :=
  funext fun key => ((survey_agrees config key).spared w w' h (spared_survey config key hw)
    (spared_survey config key hw')).symm

/-- A reconcile where no call fails. -/
theorem Site.brought_reconcile (config : ReconcileConfig) (key : PodKey) {site : Site World}
    (hcalm : site.world.Calm) (ht : site.world.store.specs.Tidy) :
    Brought (site.world.finding config) [key] site [(key, (site.reconcile config key).value)]
      (site.reconcile config key).state := by
  obtain ⟨hcalled, hstore, -⟩ := run_survey config key site.world
  rcases (run_reconcile World.services_serve config key hcalm.quiet).2 with
    ⟨e, hf, hr, hs⟩ | ⟨intent, hf, hs⟩
  · rw [Site.reconcile, hs]
    refine .unchanged hcalled hstore ?_ ?_ ?_
    · rw [hr, World.finding, hf]
      rfl
    · rw [World.finding, hf]
      rfl
    · rw [World.finding, hf]
      simp
  · obtain ⟨outcome, hr⟩ := calm_reconcile config key hcalm hf
    rw [Site.reconcile]
    exact (hs.brought hf hr (hstore.symm ▸ ht)).of_asked hcalled hstore

/-! ## All of them -/

/-- The reconciles of these pods, one after the other, with their results. -/
def reconcileEach (config : ReconcileConfig) :
    List PodKey → Script (Site World) (List (PodKey × Result))
  | [] => .done []
  | key :: keys => do
    let result ← reconcile World.services config key
    let results ← reconcileEach config keys
    return (key, result) :: results

theorem reconcileEach_brought (config : ReconcileConfig) {keys : List PodKey} (hn : keys.Nodup)
    {w : World} (hw : w.Calm) {site : Site World} (hs : w.SameTables site.world)
    (hcalm : site.world.Calm) (ht : site.world.store.specs.Tidy) :
    Brought (w.finding config) keys site ((reconcileEach config keys).run site).value
      ((reconcileEach config keys).run site).state := by
  induction keys generalizing site with
  | nil => exact .nil site
  | cons key keys ih =>
    obtain ⟨hk, hn⟩ := List.nodup_cons.1 hn
    have h₁ := Site.brought_reconcile config key hcalm ht
    rw [World.finding_eq hs hw hcalm] at h₁
    have h := ih hn (hs.trans h₁.called.tables) (h₁.called.calm hcalm) (h₁.specs.tidy ht)
    simp only [reconcileEach, Script.bind_eq, Script.pure_eq_done, Script.run_bind]
    exact h₁.cons hk h

namespace Brought

variable {found : PodKey → Finding} {keys keys' : List PodKey} {site site₁ site₂ : Site World}
  {results results' : List (PodKey × Result)}

theorem perm_results (h : Brought found keys site results site₁)
    (h' : Brought found keys' site results' site₂) (hp : keys.Perm keys') :
    results.Perm results' := by
  rw [h.results, h'.results]
  exact hp.map _

theorem grants_eq (h : Brought found keys site results site₁)
    (h' : Brought found keys' site results' site₂) (hp : keys.Perm keys') :
    site₁.grants = site₂.grants :=
  Table.ext_find? fun key => by simp only [h.grants, h'.grants, hp.mem_iff]

theorem lists_iff (h : Brought found keys site results site₁)
    (h' : Brought found keys' site results' site₂) (hp : keys.Perm keys') (node profile : String)
    (cpu : CpuId) : site₁.Lists node profile cpu ↔ site₂.Lists node profile cpu := by
  rw [h.listed, h'.listed, h.grants_eq h' hp]
  simp only [hp.mem_iff]

theorem perm_nodes (h : Brought found keys site results site₁)
    (h' : Brought found keys' site results' site₂) (hp : keys.Perm keys')
    (ht : site.world.store.specs.Tidy) (name : String) :
    Option.Rel (fun s s' => s.nodes.Perm s'.nodes) (site₁.world.store.specs name)
      (site₂.world.store.specs name) := by
  by_cases hn : ∃ profile, name = workloadName profile
  · obtain ⟨profile, rfl⟩ := hn
    obtain ⟨q, hq⟩ := h.specs.tidy ht (workloadName profile)
    obtain ⟨q', hq'⟩ := h'.specs.tidy ht (workloadName profile)
    exact Spec.perm_of_listed hq hq' fun node cpu => h.lists_iff h' hp node profile cpu
  · have hother : ∀ profile, name ≠ workloadName profile := fun profile he => hn ⟨profile, he⟩
    rw [h.specs.other name hother, h'.specs.other name hother]
    cases site.world.store.specs name with
    | none => exact .none
    | some s => exact .some (.refl _)

/-- Whatever the order, the store holds the same up to the order of entries, and but for the profile
of what was stored under a name that is not its own. -/
theorem alike (h : Brought found keys site results site₁)
    (h' : Brought found keys' site results' site₂) (hp : keys.Perm keys')
    (ht : site.world.store.specs.Tidy) (name : String) :
    Option.Rel
      (fun s s' => s.nodes.Perm s'.nodes ∧
        (s.profile = s'.profile ∨ site.world.store.specs.Misnamed name))
      (site₁.world.store.specs name) (site₂.world.store.specs name) := by
  have hnodes := h.perm_nodes h' hp ht name
  cases h₁ : site₁.world.store.specs name <;> cases h₂ : site₂.world.store.specs name <;>
    rw [h₁, h₂] at hnodes <;> cases hnodes
  case none.none => exact .none
  case some.some hn => exact .some ⟨hn, h.specs.profile_eq h'.specs ht h₁ h₂⟩

end Brought

/-- Where no call fails, the order of reconciles does not matter. Whatever the tables say and
whatever is recorded, pods that are reconciled in another order come to the same results and to the
same grants, and under each name the store holds in the end the same entries, in some order. Only
where the workload of another profile was stored under the name may the profile differ. -/
theorem reconcileEach_perm (config : ReconcileConfig) {keys keys' : List PodKey}
    (hn : keys.Nodup) (hp : keys.Perm keys') (site : Site World) (hcalm : site.world.Calm)
    (hs : ∀ name s, site.world.store.specs name = some s → s.WellFormed ∧ s.nodes ≠ []) :
    let ran := (reconcileEach config keys).run site
    let ran' := (reconcileEach config keys').run site
    ran.value.Perm ran'.value ∧ ran.state.grants = ran'.state.grants ∧
      ∀ name, Option.Rel
        (fun s s' => s.nodes.Perm s'.nodes ∧
          (s.profile = s'.profile ∨ site.world.store.specs.Misnamed name))
        (ran.state.world.store.specs name) (ran'.state.world.store.specs name) := by
  have ht := Specs.tidy_of_wellFormed hs
  have h := reconcileEach_brought config hn hcalm (.refl _) hcalm ht
  have h' := reconcileEach_brought config (hp.nodup_iff.1 hn) hcalm (.refl _) hcalm ht
  exact ⟨h.perm_results h' hp, h.grants_eq h' hp, h.alike h' hp ht⟩

/-- The pods of the sample. -/
def samplePods : List PodKey := [⟨"d", "a"⟩, ⟨"d", "b"⟩]

/-- The first pod of the sample is on its way out with two CPUs. The second one is to have one of
them, and `stored` is the workload of their profile. -/
def Site.handover (stored : Spec) : Site World where
  grants := .ofList [(⟨"d", "a"⟩, ⟨"n1", "a", "d", "u", [⟨"c", "", [4, 5], "perf"⟩]⟩)]
  world :=
    { World.sample [] with
      pods := .ofList [("d/a", { Pod.sample "a" with deleting := true }), ("d/b", Pod.sample "b")]
      store := Versioned.put {} ⟨some "perf-workload", none, stored⟩ }

theorem wellFormed_handover {stored : Spec} (h : stored.WellFormed ∧ stored.nodes ≠ [])
    (name : String) (s : Spec) (hs : (Site.handover stored).world.store.specs name = some s) :
    s.WellFormed ∧ s.nodes ≠ [] := by
  have hput := Versioned.sets_put {} ⟨some "perf-workload", none, stored⟩ name
  rw [show (Site.handover stored).world.store.specs name = _ from hput] at hs
  split at hs
  · exact Option.some.inj hs ▸ h
  · cases hs

/-- Whether the CPU is handed over or taken back and given again shows in the order of the nodes
only. -/
theorem reconcileEach_perm_handover :
    let site := Site.handover ⟨"perf", [⟨"n1", [4, 5]⟩, ⟨"n2", [7]⟩]⟩
    let ran := (reconcileEach {} samplePods).run site
    let ran' := (reconcileEach {} samplePods.reverse).run site
    samplePods.Nodup ∧ samplePods.Perm samplePods.reverse ∧ site.world.Calm ∧
      (∀ name s, site.world.store.specs name = some s → s.WellFormed ∧ s.nodes ≠ []) ∧
      ran.value = [(⟨"d", "a"⟩, .ok .applied), (⟨"d", "b"⟩, .ok .applied)] ∧
      ran.value.Perm ran'.value ∧ ran.state.grants = ran'.state.grants ∧
      ran.state.world.store.specs "perf-workload" =
        some ⟨"perf", [⟨"n2", [7]⟩, ⟨"n1", [5, 6]⟩]⟩ ∧
      ran'.state.world.store.specs "perf-workload" =
        some ⟨"perf", [⟨"n1", [5, 6]⟩, ⟨"n2", [7]⟩]⟩ := by
  have hn : samplePods.Nodup := by decide
  have hp : samplePods.Perm samplePods.reverse := (List.reverse_perm _).symm
  have hs := @wellFormed_handover ⟨"perf", [⟨"n1", [4, 5]⟩, ⟨"n2", [7]⟩]⟩
    ⟨⟨by decide, by simp [NodeEntry.WellFormed]; decide⟩, by simp⟩
  obtain ⟨hresults, hgrants, -⟩ := reconcileEach_perm {} hn hp (Site.handover _) rfl hs
  exact ⟨hn, hp, rfl, hs, by decide +kernel, hresults, hgrants, by decide +kernel,
    by decide +kernel⟩

/-- The order shows in a workload of another profile: in one order it goes away and a new one takes
its place, in the other order it stays. -/
theorem profile_depends_on_order :
    let site := Site.handover ⟨"other", [⟨"n1", [4, 5]⟩]⟩
    let ran := (reconcileEach {} samplePods).run site
    let ran' := (reconcileEach {} samplePods.reverse).run site
    samplePods.Nodup ∧ samplePods.Perm samplePods.reverse ∧ site.world.Calm ∧
      (∀ name s, site.world.store.specs name = some s → s.WellFormed ∧ s.nodes ≠ []) ∧
      ran.state.world.store.specs "perf-workload" = some ⟨"perf", [⟨"n1", [5, 6]⟩]⟩ ∧
      ran'.state.world.store.specs "perf-workload" = some ⟨"other", [⟨"n1", [5, 6]⟩]⟩ := by
  refine ⟨by decide, (List.reverse_perm _).symm, rfl, wellFormed_handover ?_, by decide +kernel,
    by decide +kernel⟩
  exact ⟨⟨by decide, by simp [NodeEntry.WellFormed]; decide⟩, by simp⟩

end PowerGrant
