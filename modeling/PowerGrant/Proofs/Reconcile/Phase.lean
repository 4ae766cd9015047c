import PowerGrant.Proofs.Grant.Shares
import PowerGrant.Proofs.Script.Trace
import PowerGrant.Proofs.World.Alone
import PowerGrant.Reconcile.Basic

/-!
# Phases

A phase changes the workload of every profile of some shares, one after the other. Some of the
changes may fail, and one that failed may have been made all the same.

* `Specs.Partly`: some of the changes of a phase were made. `Specs.Wholly`: all of them were.
* `Specs.removal`, `Specs.adding`: what is done to each workload. What a phase leaves listed:
  `Partly.listed_of_removal`, `Wholly.not_listed`, `Partly.listed_of_adding`, `Wholly.listed`.
* `World.run_changeEach`: a phase of changes that are made or fail. `World.calm_changeEach`: in a calm
  world none of them fails.
* `World.Serves`: services with which each change of a phase is made or fails.
-/

namespace PowerGrant

theorem workloadName_injective {p q : String} (h : workloadName p = workloadName q) : p = q :=
  (String.append_left_inj _).1 h

namespace Specs

/-- What is done to the workload of a profile with a share of CPUs. -/
abbrev Operation := String → List CpuId → Option Spec → Option Spec

/-- Shares are taken out on `node`. -/
def removal (node : String) : Operation := fun _ cpus => Spec.removed node cpus

/-- Shares are added on `node`. -/
def adding (node : String) : Operation := fun profile cpus => Spec.added profile node cpus

variable {op : Operation} {shares : Shares} {S S' S'' : Specs} {node profile name n : String}
  {cpu : CpuId}

/-- Some of the shares were dealt with: a workload is as it was, or changed by the share of its
profile. -/
def Partly (op : Operation) (shares : Shares) (S S' : Specs) : Prop :=
  ∀ name, S' name = S name ∨
    ∃ e ∈ shares, name = workloadName e.1 ∧ S' name = op e.1 e.2 (S name)

/-- All shares were dealt with, and no other workload has changed. -/
structure Wholly (op : Operation) (shares : Shares) (S S' : Specs) : Prop where
  dealt : ∀ e ∈ shares, S' (workloadName e.1) = op e.1 e.2 (S (workloadName e.1))
  other : ∀ name, (∀ e ∈ shares, name ≠ workloadName e.1) → S' name = S name

theorem Partly.refl : Partly op shares S S := fun _ => .inl rfl

/-- One of the shares was dealt with. -/
theorem Partly.of_mem {e : String × List CpuId} (he : e ∈ shares)
    (h : ∀ name, S' name =
      if name = workloadName e.1 then op e.1 e.2 (S (workloadName e.1)) else S name) :
    Partly op shares S S' := by
  intro name
  by_cases hn : name = workloadName e.1
  · exact .inr ⟨e, he, hn, by rw [h, if_pos hn, hn]⟩
  · exact .inl (by rw [h, if_neg hn])

theorem Wholly.partly (h : Wholly op shares S S') : Partly op shares S S' := by
  intro name
  by_cases hn : ∃ e ∈ shares, name = workloadName e.1
  · obtain ⟨e, he, rfl⟩ := hn
    exact .inr ⟨e, he, rfl, h.dealt e he⟩
  · exact .inl (h.other name fun e he hne => hn ⟨e, he, hne⟩)

theorem Wholly.eq_of_nil (h : Wholly op [] S S') : S' = S :=
  funext fun name => h.other name fun _ he => nomatch he

/-- How a phase over more shares goes on after the first one. -/
theorem Partly.cons {e : String × List CpuId} (hd : Shares.Distinct (e :: shares))
    (h₁ : S' = S ∨ ∀ name, S' name =
      if name = workloadName e.1 then op e.1 e.2 (S (workloadName e.1)) else S name)
    (h : Partly op shares S' S'') : Partly op (e :: shares) S S'' := by
  obtain ⟨hne, -⟩ := List.nodup_cons.1 hd
  intro name
  -- a workload that a later share has changed was not changed by the first one
  have hfirst : name ≠ workloadName e.1 → S' name = S name := by
    intro hn
    rcases h₁ with rfl | h₁
    · rfl
    · rw [h₁, if_neg hn]
  rcases h name with hs | ⟨f, hf, hn, hs⟩
  · by_cases hn : name = workloadName e.1
    · rcases h₁ with rfl | h₁
      · exact .inl hs
      · refine .inr ⟨e, List.mem_cons_self, hn, ?_⟩
        rw [hs, h₁, if_pos hn, hn]
    · exact .inl (hs.trans (hfirst hn))
  · refine .inr ⟨f, List.mem_cons_of_mem _ hf, hn, ?_⟩
    rw [hs, hfirst]
    intro hne'
    exact hne (List.mem_map.2 ⟨f, hf, workloadName_injective (hn.symm.trans hne')⟩)

theorem Wholly.cons {e : String × List CpuId} (hd : Shares.Distinct (e :: shares))
    (h₁ : ∀ name, S' name =
      if name = workloadName e.1 then op e.1 e.2 (S (workloadName e.1)) else S name)
    (h : Wholly op shares S' S'') : Wholly op (e :: shares) S S'' := by
  obtain ⟨hne, -⟩ := List.nodup_cons.1 hd
  have hlater : ∀ f ∈ shares, workloadName f.1 ≠ workloadName e.1 := fun f hf hn =>
    hne (List.mem_map.2 ⟨f, hf, workloadName_injective hn⟩)
  constructor
  · intro f hf
    rcases List.mem_cons.1 hf with rfl | hf
    · rw [h.other _ fun g hg hn => hlater g hg hn.symm, h₁, if_pos rfl]
    · rw [h.dealt f hf, h₁, if_neg (hlater f hf)]
  · intro name hn
    rw [h.other name fun f hf => hn f (List.mem_cons_of_mem _ hf), h₁,
      if_neg (hn e List.mem_cons_self)]

/-! ## Taking out -/

theorem Partly.listed_of_removal (h : Partly (removal node) shares S S')
    (hl : Spec.Listed (S' name) n cpu) : Spec.Listed (S name) n cpu := by
  rcases h name with hs | ⟨e, -, -, hs⟩
  · rwa [hs] at hl
  · rw [hs] at hl
    exact Spec.listed_of_removed hl

/-- What is listed stays listed unless it is in a share that is taken out. -/
theorem Partly.keeps_listed (h : Partly (removal node) shares S S')
    (hl : Spec.Listed (S (workloadName profile)) n cpu)
    (hk : n = node → ¬ shares.Has profile cpu) :
    Spec.Listed (S' (workloadName profile)) n cpu := by
  rcases h (workloadName profile) with hs | ⟨e, he, hn, hs⟩
  · rwa [hs]
  · rw [hs]
    refine Spec.listed_removed hl fun hnode hc => hk hnode ⟨e.2, ?_, hc⟩
    rw [workloadName_injective hn]
    exact he

/-- What was taken out wholly is not listed any more. -/
theorem Wholly.not_listed (h : Wholly (removal node) shares S S')
    (ho : Spec.OneEntry (S (workloadName profile))) (hs : shares.Has profile cpu) :
    ¬ Spec.Listed (S' (workloadName profile)) node cpu := by
  obtain ⟨cpus, he, hc⟩ := hs
  rw [h.dealt _ he]
  exact Spec.not_listed_removed ho hc

theorem Partly.sound_removal (h : Partly (removal node) shares S S')
    (hs : Spec.Sound profile (S name)) : Spec.Sound profile (S' name) := by
  rcases h name with hn | ⟨e, -, -, hn⟩
  · rwa [hn]
  · rw [hn]
    exact hs.removed

theorem Partly.ne_none_of_removal (h : Partly (removal node) shares S S') (hs : S' name ≠ none) :
    S name ≠ none := by
  rcases h name with hn | ⟨e, -, -, hn⟩
  · rwa [hn] at hs
  · rw [hn] at hs
    intro hnone
    exact hs (by rw [hnone]; rfl)

/-! ## Adding -/

theorem Partly.listed_of_adding (h : Partly (adding node) shares S S')
    (hl : Spec.Listed (S' (workloadName profile)) n cpu) :
    Spec.Listed (S (workloadName profile)) n cpu ∨ n = node ∧ shares.Has profile cpu := by
  rcases h (workloadName profile) with hs | ⟨e, he, hn, hs⟩
  · rw [hs] at hl
    exact .inl hl
  · rw [hs] at hl
    refine (Spec.listed_added.1 hl).imp_right fun ⟨hnode, hc⟩ => ⟨hnode, e.2, ?_, hc⟩
    rw [workloadName_injective hn]
    exact he

theorem Partly.keeps_listed_adding (h : Partly (adding node) shares S S')
    (hl : Spec.Listed (S name) n cpu) : Spec.Listed (S' name) n cpu := by
  rcases h name with hs | ⟨e, -, -, hs⟩
  · rwa [hs]
  · rw [hs]
    exact Spec.listed_added.2 (.inl hl)

/-- What was added wholly is listed. -/
theorem Wholly.listed (h : Wholly (adding node) shares S S') (hs : shares.Has profile cpu) :
    Spec.Listed (S' (workloadName profile)) node cpu := by
  obtain ⟨cpus, he, hc⟩ := hs
  rw [h.dealt _ he]
  exact Spec.listed_added.2 (.inr ⟨rfl, hc⟩)

theorem Partly.sound_adding (h : Partly (adding node) shares S S') (hne : ∀ e ∈ shares, e.2 ≠ [])
    (hs : Spec.Sound profile (S (workloadName profile))) :
    Spec.Sound profile (S' (workloadName profile)) := by
  rcases h (workloadName profile) with hn | ⟨e, he, hp, hn⟩
  · rwa [hn]
  · rw [hn, ← workloadName_injective hp]
    exact hs.added (hne e he)

theorem Partly.ne_none_of_adding (h : Partly (adding node) shares S S') (hs : S' name ≠ none) :
    S name ≠ none ∨ ∃ profile, name = workloadName profile := by
  rcases h name with hn | ⟨e, -, hp, -⟩
  · rw [hn] at hs
    exact .inl hs
  · exact .inr ⟨e.1, hp⟩

end Specs

/-! ## The phases of a reconcile -/

/-- What a phase comes to in which the profiles of `failures` failed. -/
structure Phased (op : Specs.Operation) (shares : Shares) (w : World)
    (failures : List (String × CallFault)) (w' : World) : Prop where
  called : w.Called w'
  used : shares ≠ [] → w.Used w'
  /-- Every failure is that of a share. -/
  failed : ∀ f ∈ failures, f.1 ∈ shares.map Prod.fst
  partly : Specs.Partly op shares w.store.specs w'.store.specs
  wholly : failures = [] → Specs.Wholly op shares w.store.specs w'.store.specs

namespace Phased

variable {op : Specs.Operation} {shares : Shares} {w w₁ w' : World}
  {failures : List (String × CallFault)} {profile : String} {cpus : List CpuId}

/-- A phase without shares changes nothing. -/
theorem nil (w : World) : Phased op [] w [] w where
  called := .refl w
  used h := absurd rfl h
  failed _ h := nomatch h
  partly := .refl
  wholly _ := ⟨(fun _ h => nomatch h), fun _ _ => rfl⟩

/-- A phase in which something failed has called the store. -/
theorem used_of_failed (h : Phased op shares w failures w') (hf : failures ≠ []) : w.Used w' := by
  refine h.used fun hs => ?_
  obtain ⟨f, hm⟩ := List.exists_mem_of_ne_nil failures hf
  have := h.failed f hm
  simp [hs] at this

/-- A phase that goes on after the change of its first share. -/
theorem cons (hd : Shares.Distinct ((profile, cpus) :: shares))
    (h₁ : w.Changed (workloadName profile) (op profile cpus) w₁)
    (h : Phased op shares w₁ failures w') :
    Phased op ((profile, cpus) :: shares) w failures w' where
  called := h₁.1.trans h.called
  used _ := h₁.2.1.later h₁.1 h.called
  failed f hf := List.mem_cons_of_mem _ (h.failed f hf)
  partly := h.partly.cons hd (.inr h₁.2.2)
  wholly hf := (h.wholly hf).cons hd h₁.2.2

/-- A phase that goes on after the change of its first share has failed. -/
theorem cons_failed {fault : CallFault} (hd : Shares.Distinct ((profile, cpus) :: shares))
    (h₁ : w.Untouched w₁ ∨ w.Changed (workloadName profile) (op profile cpus) w₁)
    (h : Phased op shares w₁ failures w') :
    Phased op ((profile, cpus) :: shares) w ((profile, fault) :: failures) w' := by
  have hcalled : w.Called w₁ := h₁.elim And.left And.left
  have hused : w.Used w₁ := h₁.elim (·.2.1) (·.2.1)
  refine ⟨hcalled.trans h.called, fun _ => hused.later hcalled h.called, fun f hf => ?_,
    h.partly.cons hd (h₁.imp (·.2.2) (·.2.2)), fun hf => by cases hf⟩
  rcases List.mem_cons.1 hf with rfl | hf
  · exact List.mem_cons_self
  · exact List.mem_cons_of_mem _ (h.failed f hf)

end Phased

namespace World

variable {op : Specs.Operation} {limit : Nat}
  {change : String → List CpuId → Script World (Answer WorkloadChange)}

/-- A phase goes on after the change of its first share, whatever came of that. -/
theorem run_changeEach_cons (limit : Nat)
    (change : String → List CpuId → Script World (Answer WorkloadChange)) (profile : String)
    (cpus : List CpuId) (rest : Shares) (w : World) :
    let first := (bounded limit (change profile cpus)).run w
    let later := (changeEach limit change rest).run first.state
    let ran := (changeEach limit change ((profile, cpus) :: rest)).run w
    ran.state = later.state ∧
      ran.value = match first.value with
        | .ok _ => later.value
        | .error fault => (profile, fault) :: later.value := by
  simp only [changeEach, Script.run_bind]
  cases ((bounded limit (change profile cpus)).run w).value <;> exact ⟨rfl, rfl⟩

theorem trace_changeEach_cons (limit : Nat)
    (change : String → List CpuId → Script World (Answer WorkloadChange)) (profile : String)
    (cpus : List CpuId) (rest : Shares) (w : World) :
    (changeEach limit change ((profile, cpus) :: rest)).trace w =
      (bounded limit (change profile cpus)).trace w ++
        (changeEach limit change rest).trace
          ((bounded limit (change profile cpus)).run w).state := by
  simp only [changeEach, Script.trace_bind]
  cases ((bounded limit (change profile cpus)).run w).value <;>
    rw [show Script.trace (.done _) _ = [] from rfl, List.append_nil]

/-- A phase is safe if each of its changes is. -/
theorem changeEach_safe {env step : World → World → Prop} {inv : World → Prop} {shares : Shares}
    {w : World}
    (h : ∀ e ∈ shares, ∀ w, inv w →
      (bounded limit (change e.1 e.2)).Safe env step (fun _ => inv) w) (hw : inv w) :
    (changeEach limit change shares).Safe env step (fun _ => inv) w := by
  induction shares generalizing w with
  | nil => exact hw
  | cons e rest ih =>
    refine (h e List.mem_cons_self w hw).seq fun result t ht => ?_
    refine (ih (fun f hf => h f (List.mem_cons_of_mem _ hf)) ht).seq fun failures u hu => ?_
    cases result <;> exact hu

/-- A phase in a world in which a change is made or fails, as it is after each change again. -/
theorem run_changeEach {inv : World → Prop} {shares : Shares} {w : World}
    (hchange : ∀ profile cpus (w : World), inv w → w.Updated (workloadName profile)
      (op profile cpus) ((bounded limit (change profile cpus)).run w))
    (hkept : ∀ profile cpus (w t : World), inv w →
      w.Untouched t ∨ w.Changed (workloadName profile) (op profile cpus) t → inv t)
    (hd : shares.Distinct) (hw : inv w) :
    Phased op shares w ((changeEach limit change shares).run w).value
        ((changeEach limit change shares).run w).state ∧
      inv ((changeEach limit change shares).run w).state := by
  induction shares generalizing w with
  | nil => exact ⟨.nil w, hw⟩
  | cons e rest ih =>
    obtain ⟨profile, cpus⟩ := e
    have hu := hchange profile cpus w hw
    have hleft := hu.untouched_or_changed
    have hrest : Shares.Distinct rest := (List.nodup_cons.1 hd).2
    simp only [changeEach, Script.run_bind]
    generalize (bounded limit (change profile cpus)).run w = ran at hu hleft ⊢
    obtain ⟨value, elapsed, state⟩ := ran
    obtain ⟨hphased, hend⟩ := ih hrest (hkept profile cpus w state hw hleft)
    cases value with
    | ok done => exact ⟨.cons hd hu hphased, hend⟩
    | error fault => exact ⟨.cons_failed hd hu hphased, hend⟩

/-- In a calm world no change of a phase fails. -/
theorem calm_changeEach {shares : Shares} {w : World}
    (hcalm : ∀ profile cpus (w : World), w.Calm →
      w.Called ((bounded limit (change profile cpus)).run w).state ∧
        ∃ done, ((bounded limit (change profile cpus)).run w).value = .ok done) (hw : w.Calm) :
    ((changeEach limit change shares).run w).value = [] := by
  induction shares generalizing w with
  | nil => rfl
  | cons e rest ih =>
    obtain ⟨profile, cpus⟩ := e
    obtain ⟨hcalled, done, hok⟩ := hcalm profile cpus w hw
    rw [(run_changeEach_cons limit change profile cpus rest w).2, hok]
    exact ih (hcalled.calm hw)

variable {shares : Shares} {w : World} {r : Retry} {node : String}

theorem calm_removeEach (hw : w.Calm) :
    ((changeEach limit (fun p cpus => workloads.remove r p node cpus) shares).run w).value = [] :=
  calm_changeEach (fun _ _ _ hw => ⟨(run_remove hw.quiet).called, calm_remove hw⟩) hw

theorem calm_addEach (hw : w.Calm) :
    ((changeEach limit (fun p cpus => workloads.add r p node cpus) shares).run w).value = [] :=
  calm_changeEach (fun _ _ _ hw => ⟨(run_add hw.quiet).called, calm_add hw⟩) hw

/-- Services whose survey is that of the world, and on whose store an update makes its change or
fails, in worlds in which `inv` holds, and that leave it so. -/
structure Serves (s : Services World) (inv : World → Prop) : Prop where
  survey : ∀ config key, PowerGrant.survey s config key = PowerGrant.survey services config key
  add : ∀ r limit profile node cpus w, inv w →
    w.Updated (workloadName profile) (Spec.added profile node cpus)
      ((bounded limit (s.workloads.add r profile node cpus)).run w)
  remove : ∀ r limit profile node cpus w, inv w →
    w.Updated (workloadName profile) (Spec.removed node cpus)
      ((bounded limit (s.workloads.remove r profile node cpus)).run w)
  still : ∀ w t, inv w → w.Called t → t.store.specs = w.store.specs → inv t
  added : ∀ profile node cpus w t, inv w →
    w.Changed (workloadName profile) (Spec.added profile node cpus) t → inv t
  removed : ∀ profile node cpus w t, inv w →
    w.Changed (workloadName profile) (Spec.removed node cpus) t → inv t

/-- The services of the world serve it as long as no one else writes. -/
theorem services_serve : Serves services Quiet where
  survey _ _ := rfl
  add _ _ _ _ _ _ hw := run_add hw
  remove _ _ _ _ _ _ hw := run_remove hw
  still _ _ hw hc _ := hc.quiet hw
  added _ _ _ _ _ hw hc := hc.1.quiet hw
  removed _ _ _ _ _ hw hc := hc.1.quiet hw

namespace Serves

variable {s : Services World} {inv : World → Prop}

theorem removeEach (h : Serves s inv) (hd : shares.Distinct) (hw : inv w) :
    let ran := (changeEach limit (fun p cpus => s.workloads.remove r p node cpus) shares).run w
    Phased (Specs.removal node) shares w ran.value ran.state ∧ inv ran.state :=
  run_changeEach (fun _ _ _ hw => h.remove _ _ _ _ _ _ hw)
    (fun _ _ _ _ hw ht => ht.elim (fun ht => h.still _ _ hw ht.1 ht.2.2) (h.removed _ _ _ _ _ hw))
    hd hw

theorem addEach (h : Serves s inv) (hd : shares.Distinct) (hw : inv w) :
    let ran := (changeEach limit (fun p cpus => s.workloads.add r p node cpus) shares).run w
    Phased (Specs.adding node) shares w ran.value ran.state ∧ inv ran.state :=
  run_changeEach (fun _ _ _ hw => h.add _ _ _ _ _ _ hw)
    (fun _ _ _ _ hw ht => ht.elim (fun ht => h.still _ _ hw ht.1 ht.2.2) (h.added _ _ _ _ _ hw))
    hd hw

end Serves

end World

/-! ## The phases at a site -/

section Site

variable {shares : Shares}

/-- A script on the services leaves the table of grants alone. -/
theorem run_onWorld {α : Type} (x : Script World α) (site : Site World) :
    x.onWorld.run site =
      ⟨(x.run site.world).value, (x.run site.world).elapsed,
        { site with world := (x.run site.world).state }⟩ := by
  unfold Script.onWorld
  rw [Script.run_onPart] <;> intros <;> rfl

/-- A release of shares takes out what no other pod holds. -/
theorem run_releaseShares_eq (config : ReconcileConfig) (key : PodKey) (node : String)
    (shares : Shares) (site : Site World) :
    (releaseShares World.services config key node shares).run site =
      (changeEach config.callTimeout
        (fun profile cpus => World.workloads.remove config.retry profile node cpus)
        (Shares.releasable site.grants key node shares)).onWorld.run site := rfl

theorem run_grantShares_eq (config : ReconcileConfig) (node : String) (shares : Shares)
    (site : Site World) :
    (grantShares World.services config node shares).run site =
      (changeEach config.callTimeout
        (fun profile cpus => World.workloads.add config.retry profile node cpus)
        shares).onWorld.run site := rfl

/-- A release of shares at a site. -/
theorem run_releaseShares {s : Services World} {inv : World → Prop} (h : World.Serves s inv)
    (config : ReconcileConfig) (key : PodKey) (node : String) (hd : shares.Distinct)
    (site : Site World) (hw : inv site.world) :
    ∃ failures elapsed world,
      (releaseShares s config key node shares).run site =
          ⟨failures, elapsed, { site with world }⟩ ∧
        Phased (Specs.removal node) (Shares.releasable site.grants key node shares) site.world
          failures world ∧ inv world :=
  ⟨_, _, _, run_onWorld _ site, h.removeEach hd.releasable hw⟩

/-- A grant of shares at a site. -/
theorem run_grantShares {s : Services World} {inv : World → Prop} (h : World.Serves s inv)
    (config : ReconcileConfig) (node : String) (hd : shares.Distinct) (site : Site World)
    (hw : inv site.world) :
    ∃ failures elapsed world,
      (grantShares s config node shares).run site = ⟨failures, elapsed, { site with world }⟩ ∧
        Phased (Specs.adding node) shares site.world failures world ∧ inv world :=
  ⟨_, _, _, run_onWorld _ site, h.addEach hd hw⟩

end Site

end PowerGrant
