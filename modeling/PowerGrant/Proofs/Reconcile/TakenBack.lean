import Mathlib.Data.List.Nodup
import PowerGrant.Proofs.Reconcile.Found
import PowerGrant.Proofs.Reconcile.Runs

/-!
# What is taken back

A reconcile that does not fail takes back what its pod is not to hold any more, if it looks at what
is recorded for the pod. It does so when the pod leaves and when it asks for profiles. It does not
when the pod is gone or has come to ask for nothing: then the grant stays in the table, and its CPUs
stay in the workloads.

* `TakenBack`: the table says of the pod what it is due, and nothing else is left of an earlier
  grant.
* `World.Overlooks`: the pods of which a reconcile overlooks the record.
* `Reached.taken_back_iff`: those are the pods from which nothing is taken back.
-/

namespace PowerGrant

/-- The pod is not there any more, or it runs and asks for nothing. -/
def World.Overlooks (w : World) (policy : ProfilePolicy) (key : PodKey) : Prop :=
  w.pods.find? key.text = none ∨
    ∃ pod reason, w.pods.find? key.text = some pod ∧ pod.standing = .running ∧
      pod.demand policy = .ok (.nothing reason)

/-- The table holds for the pod what it is due, and what it held with `g` is not listed any more
unless it is due or another pod holds it. -/
structure TakenBack (policy : ProfilePolicy) (key : PodKey) (g : Grant) (site after : Site World) :
    Prop where
  recorded : after.grants.find? key = site.world.due policy key
  left : ∀ node profile cpu, g.Holds node profile cpu → after.Lists node profile cpu →
    (∃ next, site.world.due policy key = some next ∧ next.Holds node profile cpu) ∨
      after.grants.HeldByOther key node profile cpu

section TakenBack

variable {policy : ProfilePolicy} {key : PodKey} {g : Grant} {site site' after : Site World}
  {intent : Intent} {result : Result} {outcome : Outcome} {w : World} {history : List Episode}
  {config : ReconcileConfig}

/-- In a covered store nothing is left that the table does not record, so what is recorded
decides. -/
theorem TakenBack.of_covered (h : Covered after.grants after.world.store.specs)
    (hr : after.grants.find? key = site.world.due policy key) :
    TakenBack policy key g site after where
  recorded := hr
  left node profile cpu _ hl := by
    rcases (h.held profile node cpu hl).other_or_own key with ho | ⟨next, hf, hh⟩
    · exact .inr ho
    · exact .inl ⟨next, hr ▸ hf, hh⟩

/-- Nothing was taken back of what is still recorded for a pod that is due nothing. -/
theorem TakenBack.not_of_kept (hf : after.grants.find? key = some g)
    (hdue : site.world.due policy key = none) : ¬ TakenBack policy key g site after := by
  intro h
  have hnone : after.grants.find? key = none := h.recorded.trans hdue
  rw [hf] at hnone
  cases hnone

namespace World

/-- A pod whose record is overlooked is due nothing. -/
theorem Overlooks.due (h : w.Overlooks policy key) : w.due policy key = none := by
  rcases h with hp | ⟨pod, reason, hp, hs, hd⟩
  · simp [World.due, hp]
  · simp [World.due, hp, hs, hd]

theorem due_of_leaving {pod : Pod} (hp : w.pods.find? key.text = some pod)
    (hs : pod.standing = .leaving) : w.due policy key = none := by
  simp [due, hp, hs]

theorem not_overlooks_of_leaving {pod : Pod} (hp : w.pods.find? key.text = some pod)
    (hs : pod.standing = .leaving) : ¬ w.Overlooks policy key := by
  rintro (hnone | ⟨pod', reason, hp', hs', -⟩)
  · rw [hp] at hnone
    cases hnone
  · obtain rfl := Option.some.inj (hp.symm.trans hp')
    rw [hs] at hs'
    cases hs'

theorem not_overlooks_of_asking {pod : Pod} {uid node : String}
    {requests : List (Container × String)} (hp : w.pods.find? key.text = some pod)
    (hd : pod.demand policy = .ok (.profiles uid node requests)) : ¬ w.Overlooks policy key := by
  rintro (hnone | ⟨pod', reason, hp', -, hd'⟩)
  · rw [hp] at hnone
    cases hnone
  · obtain rfl := Option.some.inj (hp.symm.trans hp')
    rw [hd] at hd'
    cases hd'

end World

/-- A reconcile that does not fail has carried out what the tables say. -/
theorem Site.reconcile_finds (hq : site.world.Quiet)
    (hr : (site.reconcile config key).value = .ok outcome) :
    ∃ (world : World) (intent : Intent), world.store = site.world.store ∧
      site.world.Finds config.policy key intent ∧
      Settled key { site with world } intent (site.reconcile config key).value
        (site.reconcile config key).state := by
  have hfinds := surveyed_survey config key site.world
  have hstore := (run_survey config key site.world).2.1
  rcases (run_reconcile World.services_serve config key hq).2 with
    ⟨e, -, hv, -⟩ | ⟨intent, hv, hs⟩
  · rw [Site.reconcile, hv] at hr
    cases hr
  · rw [hv] at hfinds
    exact ⟨_, intent, hstore, hfinds, hs⟩

/-- A release that does not fail leaves no record. -/
theorem Settled.not_found (hs : Settled key site .release result site')
    (hr : result = .ok outcome) : site'.grants.find? key = none := by
  cases hs with
  | unrecorded hf => exact hf
  | kept hf hne hp => exact absurd hr (result_ne_ok hne)
  | released hf hp => rw [Table.find?_erase, if_pos rfl]

/-- A grant that does not fail is recorded. -/
theorem Settled.find?_grant {next : Grant} (hs : Settled key site (.grant next) result site')
    (hr : result = .ok outcome) : site'.grants.find? key = some next := by
  cases hs with
  | stuck hne hp => exact absurd hr (result_ne_ok hne)
  | granted hc hstale hp => rw [Table.find?_insert, if_pos rfl]

/-- A reconcile that does not fail records of its pod what that is due, or else it overlooks the
record and changes nothing. -/
theorem Settled.recorded (hs : Settled key site intent result site') (hr : result = .ok outcome)
    (hw : w.Finds policy key intent) :
    (¬ w.Overlooks policy key ∧ site'.grants.find? key = w.due policy key) ∨
      w.Overlooks policy key ∧ site' = site := by
  cases hw with
  | gone hp =>
    cases hs with
    | skipped => exact .inr ⟨.inl hp, rfl⟩
  | unasking hp hst hd =>
    cases hs with
    | skipped => exact .inr ⟨.inr ⟨_, _, hp, hst, hd⟩, rfl⟩
  | leaving hp hst =>
    have hdue : w.due policy key = none := World.due_of_leaving hp hst
    exact .inl ⟨World.not_overlooks_of_leaving hp hst, (hs.not_found hr).trans hdue.symm⟩
  | asking hp hst hd hdue =>
    exact .inl ⟨World.not_overlooks_of_asking hp hd, (hs.find?_grant hr).trans hdue.symm⟩

/-- A reconcile that does not fail takes back what a pod is not to hold any more, unless it
overlooks what is recorded for the pod: when the pod is gone or asks for nothing, it leaves the
table and the workloads as they are. -/
theorem Reached.taken_back_iff (h : Reached history site) (hf : site.grants.find? key = some g)
    (hr : (site.reconcile config key).value = .ok outcome) :
    (TakenBack config.policy key g site (site.reconcile config key).state ↔
        ¬ site.world.Overlooks config.policy key) ∧
      (site.world.Overlooks config.policy key →
        (site.reconcile config key).state.grants = site.grants ∧
          (site.reconcile config key).state.world.store = site.world.store) := by
  obtain ⟨world, intent, hstore, hfinds, hs⟩ := Site.reconcile_finds h.quiet hr
  have hcov : Covered (site.reconcile config key).state.grants
      (site.reconcile config key).state.world.store.specs :=
    (Reached.reconcile config key h).covered
  rcases hs.recorded hr hfinds with ⟨hno, hrec⟩ | ⟨hover, heq⟩
  · exact ⟨iff_of_true (.of_covered hcov hrec) hno, fun hover => absurd hover hno⟩
  · have hkept : (site.reconcile config key).state.grants.find? key = some g := by
      rw [heq]
      exact hf
    refine ⟨iff_of_false (TakenBack.not_of_kept hkept hover.due) (not_not_intro hover), fun _ => ?_⟩
    rw [heq]
    exact ⟨rfl, hstore⟩

end TakenBack

/-- After both pods of the sample were granted the other tables may change. -/
theorem reached_after_both (world : World) (hs : world.store = Site.both.world.store)
    (hf : world.faults = Site.both.world.faults) :
    world.Calm ∧ ∃ history, Reached history { Site.both with world } := by
  have hboth : Reached _ Site.both :=
    .reconcile {} ⟨"d", "b"⟩ (.reconcile {} ⟨"d", "a"⟩ (reached_sample (by decide)))
  have hcalm : world.Calm := hf.trans (by decide +kernel)
  exact ⟨hcalm, _, hboth.change hs hcalm.quiet⟩

/-- The first pod of the sample has moved to other CPUs after both pods were granted. -/
def Site.moved : Site World :=
  { Site.both with
    world := { Site.both.world with cpus := Site.both.world.cpus.insert "d/a/c" "6-7" } }

/-- What the first pod held is taken back, except for the CPU that the second one holds too. -/
theorem taken_back_moved :
    let after := (Site.moved.reconcile {} ⟨"d", "a"⟩).state
    TakenBack .onePerPod ⟨"d", "a"⟩ ⟨"n1", "a", "d", "u", [⟨"c", "", [4, 5], "perf"⟩]⟩ Site.moved
        after ∧
      after.world.store.specs "perf-workload" = some ⟨"perf", [⟨"n1", [5, 6, 7]⟩]⟩ := by
  refine ⟨?_, by decide +kernel⟩
  obtain ⟨-, history, hreached⟩ := reached_after_both Site.moved.world rfl rfl
  have hf : Site.moved.grants.find? ⟨"d", "a"⟩ =
      some ⟨"n1", "a", "d", "u", [⟨"c", "", [4, 5], "perf"⟩]⟩ := by decide +kernel
  have hr : (Site.moved.reconcile {} ⟨"d", "a"⟩).value = .ok .applied := by decide +kernel
  -- a pod that is due something is not overlooked
  have hdue : Site.moved.world.due .onePerPod ⟨"d", "a"⟩ ≠ none := by decide +kernel
  exact (hreached.taken_back_iff hf hr).1.2 fun hover => hdue hover.due

/-- The second pod of the sample is gone after both pods were granted. -/
def Site.gone : Site World :=
  { Site.both with
    world := { Site.both.world with pods := Site.both.world.pods.erase "d/b" } }

/-- The grant of a pod that is gone is not taken back, although no call fails. -/
theorem not_taken_back_gone :
    ∃ history g, Reached history Site.gone ∧ Site.gone.world.Calm ∧
      Site.gone.grants.find? ⟨"d", "b"⟩ = some g ∧
      (Site.gone.reconcile {} ⟨"d", "b"⟩).value = .ok (.skipped .podNotFound) ∧
      ¬ TakenBack .onePerPod ⟨"d", "b"⟩ g Site.gone (Site.gone.reconcile {} ⟨"d", "b"⟩).state := by
  obtain ⟨hcalm, history, hreached⟩ := reached_after_both Site.gone.world rfl rfl
  have hf : Site.gone.grants.find? ⟨"d", "b"⟩ =
      some ⟨"n1", "b", "d", "u", [⟨"c", "", [5, 6], "perf"⟩]⟩ := by decide +kernel
  have hkept : (Site.gone.reconcile {} ⟨"d", "b"⟩).state.grants.find? ⟨"d", "b"⟩ =
      some ⟨"n1", "b", "d", "u", [⟨"c", "", [5, 6], "perf"⟩]⟩ := by decide +kernel
  have hdue : Site.gone.world.due .onePerPod ⟨"d", "b"⟩ = none := by decide +kernel
  exact ⟨history, _, hreached, hcalm, hf, by decide +kernel, TakenBack.not_of_kept hkept hdue⟩

end PowerGrant
