import PowerGrant.Proofs.Reconcile.Order
import PowerGrant.Proofs.Reconcile.Runs

/-!
# Reconciling again

A reconcile that was applied has nothing left to do: when the same pod is reconciled once more, every
workload is found as it is to be, and nothing is written. For a pod that was released the record is
gone, and the store is not even called.

What carries the argument is that CPUs that were added are found in the entry to which they would be
added again, whatever else the workload held before.

* `Site.steps`, `Site.grantSteps`: the steps of a reconcile, and those from the start of its grant.
* `World.addEach_undisturbed`: what a phase of a grant leaves. `World.run_addEach_again`: the same
  phase once more.
* `Site.reconcile_again`: a reconcile after one that was applied.
-/

namespace PowerGrant

/-- The steps of a script, as the services see them. -/
def Script.worldTrace {α : Type} (x : Script (Site World) α) (site : Site World) :
    List (World × World) :=
  (x.trace site).map fun e => (e.1.world, e.2.world)

namespace Site

/-- The steps of a reconcile. -/
def steps (site : Site World) (config : ReconcileConfig) (key : PodKey) : List (World × World) :=
  (PowerGrant.reconcile World.services config key).worldTrace site

/-- The steps of a reconcile from the moment at which it starts to grant, if it comes to that: what
the pod does not hold any more has been taken back by then. -/
def grantSteps (site : Site World) (config : ReconcileConfig) (key : PodKey) :
    List (World × World) :=
  let found := (survey World.services config key).run.run site.world
  match found.value with
  | .ok (.grant next) =>
    let released := (releaseStale World.services config key next).run
      { site with world := found.state }
    if released.value = [] then
      (grantShares World.services config next.node
        (Shares.ofContainers next.containers)).worldTrace released.state
    else []
  | _ => []

/-- The site is as a reconcile of `site` has left it, and the tables of its world are the same; other
faults may stand ready. -/
structure Follows (site : Site World) (config : ReconcileConfig) (key : PodKey)
    (later : Site World) : Prop where
  grants : later.grants = (site.reconcile config key).state.grants
  store : later.world.store = (site.reconcile config key).state.world.store
  tables : site.world.SameTables later.world

end Site

/-! ## The phase of a grant -/

section Phase

variable {shares : Shares} {limit : Nat} {r : Retry} {node : String} {w : World}

namespace World

/-- Adding shares on `node`, as a phase of a grant. -/
abbrev addEach (limit : Nat) (r : Retry) (node : String) (shares : Shares) :
    Script World (List (String × CallFault)) :=
  changeEach limit (fun profile cpus => workloads.add r profile node cpus) shares

/-- A phase in which nobody else writes and nothing fails has added all shares. -/
theorem addEach_undisturbed (hd : shares.Distinct)
    (hu : Undisturbed ((addEach limit r node shares).trace w))
    (hv : ((addEach limit r node shares).run w).value = []) :
    Specs.Wholly (Specs.adding node) shares w.store.specs
      ((addEach limit r node shares).run w).state.store.specs := by
  induction shares generalizing w with
  | nil => exact ⟨(fun _ h => nomatch h), fun _ _ => rfl⟩
  | cons e rest ih =>
    obtain ⟨profile, cpus⟩ := e
    obtain ⟨hstate, hvalue⟩ := run_changeEach_cons limit
      (fun profile cpus => workloads.add r profile node cpus) profile cpus rest w
    rw [addEach, trace_changeEach_cons] at hu
    rw [addEach, hvalue] at hv
    rw [addEach, hstate]
    cases hfirst : ((bounded limit (workloads.add r profile node cpus)).run w).value with
    | error fault =>
      rw [hfirst] at hv
      cases hv
    | ok change =>
      rw [hfirst] at hv
      have hleft := add_leaves (hu.mono (List.subset_append_left _ _)) hfirst
      exact (ih (List.nodup_cons.1 hd).2 (hu.mono (List.subset_append_right _ _)) hv).cons hd
        (hleft.sets change rfl)

/-- A phase whose shares are there already reads every workload, and that is all. -/
theorem run_addEach_again (hs : Spared limit ((addEach limit r node shares).trace w))
    (hu : Undisturbed ((addEach limit r node shares).trace w))
    (h : ∀ e ∈ shares, Spec.added e.1 node e.2 (w.store.specs (workloadName e.1)) =
      w.store.specs (workloadName e.1)) :
    ((addEach limit r node shares).run w).value = [] ∧
      ((addEach limit r node shares).run w).state.store = w.store ∧
      ((addEach limit r node shares).run w).state.calls =
        w.calls ++ shares.map fun e => ⟨.getWorkload, workloadName e.1, .none⟩ := by
  induction shares generalizing w with
  | nil => exact ⟨rfl, rfl, (List.append_nil _).symm⟩
  | cons e rest ih =>
    obtain ⟨profile, cpus⟩ := e
    obtain ⟨hstate, hvalue⟩ := run_changeEach_cons limit
      (fun profile cpus => workloads.add r profile node cpus) profile cpus rest w
    rw [addEach, trace_changeEach_cons] at hs hu
    obtain ⟨hadd, hrest⟩ := List.forall_mem_cons.1 h
    obtain ⟨elapsed, t, hrun, hstore, hcalls⟩ := run_add_again
      (hs.mono (List.subset_append_left _ _)) (hu.mono (List.subset_append_left _ _)) hadd
    rw [hrun] at hs hu hstate hvalue
    obtain ⟨hnil, hsame, hlater⟩ := ih (hs.mono (List.subset_append_right _ _))
      (hu.mono (List.subset_append_right _ _)) (hstore ▸ hrest)
    rw [addEach, hstate, hvalue]
    refine ⟨hnil, hsame.trans hstore, ?_⟩
    rw [hlater, hcalls, List.append_assoc]
    rfl

end World

end Phase

/-! ## A grant once and again -/

section Grant

variable {config : ReconcileConfig} {key : PodKey} {next : Grant} {site : Site World}

namespace Script

variable {α β : Type}

theorem worldTrace_bind (x : Script (Site World) α) (f : α → Script (Site World) β)
    (site : Site World) :
    (x.bind f).worldTrace site =
      x.worldTrace site ++ (f (x.run site).value).worldTrace (x.run site).state := by
  simp only [worldTrace, trace_bind, List.map_append]

theorem worldTrace_onWorld (x : Script World α) (site : Site World) :
    x.onWorld.worldTrace site = x.trace site.world :=
  map_trace_onPart (fun _ _ => rfl) x site

end Script

/-- A grant after all that was stale has been taken back. -/
theorem run_settleGrant_of_released (hc : next.Complete) {elapsed : Nat} {between : World}
    (hreleased : (releaseStale World.services config key next).run site =
      ⟨[], elapsed, { site with world := between }⟩) :
    let granted := (World.addEach config.callTimeout config.retry next.node
      (Shares.ofContainers next.containers)).run between
    ((settleGrant World.services config key next).run site).value =
        Phase.grant.result key granted.value ∧
      ((settleGrant World.services config key next).run site).state =
        ⟨site.grants.insert key next, granted.state⟩ := by
  have hgranted : (grantShares World.services config next.node
      (Shares.ofContainers next.containers)).run { site with world := between } = _ :=
    run_onWorld _ _
  simp only [settleGrant, Script.bind_eq, Script.pure_eq_done, Script.run_bind, hreleased, ne_eq,
    not_true_eq_false, if_false, hgranted, run_recordGrant hc]
  exact ⟨rfl, rfl⟩

/-- The steps of such a grant include those of its phase. -/
theorem grantShares_subset_settleGrant
    (hnil : ((releaseStale World.services config key next).run site).value = []) :
    (grantShares World.services config next.node
        (Shares.ofContainers next.containers)).worldTrace
      ((releaseStale World.services config key next).run site).state ⊆
      (settleGrant World.services config key next).worldTrace site := by
  simp only [settleGrant, Script.bind_eq, Script.worldTrace_bind, hnil, ne_eq, not_true_eq_false,
    if_false]
  exact List.subset_append_of_subset_right _ (List.subset_append_left _ _)

theorem worldTrace_grantShares (node : String) (shares : Shares) :
    (grantShares World.services config node shares).worldTrace site =
      (World.addEach config.callTimeout config.retry node shares).trace site.world :=
  Script.worldTrace_onWorld _ site

/-- A grant that is applied has taken back all that was stale, and then nothing has failed. -/
theorem run_settleGrant_applied (hc : next.Complete)
    (h : ((settleGrant World.services config key next).run site).value = .ok .applied) :
    ∃ elapsed between, (releaseStale World.services config key next).run site =
        ⟨[], elapsed, { site with world := between }⟩ ∧
      ((World.addEach config.callTimeout config.retry next.node
        (Shares.ofContainers next.containers)).run between).value = [] := by
  obtain ⟨stale, elapsed, between, hrun⟩ : ∃ stale elapsed between,
      (releaseStale World.services config key next).run site =
        ⟨stale, elapsed, { site with world := between }⟩ := by
    rw [run_releaseStale_eq, run_onWorld]
    exact ⟨_, _, _, rfl⟩
  by_cases hstale : stale = []
  · subst hstale
    refine ⟨elapsed, between, hrun, Classical.byContradiction fun hne => ?_⟩
    rw [(run_settleGrant_of_released hc hrun).1] at h
    exact result_ne_ok hne h
  · simp only [settleGrant, Script.bind_eq, Script.pure_eq_done, Script.run_bind, hrun, ne_eq,
      hstale, not_false_eq_true, if_true] at h
    exact absurd h (result_ne_ok hstale)

/-- What a grant that is applied leaves, if nobody else writes during its phase: it is recorded, and
to add it once more would change no workload. -/
theorem settleGrant_leaves (hc : next.Complete) {elapsed : Nat} {between : World}
    (hreleased : (releaseStale World.services config key next).run site =
      ⟨[], elapsed, { site with world := between }⟩)
    (h : ((settleGrant World.services config key next).run site).value = .ok .applied)
    (hu : World.Undisturbed ((World.addEach config.callTimeout config.retry next.node
      (Shares.ofContainers next.containers)).trace between)) :
    let after := ((settleGrant World.services config key next).run site).state
    after.grants.find? key = some next ∧ ∀ e ∈ Shares.ofContainers next.containers,
      Spec.added e.1 next.node e.2 (after.world.store.specs (workloadName e.1)) =
        after.world.store.specs (workloadName e.1) := by
  obtain ⟨hvalue, hstate⟩ := run_settleGrant_of_released hc hreleased
  have hnil : ((World.addEach config.callTimeout config.retry next.node
      (Shares.ofContainers next.containers)).run between).value = [] := by
    rw [hvalue] at h
    exact Classical.byContradiction fun hne => result_ne_ok hne h
  have hwholly := World.addEach_undisturbed (Shares.distinct_ofContainers _) hu hnil
  rw [hstate]
  refine ⟨by rw [Table.find?_insert, if_pos rfl], fun e he => ?_⟩
  rw [hwholly.dealt e he]
  exact Spec.added_added

/-- A grant of what is recorded and in the workloads already changes nothing. -/
theorem run_settleGrant_again (hc : next.Complete) (hf : site.grants.find? key = some next)
    (hadded : ∀ e ∈ Shares.ofContainers next.containers,
      Spec.added e.1 next.node e.2 (site.world.store.specs (workloadName e.1)) =
        site.world.store.specs (workloadName e.1))
    (hs : World.Spared config.callTimeout
      ((settleGrant World.services config key next).worldTrace site))
    (hu : World.Undisturbed ((settleGrant World.services config key next).worldTrace site)) :
    let ran := (settleGrant World.services config key next).run site
    ran.value = .ok .applied ∧ ran.state.grants = site.grants ∧
      ran.state.world.store = site.world.store ∧
      ran.state.world.calls = site.world.calls ++ (Shares.ofContainers next.containers).map
        fun e => ⟨.getWorkload, workloadName e.1, .none⟩ := by
  have hreleased : (releaseStale World.services config key next).run site = ⟨[], 0, site⟩ := by
    rw [run_releaseStale_eq, Shares.ofStale_of_find? hf, run_onWorld]
    rfl
  have hsteps := grantShares_subset_settleGrant (congrArg Ran.value hreleased)
  rw [hreleased, worldTrace_grantShares] at hsteps
  obtain ⟨hvalue, hstate⟩ := run_settleGrant_of_released hc hreleased
  obtain ⟨hnil, hstore, hcalls⟩ :=
    World.run_addEach_again (hs.mono hsteps) (hu.mono hsteps) hadded
  dsimp only
  rw [hvalue, hstate, hnil]
  refine ⟨rfl, Table.ext_find? fun k => ?_, hstore, hcalls⟩
  rw [Table.find?_insert]
  split
  · rename_i hk
    rw [hk, hf]
  · rfl

end Grant

/-! ## The release -/

section Release

variable {config : ReconcileConfig} {key : PodKey} {site : Site World}

/-- A release that is applied leaves no record. -/
theorem run_settleRelease_applied
    (h : ((settleRelease World.services config key).run site).value = .ok .applied) :
    ((settleRelease World.services config key).run site).state.grants.find? key = none := by
  simp only [settleRelease, Script.bind_eq, Script.pure_eq_done, Script.run_bind, Script.read,
    Script.run, id] at h ⊢
  cases hf : site.grants.find? key with
  | none =>
    rw [hf] at h
    cases h
  | some entry =>
    rw [hf] at h
    simp only [Script.run_bind] at h ⊢
    split at h
    case isTrue hnil =>
      rw [if_pos hnil]
      show (Table.erase _ key).find? key = none
      rw [Table.find?_erase, if_pos rfl]
    case isFalse hne => exact absurd h (result_ne_ok hne)

/-- Without a record there is nothing to release. -/
theorem run_settleRelease_unrecorded (config : ReconcileConfig)
    (hf : site.grants.find? key = none) :
    (settleRelease World.services config key).run site =
      ⟨.ok (.skipped .noRecordedGrant), 0, site⟩ := by
  simp only [settleRelease, Script.bind_eq, Script.pure_eq_done, Script.run_bind, Script.read,
    Script.run, id, hf]

end Release

/-! ## The reconciles -/

namespace Site

variable {config : ReconcileConfig} {key : PodKey} {site later : Site World} {intent : Intent}
  {pod : Pod}

/-- What the survey of a reconcile has found that is applied: for a pod that runs a grant, and for
one that leaves its release. -/
theorem found_of_applied (h : (site.reconcile config key).value = .ok .applied)
    (hp : site.world.pods.find? key.text = some pod) :
    ∃ intent, ((survey World.services config key).run.run site.world).value = .ok intent ∧
      intent.Complete ∧ (pod.standing = .running → ∃ next, intent = .grant next) ∧
      (pod.standing = .leaving → intent = .release) := by
  have hcomplete := (run_survey config key site.world).2.2
  have hsurveyed := surveyed_survey config key site.world
  cases hv : ((survey World.services config key).run.run site.world).value with
  | error e =>
    simp only [Site.reconcile, PowerGrant.reconcile, Script.run_bind, run_onWorld, hv] at h
    cases h
  | ok intent =>
    rw [hv] at hsurveyed
    rw [(Site.reconcile_found hv).1] at h
    refine ⟨intent, rfl, hcomplete intent hv, ?_⟩
    cases hsurveyed with
    | gone => cases h
    | unasking => cases h
    | leaving hp' hs =>
      obtain rfl := Option.some.inj (hp.symm.trans hp')
      refine ⟨fun hr => ?_, fun _ => rfl⟩
      cases hr.symm.trans hs
    | asking hp' hs =>
      obtain rfl := Option.some.inj (hp.symm.trans hp')
      refine ⟨fun _ => ⟨_, rfl⟩, fun hl => ?_⟩
      cases hl.symm.trans hs

/-- The steps of a reconcile are those of its survey, and those of what that has found. -/
theorem steps_of_found
    (hv : ((survey World.services config key).run.run site.world).value = .ok intent) :
    site.steps config key = (survey World.services config key).run.trace site.world ++
      (settle World.services config key intent).worldTrace
        { site with world := ((survey World.services config key).run.run site.world).state } := by
  rw [steps, PowerGrant.reconcile, Script.worldTrace_bind, Script.worldTrace_onWorld, run_onWorld, hv]

theorem survey_subset_steps (site : Site World) (config : ReconcileConfig) (key : PodKey) :
    (survey World.services config key).run.trace site.world ⊆ site.steps config key := by
  rw [steps, PowerGrant.reconcile, Script.worldTrace_bind, Script.worldTrace_onWorld]
  exact List.subset_append_left _ _

/-- A reconcile that finds what has been granted already changes nothing. -/
theorem reconcile_of_granted {next : Grant} (hc : next.Complete)
    (hv : ((survey World.services config key).run.run later.world).value = .ok (.grant next))
    (hf : later.grants.find? key = some next)
    (hadded : ∀ e ∈ Shares.ofContainers next.containers,
      Spec.added e.1 next.node e.2 (later.world.store.specs (workloadName e.1)) =
        later.world.store.specs (workloadName e.1))
    (hs : World.Spared config.callTimeout (later.steps config key))
    (hu : World.Undisturbed (later.steps config key)) :
    let again := later.reconcile config key
    again.value = .ok .applied ∧
      (∀ c ∈ later.world.madeSince again.state.world, c.method.writes = false) ∧
      again.state.world.store = later.world.store ∧ again.state.grants = later.grants := by
  obtain ⟨asked, hasked, hoff, hstore⟩ := survey_asks config key later.world
  let surveyed : Site World :=
    { later with world := ((survey World.services config key).run.run later.world).state }
  have hsettle : (settle World.services config key (.grant next)).worldTrace surveyed ⊆
      later.steps config key := by
    rw [steps_of_found hv]
    exact List.subset_append_right _ _
  obtain ⟨happlied, hgrants, hsame, hcalls⟩ := @run_settleGrant_again config key next surveyed hc hf
    (hstore.symm ▸ hadded) (hs.mono hsettle) (hu.mono hsettle)
  obtain ⟨hvalue, hstate⟩ := Site.reconcile_found hv
  dsimp only
  rw [hvalue, hstate]
  refine ⟨happlied, fun c hc => ?_, hsame.trans hstore, hgrants⟩
  -- the calls made are questions and reads of workloads
  have hall : ((settle World.services config key (.grant next)).run surveyed).state.world.calls =
      later.world.calls ++ (asked ++ (Shares.ofContainers next.containers).map
        fun e => ⟨.getWorkload, workloadName e.1, .none⟩) := by
    rw [← List.append_assoc, ← hasked]
    exact hcalls
  rw [World.madeSince, hall, List.drop_left] at hc
  rcases List.mem_append.1 hc with hc | hc
  · exact Method.writes_of_not_onStore (hoff c hc)
  · obtain ⟨e, -, rfl⟩ := List.mem_map.1 hc
    rfl

/-- A reconcile again of a pod that has been released calls no store and changes nothing. -/
theorem reconcile_of_released
    (hv : ((survey World.services config key).run.run later.world).value = .ok .release)
    (hf : later.grants.find? key = none) :
    let again := later.reconcile config key
    again.value = .ok (.skipped .noRecordedGrant) ∧
      (∀ c ∈ later.world.madeSince again.state.world, c.method.onStore = false) ∧
      again.state.world.store = later.world.store ∧ again.state.grants = later.grants := by
  obtain ⟨asked, hasked, hoff, hstore⟩ := survey_asks config key later.world
  obtain ⟨hvalue, hstate⟩ := Site.reconcile_found hv
  let surveyed : Site World :=
    { later with world := ((survey World.services config key).run.run later.world).state }
  have hrun : (settle World.services config key .release).run surveyed =
      ⟨.ok (.skipped .noRecordedGrant), 0, surveyed⟩ := run_settleRelease_unrecorded config hf
  dsimp only
  rw [hvalue, hstate, hrun]
  refine ⟨rfl, fun c hc => hoff c ?_, hstore, rfl⟩
  rwa [World.madeSince, show surveyed.world.calls = _ from hasked, List.drop_left] at hc

theorem grantSteps_of_found {next : Grant} {elapsed : Nat} {between : World}
    (hv : ((survey World.services config key).run.run site.world).value = .ok (.grant next))
    (hreleased : (releaseStale World.services config key next).run
        { site with world := ((survey World.services config key).run.run site.world).state } =
      ⟨[], elapsed, { site with world := between }⟩) :
    site.grantSteps config key = (World.addEach config.callTimeout config.retry next.node
      (Shares.ofContainers next.containers)).trace between := by
  simp only [grantSteps, hv, hreleased, if_true, worldTrace_grantShares]

/-- What a reconcile of a running pod that is applied leaves, if nobody else writes from when its
grant starts. -/
theorem granted_of_applied {next : Grant} (hc : next.Complete)
    (hv : ((survey World.services config key).run.run site.world).value = .ok (.grant next))
    (happlied : (site.reconcile config key).value = .ok .applied)
    (hu : World.Undisturbed (site.grantSteps config key)) :
    let after := (site.reconcile config key).state
    after.grants.find? key = some next ∧ ∀ e ∈ Shares.ofContainers next.containers,
      Spec.added e.1 next.node e.2 (after.world.store.specs (workloadName e.1)) =
        after.world.store.specs (workloadName e.1) := by
  obtain ⟨hvalue, hstate⟩ := Site.reconcile_found hv
  rw [hvalue] at happlied
  obtain ⟨elapsed, between, hreleased, -⟩ := run_settleGrant_applied hc happlied
  rw [grantSteps_of_found hv hreleased] at hu
  rw [hstate]
  exact settleGrant_leaves hc hreleased happlied hu

/-- Reconciling again changes nothing. When a reconcile of a running pod was applied and nobody else
has written since its grant started, another one in which no call fails is applied as well: it writes
to no workload and leaves the store, versions included, and the table as they are. When a reconcile
of a pod that leaves was applied, another one finds no record and does not call the store. -/
theorem reconcile_again (happlied : (site.reconcile config key).value = .ok .applied)
    (hlater : site.Follows config key later)
    (hp : site.world.pods.find? key.text = some pod)
    (hs : World.Spared config.callTimeout (later.steps config key)) :
    let again := later.reconcile config key
    (pod.standing = .running → World.Undisturbed (site.grantSteps config key) →
      World.Undisturbed (later.steps config key) →
      again.value = .ok .applied ∧
        (∀ c ∈ later.world.madeSince again.state.world, c.method.writes = false) ∧
        again.state.world.store = later.world.store ∧ again.state.grants = later.grants) ∧
    (pod.standing = .leaving →
      again.value = .ok (.skipped .noRecordedGrant) ∧
        (∀ c ∈ later.world.madeSince again.state.world, c.method.onStore = false) ∧
        again.state.world.store = later.world.store ∧ again.state.grants = later.grants) := by
  obtain ⟨intent, hv, hc, hgrant, hrelease⟩ := found_of_applied happlied hp
  -- the survey finds the same again
  have hv' := (survey_agrees config key).value site.world later.world intent hlater.tables
    (hs.mono (survey_subset_steps later config key)) hv
  refine ⟨fun hr hu hu' => ?_, fun hl => ?_⟩
  · obtain ⟨next, rfl⟩ := hgrant hr
    obtain ⟨hf, hadded⟩ := granted_of_applied (hc next rfl) hv happlied hu
    refine reconcile_of_granted (hc next rfl) hv' (hlater.grants ▸ hf) ?_ hs hu'
    rw [hlater.store]
    exact hadded
  · obtain rfl := hrelease hl
    obtain ⟨hvalue, hstate⟩ := Site.reconcile_found hv
    refine reconcile_of_released hv' ?_
    rw [hlater.grants, hstate]
    rw [hvalue] at happlied
    exact run_settleRelease_applied happlied

/-- A site whose pod is recorded with something else, and whose workloads are in disorder. Another
writer merges a CPU into the workload of which the pod's CPU is taken out, and the first write of the
other workload meets a conflict. -/
def disorder : Site World where
  grants := .ofList [(⟨"d", "a"⟩, ⟨"n1", "a", "d", "u", [⟨"c", "", [9], "slow"⟩]⟩)]
  world := { World.sample
      [{ method := .getWorkload, key := some "slow-workload", peer := [.merge "n1" [8]] },
        { method := .replaceWorkload, key := some "perf-workload", conflict := true }] with
    cpus := .ofList [("d/a/c", "5,4,5")]
    store := (({} : Versioned).put ⟨some "slow-workload", none, ⟨"slow", [⟨"n1", [9]⟩]⟩⟩).put
      ⟨some "perf-workload", none, ⟨"perf", [⟨"n1", [7, 3, 3]⟩, ⟨"n1", [5]⟩]⟩⟩ }

/-- The site after a reconcile, with a world whose store is slow. -/
def thenSlow (site : Site World) : Site World where
  grants := (site.reconcile {} ⟨"d", "a"⟩).state.grants
  world := { site.world with
    store := (site.reconcile {} ⟨"d", "a"⟩).state.world.store
    faults := [{ method := .getWorkload, times := none, delayAfter := 2000 }] }

/-- The site with its pod on its way out. -/
def departing (site : Site World) : Site World :=
  { site with world := { site.world with
      pods := .ofList [("d/a", { Pod.sample "a" with deleting := true })] } }

/-- The CPUs are in the first entry of the node now and are not added to it again; when the pod leaves
there is one release. -/
theorem reconcile_again_disorder :
    disorder.thenSlow.world.store.specs "perf-workload" =
        some ⟨"perf", [⟨"n1", [3, 4, 5, 7]⟩, ⟨"n1", [5]⟩]⟩ ∧
      disorder.thenSlow.world.store.specs "slow-workload" = some ⟨"slow", [⟨"n1", [8]⟩]⟩ ∧
      (disorder.thenSlow.reconcile {} ⟨"d", "a"⟩).value = .ok .applied ∧
      (disorder.thenSlow.reconcile {} ⟨"d", "a"⟩).state.world.store = disorder.thenSlow.world.store ∧
      (disorder.departing.thenSlow.reconcile {} ⟨"d", "a"⟩).value =
        .ok (.skipped .noRecordedGrant) := by
  have hfollows (site : Site World) : site.Follows {} ⟨"d", "a"⟩ site.thenSlow :=
    ⟨rfl, rfl, ⟨rfl, rfl, rfl, rfl⟩⟩
  have hstays : disorder.world.pods.find? (PodKey.text ⟨"d", "a"⟩) = some (Pod.sample "a") := by
    decide +kernel
  have hleaves : disorder.departing.world.pods.find? (PodKey.text ⟨"d", "a"⟩) =
      some { Pod.sample "a" with deleting := true } := by decide +kernel
  obtain ⟨hvalue, -, hstore, -⟩ := (reconcile_again (by decide +kernel) (hfollows disorder) hstays
    (by decide +kernel)).1 (by decide) (by decide +kernel) (by decide +kernel)
  obtain ⟨hskipped, -⟩ := (reconcile_again (by decide +kernel) (hfollows disorder.departing) hleaves
    (by decide +kernel)).2 (by decide)
  exact ⟨by decide +kernel, by decide +kernel, hvalue, hstore, hskipped⟩

end Site

end PowerGrant
