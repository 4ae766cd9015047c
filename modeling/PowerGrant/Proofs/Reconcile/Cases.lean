import PowerGrant.Proofs.Reconcile.Phase
import PowerGrant.Proofs.Reconcile.Survey

/-!
# What a reconcile comes to

* `Settled`: the ways in which what was found to be necessary can end, each with what it has done to
  the table of grants and to the workloads.
* `run_settle`, `run_reconcile`: a reconcile ends in one of them. `calm_reconcile`: without faults it
  ends without an error.
-/

namespace PowerGrant

/-- What is recorded for a pod before it is given `next`; a pod without a record holds nothing. -/
def GrantTable.before (t : GrantTable) (key : PodKey) (next : Grant) : Grant :=
  (t.find? key).getD { next with containers := [] }

section Before

variable {t : GrantTable} {key : PodKey} {g next : Grant}

theorem GrantTable.before_of_find? (hf : t.find? key = some g) : t.before key next = g := by
  simp [before, hf]

theorem GrantTable.before_of_not_found (hf : t.find? key = none) :
    t.before key next = { next with containers := [] } := by
  simp [before, hf]

end Before

namespace Shares

/-- What is taken back when the pod's record goes away. -/
def ofRelease (t : GrantTable) (key : PodKey) (entry : Grant) : Shares :=
  releasable t key entry.node (ofContainers entry.containers)

/-- What is taken back before the pod is given `next`. -/
def ofStale (t : GrantTable) (key : PodKey) (next : Grant) : Shares :=
  releasable t key (t.before key next).node
    (stale (t.before key next) next.node next.containers)

variable {t : GrantTable} {key : PodKey}

/-- A pod that is recorded with what it is to have has nothing to give back. -/
theorem ofStale_of_find? {next : Grant} (hf : t.find? key = some next) : ofStale t key next = [] := by
  rw [ofStale, GrantTable.before_of_find? hf, stale_self]
  rfl

theorem distinct_ofRelease {entry : Grant} : (ofRelease t key entry).Distinct :=
  (distinct_ofContainers _).releasable

theorem distinct_ofStale {next : Grant} : (ofStale t key next).Distinct :=
  (distinct_stale _ _ _).releasable

end Shares

/-- How a site is left on which an intent was carried out, and with which result. -/
inductive Settled (key : PodKey) (site : Site World) : Intent → Result → Site World → Prop
  | skipped (reason : SkipReason) :
    Settled key site (.skip reason) (.ok (.skipped reason)) site
  /-- There is nothing to release. -/
  | unrecorded (hf : site.grants.find? key = none) :
    Settled key site .release (.ok (.skipped .noRecordedGrant)) site
  /-- A release failed for some profiles, and the record is kept. -/
  | kept {entry : Grant} {failures : List (String × CallFault)} {world : World}
    (hf : site.grants.find? key = some entry) (hne : failures ≠ [])
    (hp : Phased (Specs.removal entry.node) (Shares.ofRelease site.grants key entry) site.world
      failures world) :
    Settled key site .release (Phase.release.result key failures) { site with world }
  | released {entry : Grant} {world : World} (hf : site.grants.find? key = some entry)
    (hp : Phased (Specs.removal entry.node) (Shares.ofRelease site.grants key entry) site.world
      [] world) :
    Settled key site .release (.ok .applied) ⟨site.grants.erase key, world⟩
  /-- Not all that the pod no longer holds could be taken back, and nothing is granted. -/
  | stuck {next : Grant} {failures : List (String × CallFault)} {world : World}
    (hne : failures ≠ [])
    (hp : Phased (Specs.removal (site.grants.before key next).node)
      (Shares.ofStale site.grants key next) site.world failures world) :
    Settled key site (.grant next) (Phase.staleRelease.result key failures) { site with world }
  /-- The grant is recorded, even if it failed for some profiles. -/
  | granted {next : Grant} {failures : List (String × CallFault)} {between world : World}
    (hc : next.Complete)
    (hstale : Phased (Specs.removal (site.grants.before key next).node)
      (Shares.ofStale site.grants key next) site.world [] between)
    (hp : Phased (Specs.adding next.node) (Shares.ofContainers next.containers) between
      failures world) :
    Settled key site (.grant next) (Phase.grant.result key failures)
      ⟨site.grants.insert key next, world⟩

section Run

variable {s : Services World} {inv : World → Prop} {key : PodKey} {site : Site World} {next : Grant}

theorem result_ne_ok {phase : Phase} {failures : List (String × CallFault)} {outcome : Outcome}
    (h : failures ≠ []) : phase.result key failures ≠ .ok outcome := by
  simp [Phase.result, h]

theorem run_settleRelease (h : World.Serves s inv) (config : ReconcileConfig) (key : PodKey)
    (hw : inv site.world) :
    let ran := (settleRelease s config key).run site
    Settled key site .release ran.value ran.state ∧ inv ran.state.world := by
  simp only [settleRelease, Script.bind_eq, Script.pure_eq_done, Script.run_bind, Script.read,
    Script.run, id]
  cases hf : site.grants.find? key with
  | none => exact ⟨.unrecorded hf, hw⟩
  | some entry =>
    obtain ⟨failures, elapsed, world, hrun, hp, hend⟩ := run_releaseShares h config key entry.node
      (Shares.distinct_ofContainers entry.containers) site hw
    simp only [Script.run_bind, hrun]
    by_cases hne : failures = []
    · subst hne
      exact ⟨.released hf hp, hend⟩
    · rw [if_neg hne]
      exact ⟨.kept hf hne hp, hend⟩

/-- The stale shares are released in one phase, which is empty for a pod without a record. -/
theorem run_releaseStale_on (s : Services World) (config : ReconcileConfig) (key : PodKey)
    (next : Grant) (site : Site World) :
    (releaseStale s config key next).run site =
      (changeEach config.callTimeout
        (fun profile cpus => s.workloads.remove config.retry profile
          (site.grants.before key next).node cpus)
        (Shares.ofStale site.grants key next)).onWorld.run site := by
  simp only [releaseStale, Script.bind_eq, Script.pure_eq_done, Script.read, Script.bind,
    Script.run, id]
  cases hf : site.grants.find? key with
  | none =>
    have hnil : Shares.ofStale site.grants key next = [] := by
      rw [Shares.ofStale, GrantTable.before_of_not_found hf]
      rfl
    rw [hnil]
    rfl
  | some previous =>
    rw [Shares.ofStale, GrantTable.before_of_find? hf]
    rfl

theorem run_releaseStale_eq (config : ReconcileConfig) (key : PodKey) (next : Grant)
    (site : Site World) :
    (releaseStale World.services config key next).run site =
      (changeEach config.callTimeout
        (fun profile cpus => World.workloads.remove config.retry profile
          (site.grants.before key next).node cpus)
        (Shares.ofStale site.grants key next)).onWorld.run site :=
  run_releaseStale_on World.services config key next site

theorem run_releaseStale (h : World.Serves s inv) (config : ReconcileConfig) (key : PodKey)
    (next : Grant) (hw : inv site.world) :
    ∃ failures elapsed world,
      (releaseStale s config key next).run site = ⟨failures, elapsed, { site with world }⟩ ∧
        Phased (Specs.removal (site.grants.before key next).node)
          (Shares.ofStale site.grants key next) site.world failures world ∧ inv world := by
  rw [run_releaseStale_on]
  exact ⟨_, _, _, run_onWorld _ site, h.removeEach Shares.distinct_ofStale hw⟩

/-- A complete grant is not refused. -/
theorem record_of_complete (hc : next.Complete) (t : GrantTable) (key : PodKey) :
    GrantTable.record t key next = .ok (t.insert key next) := by
  simp [GrantTable.record, GrantTable.missingPart?, hc.node, hc.uid]

theorem run_recordGrant (hc : next.Complete) (key : PodKey) (site : Site World) :
    (recordGrant key next).run site =
      ⟨.ok (), 0, { site with grants := site.grants.insert key next }⟩ := by
  simp only [recordGrant, Script.modifyGet, Script.run, record_of_complete hc]

theorem run_settleGrant (h : World.Serves s inv) (config : ReconcileConfig) (key : PodKey)
    (hc : next.Complete) (hw : inv site.world) :
    let ran := (settleGrant s config key next).run site
    Settled key site (.grant next) ran.value ran.state ∧ inv ran.state.world := by
  obtain ⟨stale, elapsed, between, hrun, hstale, hb⟩ := run_releaseStale h config key next hw
  simp only [settleGrant, Script.bind_eq, Script.pure_eq_done, Script.run_bind, hrun]
  by_cases hne : stale = []
  · subst hne
    obtain ⟨failures, elapsed', world, hgrant, hp, hend⟩ :=
      run_grantShares h config next.node (Shares.distinct_ofContainers next.containers)
        { site with world := between } hb
    simp only [ne_eq, not_true_eq_false, if_false, Script.run_bind, hgrant,
      run_recordGrant hc]
    exact ⟨.granted hc hstale hp, hend⟩
  · rw [if_pos hne]
    exact ⟨.stuck hne hstale, hb⟩

/-- What was found to be necessary is carried out in one of the ways of `Settled`. -/
theorem run_settle {intent : Intent} (h : World.Serves s inv) (config : ReconcileConfig)
    (key : PodKey) (hc : intent.Complete) (hw : inv site.world) :
    let ran := (settle s config key intent).run site
    Settled key site intent ran.value ran.state ∧ inv ran.state.world := by
  cases intent with
  | skip reason => exact ⟨.skipped reason, hw⟩
  | release => exact run_settleRelease h config key hw
  | grant next => exact run_settleGrant h config key (hc next rfl) hw

/-- A reconcile either fails in its survey or carries out what that has found. -/
theorem run_reconcile (h : World.Serves s inv) (config : ReconcileConfig) (key : PodKey)
    (hw : inv site.world) :
    let found := (survey World.services config key).run.run site.world
    let ran := (reconcile s config key).run site
    inv ran.state.world ∧
      ((∃ e, found.value = .error e ∧ ran.value = .error e ∧
          ran.state = { site with world := found.state }) ∨
        ∃ intent, found.value = .ok intent ∧
          Settled key { site with world := found.state } intent ran.value ran.state) := by
  obtain ⟨hcalled, hstore, hcomplete⟩ := run_survey config key site.world
  have hsurveyed := h.still _ _ hw hcalled (congrArg Versioned.specs hstore)
  simp only [reconcile, h.survey, Script.run_bind, run_onWorld]
  cases hv : ((survey World.services config key).run.run site.world).value with
  | error e => exact ⟨hsurveyed, .inl ⟨e, rfl, rfl, rfl⟩⟩
  | ok intent =>
    obtain ⟨hsettled, hend⟩ := run_settle h config key (hcomplete intent hv)
      (show inv (Site.world ⟨site.grants, _⟩) from hsurveyed)
    exact ⟨hend, .inr ⟨intent, rfl, hsettled⟩⟩

/-! ## Calm worlds -/

theorem calm_settleRelease (config : ReconcileConfig) (key : PodKey) (hw : site.world.Calm) :
    ∃ outcome, ((settleRelease World.services config key).run site).value = .ok outcome := by
  simp only [settleRelease, Script.bind_eq, Script.pure_eq_done, Script.run_bind, Script.read,
    Script.run, id]
  cases site.grants.find? key with
  | none => exact ⟨_, rfl⟩
  | some entry =>
    simp only [Script.run_bind, run_releaseShares_eq, run_onWorld, World.calm_removeEach hw]
    exact ⟨.applied, rfl⟩

theorem calm_settleGrant (config : ReconcileConfig) (key : PodKey) (hc : next.Complete)
    (hw : site.world.Calm) :
    ∃ outcome, ((settleGrant World.services config key next).run site).value = .ok outcome := by
  obtain ⟨stale, elapsed, between, hrun, hstale, hquiet⟩ :=
    run_releaseStale World.services_serve config key next hw.quiet
  have hnone : stale = [] := by
    have h := congrArg Ran.value hrun
    rw [run_releaseStale_eq, run_onWorld, World.calm_removeEach hw] at h
    exact h.symm
  obtain ⟨failures, elapsed', world, hgrant, -⟩ :=
    run_grantShares World.services_serve config next.node
      (Shares.distinct_ofContainers next.containers) { site with world := between } hquiet
  have hnone' : failures = [] := by
    have h := congrArg Ran.value hgrant
    rw [run_grantShares_eq, run_onWorld, World.calm_addEach (hstale.called.calm hw)] at h
    exact h.symm
  subst hnone hnone'
  simp only [settleGrant, Script.bind_eq, Script.pure_eq_done, Script.run_bind, hrun, ne_eq,
    not_true_eq_false, if_false, hgrant, run_recordGrant hc]
  exact ⟨.applied, rfl⟩

/-- Without faults, what was found to be necessary is carried out without an error. -/
theorem calm_reconcile {intent : Intent} (config : ReconcileConfig) (key : PodKey)
    (hw : site.world.Calm)
    (hv : ((survey World.services config key).run.run site.world).value = .ok intent) :
    ∃ outcome, ((reconcile World.services config key).run site).value = .ok outcome := by
  obtain ⟨hcalled, -, hcomplete⟩ := run_survey config key site.world
  have hcalm := hcalled.calm hw
  simp only [reconcile, Script.run_bind, run_onWorld, hv]
  cases intent with
  | skip reason => exact ⟨_, rfl⟩
  | release => exact calm_settleRelease config key hcalm
  | grant next => exact calm_settleGrant config key (hcomplete _ hv next rfl) hcalm

end Run

end PowerGrant
