import PowerGrant.Proofs.Reconcile.Order
import PowerGrant.Proofs.Reconcile.Runs

/-!
# One profile after the other

In each phase of a reconcile every profile that has CPUs to change takes its turn, in the order of
the profiles and whatever came of the turns before. The phase fails if a turn has failed, and then it
names the profiles of those turns; what the other turns have done stays done.

* `Turn`: what a phase does about one profile. `World.Taken`: turns one after the other.
* `World.TakesTurns`: what a phase comes to. `changeEach_takesTurns`: each phase comes to that.
* `Shares.Just`: the shares of a phase are what is to be changed in it.
* `Site.reconcile_takes_turns`: the phases of a reconcile, the error it ends with and what it leaves
  in the table.
-/

namespace PowerGrant

/-- What a phase does about the workload of one profile. -/
structure Turn where
  profile : String
  /-- The CPUs that are to be taken out or added. -/
  cpus : List CpuId
  /-- The calls made for it. -/
  calls : List Call
  result : Except CallFault WorkloadChange

/-- The share of its profile that a turn deals with. -/
def Turn.share (t : Turn) : String × List CpuId := (t.profile, t.cpus)

/-- The profiles whose turns have failed, in the order of the turns, each with its fault. -/
def failuresOf (turns : List Turn) : List (String × CallFault) :=
  turns.filterMap fun t =>
    match t.result with
    | .ok _ => none
    | .error fault => some (t.profile, fault)

/-- The end of a phase in which these turns were taken: one error names those that failed, with
their count. -/
inductive Phase.Ends (phase : Phase) (key : PodKey) (turns : List Turn) : Result → Prop
  | applied (h : ∀ t ∈ turns, ∃ change, t.result = .ok change) : Ends phase key turns (.ok .applied)
  | failed {e : TransientError} (h : failuresOf turns ≠ [])
    (he : e = .partialFailure phase key (failuresOf turns))
    (hm : e.message =
      s!"{phase.words} of CPUs for pod {key.text} failed for {(failuresOf turns).length} profile(s): "
        ++ "; ".intercalate
          ((failuresOf turns).map fun f => s!"{f.1}: {f.2.message .workloadUpdate}")) :
    Ends phase key turns (.error (.transient e))

namespace World

/-- The turn of a profile that begins in `w`: an update under the timeout. -/
def turn (limit : Nat) (change : String → List CpuId → Script World (Answer WorkloadChange))
    (profile : String) (cpus : List CpuId) (w : World) : Turn :=
  let ran := (bounded limit (change profile cpus)).run w
  ⟨profile, cpus, w.madeSince ran.state, ran.value⟩

/-- Turns that were taken from `w` to `w'`: each begins where the one before it has ended. -/
inductive Taken (limit : Nat) (change : String → List CpuId → Script World (Answer WorkloadChange)) :
    World → List Turn → World → Prop
  | none (w : World) : Taken limit change w [] w
  | next {profile : String} {cpus : List CpuId} {w w' : World} {turns : List Turn}
    (h : Taken limit change ((bounded limit (change profile cpus)).run w).state turns w') :
    Taken limit change w (turn limit change profile cpus w :: turns) w'

/-- What a phase over `shares` comes to that began in `w` and ended in `w'`. -/
structure TakesTurns (limit : Nat)
    (change : String → List CpuId → Script World (Answer WorkloadChange)) (op : Specs.Operation)
    (shares : Shares) (w : World) (turns : List Turn) (w' : World) : Prop where
  /-- Every share has its turn, in their order. -/
  shares : turns.map Turn.share = shares
  taken : Taken limit change w turns w'
  called : w.Called w'
  /-- No other calls were made. -/
  calls : w'.calls = w.calls ++ turns.flatMap Turn.calls
  /-- A turn calls the store about its own workload, once at least. -/
  own : ∀ t ∈ turns, t.calls ≠ [] ∧
    ∀ c ∈ t.calls, c.method.onStore = true ∧ c.key = workloadName t.profile
  /-- What a turn has done that did not fail is there at the end of the phase. -/
  done : ∀ t ∈ turns, ∀ change, t.result = .ok change →
    w'.store.specs (workloadName t.profile) =
      op t.profile t.cpus (w.store.specs (workloadName t.profile))

end World

namespace GrantTable

/-- What is taken back when a pod's record goes away: what it holds and no other pod does. -/
def Releases (t : GrantTable) (key : PodKey) (entry : Grant) (profile : String) (cpu : CpuId) :
    Prop :=
  entry.Holds entry.node profile cpu ∧ ¬ t.HeldByOther key entry.node profile cpu

/-- What is taken back before a pod is given `next`: what it does not hold any more. -/
def Stale (t : GrantTable) (key : PodKey) (next : Grant) (profile : String) (cpu : CpuId) : Prop :=
  ∃ previous, t.find? key = some previous ∧ t.Releases key previous profile cpu ∧
    ¬ next.Holds previous.node profile cpu

end GrantTable

/-- The shares are what is to be changed, with the profiles in their order. -/
structure Shares.Just (changing : String → CpuId → Prop) (s : Shares) : Prop where
  rises : Rises (s.map Prod.fst)
  ne_nil : ∀ e ∈ s, e.2 ≠ []
  has : ∀ profile cpu, s.Has profile cpu ↔ changing profile cpu

/-! ## The turns of a phase -/

section Turns

variable {op : Specs.Operation} {limit : Nat} {profile : String} {cpus : List CpuId}
  {change : String → List CpuId → Script World (Answer WorkloadChange)} {shares : Shares}
  {w w' : World} {turns : List Turn}

theorem failuresOf_cons (t : Turn) (turns : List Turn) :
    failuresOf (t :: turns) =
      match t.result with
      | .ok _ => failuresOf turns
      | .error fault => (t.profile, fault) :: failuresOf turns := by
  unfold failuresOf
  rw [List.filterMap_cons]
  cases t.result <;> rfl

theorem failuresOf_eq_nil : failuresOf turns = [] ↔ ∀ t ∈ turns, ∃ done, t.result = .ok done := by
  unfold failuresOf
  rw [List.filterMap_eq_nil_iff]
  refine forall_congr' fun t => forall_congr' fun _ => ?_
  cases t.result <;> simp

namespace World

/-- The first turn of a phase, and what the others come to. -/
theorem TakesTurns.next (hd : Shares.Distinct ((profile, cpus) :: shares))
    (hu : w.Updated (workloadName profile) (op profile cpus)
      ((bounded limit (change profile cpus)).run w))
    (hs : w.StoredFor (workloadName profile) ((bounded limit (change profile cpus)).run w).state)
    (hrest : w'.store.specs (workloadName profile) =
      ((bounded limit (change profile cpus)).run w).state.store.specs (workloadName profile))
    (h : TakesTurns limit change op shares ((bounded limit (change profile cpus)).run w).state
      turns w') :
    TakesTurns limit change op ((profile, cpus) :: shares) w
      (turn limit change profile cpus w :: turns) w' := by
  have hturn : turn limit change profile cpus w =
      ⟨profile, cpus, w.madeSince ((bounded limit (change profile cpus)).run w).state,
        ((bounded limit (change profile cpus)).run w).value⟩ := rfl
  have htaken := Taken.next h.taken
  rw [hturn] at htaken ⊢
  generalize (bounded limit (change profile cpus)).run w = ran at *
  obtain ⟨stored, ⟨hcalls, hon⟩, hne, hkeys⟩ := hs
  have hmade : w.madeSince ran.state = stored := by rw [madeSince, hcalls, List.drop_left]
  refine ⟨by simp [Turn.share, h.shares], htaken, hu.called.trans h.called, ?_, ?_, ?_⟩
  · rw [h.calls, hcalls, List.flatMap_cons, hmade, List.append_assoc]
  · intro t ht
    rcases List.mem_cons.1 ht with rfl | ht
    · rw [hmade]
      exact ⟨hne, fun c hc => ⟨hon c hc, hkeys c hc⟩⟩
    · exact h.own t ht
  · intro t ht done hok
    rcases List.mem_cons.1 ht with rfl | ht
    · -- the later turns are about other workloads
      have hok : ran.value = .ok done := hok
      rw [Updated, hok] at hu
      exact hrest.trans hu.2.2.specs_eq
    · have hmem : t.share ∈ shares := h.shares ▸ List.mem_map_of_mem ht
      have hname : workloadName t.profile ≠ workloadName profile := fun hn =>
        (List.nodup_cons.1 hd).1 (List.mem_map.2 ⟨_, hmem, workloadName_injective hn⟩)
      rw [h.done t ht done hok, hu.specs_of_ne hname]

/-- In a quiet world each profile of a phase takes its turn, and what the phase gives are the turns
that failed. -/
theorem changeEach_takesTurns
    (hchange : ∀ profile cpus (w : World), w.Quiet → w.Updated (workloadName profile)
      (op profile cpus) ((bounded limit (change profile cpus)).run w))
    (hstored : ∀ profile cpus (w : World), w.StoredFor (workloadName profile)
      ((bounded limit (change profile cpus)).run w).state)
    (hd : shares.Distinct) (hw : w.Quiet) :
    ∃ turns, TakesTurns limit change op shares w turns
        ((changeEach limit change shares).run w).state ∧
      ((changeEach limit change shares).run w).value = failuresOf turns := by
  induction shares generalizing w with
  | nil => exact ⟨[], ⟨rfl, .none w, .refl w, by simp [changeEach], by simp, by simp⟩, rfl⟩
  | cons e rest ih =>
    obtain ⟨profile, cpus⟩ := e
    have hu := hchange profile cpus w hw
    have hquiet : ((bounded limit (change profile cpus)).run w).state.Quiet := hu.called.quiet hw
    obtain ⟨hne, hdistinct⟩ := List.nodup_cons.1 hd
    obtain ⟨turns, hturns, hvalue⟩ := ih hdistinct hquiet
    have hquieter (profile : String) (cpus : List CpuId) (w t : World) (hw : w.Quiet)
        (ht : w.Untouched t ∨ w.Changed (workloadName profile) (op profile cpus) t) : t.Quiet :=
      ht.elim (·.1.quiet hw) (·.1.quiet hw)
    have hrest := (run_changeEach hchange hquieter hdistinct hquiet).1.partly (workloadName profile)
    replace hrest := hrest.resolve_right <| by
      rintro ⟨f, hf, hn, -⟩
      exact hne (List.mem_map.2 ⟨f, hf, (workloadName_injective hn).symm⟩)
    obtain ⟨hstate, hfailed⟩ := run_changeEach_cons limit change profile cpus rest w
    refine ⟨turn limit change profile cpus w :: turns, ?_, ?_⟩
    · rw [hstate]
      exact hturns.next hd hu (hstored profile cpus w) hrest
    · rw [hfailed, hvalue, failuresOf_cons]
      rfl

theorem removeEach_takesTurns (limit : Nat) (r : Retry) (node : String) (hd : shares.Distinct) (hw : w.Quiet) :
    let ran := (changeEach limit (fun p cpus => workloads.remove r p node cpus) shares).run w
    ∃ turns, TakesTurns limit (fun p cpus => workloads.remove r p node cpus) (Specs.removal node)
        shares w turns ran.state ∧ ran.value = failuresOf turns :=
  changeEach_takesTurns (fun _ _ _ hw => run_remove hw)
    (fun p cpus w => remove_storedFor r limit node p cpus w) hd hw

theorem addEach_takesTurns (limit : Nat) (r : Retry) (node : String) (hd : shares.Distinct) (hw : w.Quiet) :
    let ran := (changeEach limit (fun p cpus => workloads.add r p node cpus) shares).run w
    ∃ turns, TakesTurns limit (fun p cpus => workloads.add r p node cpus) (Specs.adding node)
        shares w turns ran.state ∧ ran.value = failuresOf turns :=
  changeEach_takesTurns (fun _ _ _ hw => run_add hw)
    (fun p cpus w => add_storedFor r limit node p cpus w) hd hw

end World

end Turns

/-! ## The shares of the phases -/

namespace Shares

variable {s : Shares} {keep : String → List CpuId} {t : GrantTable} {key : PodKey}
  {entry next : Grant}

theorem ne_nil_of_mem_without {e : String × List CpuId} (he : e ∈ s.without keep) : e.2 ≠ [] :=
  (mem_without.1 he).elim fun _ h => h.2.2

theorem just_ofRelease : (ofRelease t key entry).Just (t.Releases key entry) where
  rises := rises_without (rises_ofContainers _)
  ne_nil _ := ne_nil_of_mem_without
  has profile cpu := by
    rw [ofRelease, has_releasable, has_ofContainers, GrantTable.Releases, holds_iff_mem_cpusOf]
    simp

theorem just_ofStale : (ofStale t key next).Just (t.Stale key next) where
  rises := rises_without (rises_without (rises_ofContainers _))
  ne_nil _ := ne_nil_of_mem_without
  has profile cpu := by
    constructor
    · intro h
      obtain ⟨previous, hf, hh, hnext, hother⟩ := held_of_ofStale h
      exact ⟨previous, hf, ⟨hh, hother⟩, hnext⟩
    · rintro ⟨previous, hf, ⟨hh, hother⟩, hnext⟩
      exact has_ofStale hf hh hnext hother

theorem just_ofContainers (hc : next.Complete) :
    (ofContainers next.containers).Just (next.Holds next.node) where
  rises := rises_ofContainers _
  ne_nil := ne_nil_of_complete hc
  has profile cpu := by
    rw [has_ofContainers, holds_iff_mem_cpusOf]
    simp

end Shares

/-! ## The phases of a reconcile -/

section Site

variable {key : PodKey} {entry next : Grant}

/-- A phase ends as its turns say. -/
theorem Phase.ends_result (phase : Phase) (key : PodKey) (turns : List Turn) :
    phase.Ends key turns (phase.result key (failuresOf turns)) := by
  unfold Phase.result
  split
  · exact .applied (failuresOf_eq_nil.1 ‹_›)
  · exact .failed ‹_› rfl rfl

theorem settleRelease_takesTurns (config : ReconcileConfig) (site : Site World)
    (hq : site.world.Quiet) (hf : site.grants.find? key = some entry) :
    let ran := (settleRelease World.services config key).run site
    ∃ turns,
      World.TakesTurns config.callTimeout
          (fun p cpus => World.workloads.remove config.retry p entry.node cpus)
          (Specs.removal entry.node) (Shares.ofRelease site.grants key entry) site.world turns
          ran.state.world ∧
        ran.value = Phase.release.result key (failuresOf turns) ∧
        ran.state.grants = if failuresOf turns = [] then site.grants.erase key else site.grants := by
  obtain ⟨turns, hturns, hvalue⟩ := World.removeEach_takesTurns config.callTimeout
    config.retry entry.node
    (Shares.distinct_ofRelease : (Shares.ofRelease site.grants key entry).Distinct) hq
  have hrun := run_releaseShares_eq config key entry.node (Shares.ofContainers entry.containers) site
  rw [run_onWorld, ← Shares.ofRelease, hvalue] at hrun
  simp only [settleRelease, Script.bind_eq, Script.pure_eq_done, Script.run_bind, Script.read,
    Script.run, id, hf, hrun]
  refine ⟨turns, ?_⟩
  by_cases hnil : failuresOf turns = []
  · simp only [if_pos hnil]
    exact ⟨hturns, by rw [hnil]; rfl, rfl⟩
  · simp only [if_neg hnil]
    exact ⟨hturns, rfl, rfl⟩

theorem settleGrant_takesTurns (config : ReconcileConfig) (key : PodKey) (hc : next.Complete)
    (site : Site World) (hq : site.world.Quiet) :
    let ran := (settleGrant World.services config key next).run site
    ∃ taken between,
      World.TakesTurns config.callTimeout
          (fun p cpus =>
            World.workloads.remove config.retry p (site.grants.before key next).node cpus)
          (Specs.removal (site.grants.before key next).node) (Shares.ofStale site.grants key next)
          site.world taken between ∧
        (failuresOf taken ≠ [] →
          ran.value = Phase.staleRelease.result key (failuresOf taken) ∧
            ran.state = { site with world := between }) ∧
        (failuresOf taken = [] → ∃ turns,
          World.TakesTurns config.callTimeout
              (fun p cpus => World.workloads.add config.retry p next.node cpus)
              (Specs.adding next.node) (Shares.ofContainers next.containers) between turns
              ran.state.world ∧
            ran.value = Phase.grant.result key (failuresOf turns) ∧
            ran.state.grants = site.grants.insert key next) := by
  obtain ⟨taken, htaken, hstale⟩ := World.removeEach_takesTurns config.callTimeout
    config.retry (site.grants.before key next).node
    (Shares.distinct_ofStale : (Shares.ofStale site.grants key next).Distinct) hq
  have hrun := run_releaseStale_eq config key next site
  rw [run_onWorld, hstale] at hrun
  simp only [settleGrant, Script.bind_eq, Script.pure_eq_done, Script.run_bind, hrun]
  refine ⟨taken, _, htaken, fun hne => ?_, fun hnil => ?_⟩
  · rw [if_pos hne]
    exact ⟨rfl, rfl⟩
  · obtain ⟨turns, hturns, hfailed⟩ := World.addEach_takesTurns config.callTimeout
      config.retry next.node (Shares.distinct_ofContainers next.containers) (htaken.called.quiet hq)
    simp only [hnil, ne_eq, not_true_eq_false, if_false, Script.run_bind, grantShares, run_onWorld,
      World.services, hfailed, run_recordGrant hc]
    exact ⟨turns, hturns, rfl, rfl⟩

/-- In each phase that a reconcile reaches, every profile with CPUs to change takes its turn once, in
the order of the profiles and whatever came of the turns before, and what a turn has done that did not
fail is in the store at the end of the phase. The phase ends with one error that names the profiles
whose turns failed. On deletion the record goes away exactly if no turn has failed; after a stale
release in which one has failed no CPU is granted and the record stays; and at the end of the grant
it is the complete new grant, even if every turn has failed. -/
theorem Site.reconcile_takes_turns (site : Site World) (config : ReconcileConfig) (key : PodKey)
    (hq : site.world.Quiet) :
    let found := (survey World.services config key).run.run site.world
    let ran := site.reconcile config key
    found.state.store = site.world.store ∧
      (∀ entry, found.value = .ok .release → site.grants.find? key = some entry →
        ∃ shares turns,
          shares.Just (site.grants.Releases key entry) ∧
            World.TakesTurns config.callTimeout
              (fun p cpus => World.workloads.remove config.retry p entry.node cpus)
              (Specs.removal entry.node) shares found.state turns ran.state.world ∧
            Phase.release.Ends key turns ran.value ∧
            ran.state.grants =
              if failuresOf turns = [] then site.grants.erase key else site.grants) ∧
      ∀ next, found.value = .ok (.grant next) →
        next.Complete ∧ site.world.due config.policy key = some next ∧
          ∃ stale taken between,
            stale.Just (site.grants.Stale key next) ∧
              World.TakesTurns config.callTimeout
                (fun p cpus =>
                  World.workloads.remove config.retry p (site.grants.before key next).node cpus)
                (Specs.removal (site.grants.before key next).node) stale found.state taken
                between ∧
              (failuresOf taken ≠ [] →
                Phase.staleRelease.Ends key taken ran.value ∧
                  ran.state = { site with world := between }) ∧
              (failuresOf taken = [] → ∃ shares turns,
                shares.Just (next.Holds next.node) ∧
                  World.TakesTurns config.callTimeout
                    (fun p cpus => World.workloads.add config.retry p next.node cpus)
                    (Specs.adding next.node) shares between turns ran.state.world ∧
                  Phase.grant.Ends key turns ran.value ∧
                  ran.state.grants = site.grants.insert key next) := by
  obtain ⟨hcalled, hstore, hcomplete⟩ := run_survey config key site.world
  have hfinds := surveyed_survey config key site.world
  have hquiet := hcalled.quiet hq
  refine ⟨hstore, fun entry hv hf => ?_, fun next hv => ?_⟩
  · obtain ⟨hvalue, hstate⟩ := Site.reconcile_found hv
    obtain ⟨turns, hturns, hresult, hgrants⟩ := settleRelease_takesTurns config
      { site with world := ((survey World.services config key).run.run site.world).state } hquiet hf
    refine ⟨_, turns, Shares.just_ofRelease, ?_, ?_, ?_⟩
    · rw [hstate]
      exact hturns
    · rw [hvalue, settle, hresult]
      exact Phase.ends_result _ _ _
    · rw [hstate]
      exact hgrants
  · have hc := hcomplete _ hv next rfl
    obtain ⟨hvalue, hstate⟩ := Site.reconcile_found hv
    obtain ⟨taken, between, htaken, hfailed, hgranted⟩ := settleGrant_takesTurns config key hc
      { site with world := ((survey World.services config key).run.run site.world).state } hquiet
    rw [hv] at hfinds
    have hdue : site.world.due config.policy key = some next := by
      cases hfinds with
      | asking _ _ _ hdue => exact hdue
    refine ⟨hc, hdue, _, taken, between, Shares.just_ofStale, htaken, fun hne => ?_, fun hnil => ?_⟩
    · obtain ⟨hresult, hleft⟩ := hfailed hne
      refine ⟨?_, hstate.trans hleft⟩
      rw [hvalue, settle, hresult]
      exact Phase.ends_result _ _ _
    · obtain ⟨turns, hturns, hresult, hgrants⟩ := hgranted hnil
      refine ⟨_, turns, Shares.just_ofContainers hc, ?_, ?_, ?_⟩
      · rw [hstate]
        exact hturns
      · rw [hvalue, settle, hresult]
        exact Phase.ends_result _ _ _
      · rw [hstate]
        exact hgrants

end Site

/-- A pod whose two containers ask for two profiles. -/
def Pod.twofold : Pod :=
  { ns := some "d", name := some "t", uid := some "u", node := some "n1", phase := some "Running",
    qosClass := some "Guaranteed",
    containers :=
      [{ name := "c1", requests := .ofList [("cpu", "1"), ("power.example.com/fast", "1")] },
        { name := "c2", requests := .ofList [("cpu", "1"), ("power.example.com/slow", "1")] }] }

/-- What that pod is to have. -/
def Grant.twofold : Grant :=
  ⟨"n1", "t", "d", "u", [⟨"c1", "", [4], "fast"⟩, ⟨"c2", "", [5], "slow"⟩]⟩

/-- The pod is recorded on another node, and the workload of its first profile cannot be created. -/
def Site.halved : Site World where
  grants := .ofList [(⟨"d", "t"⟩, ⟨"n0", "t", "d", "u", [⟨"c1", "", [7], "eco"⟩]⟩)]
  world :=
    { pods := .ofList [("d/t", Pod.twofold)]
      cpus := .ofList [("d/t/c1", "4"), ("d/t/c2", "5")]
      profiles :=
        .ofList [("https://n1:5000", .ofList [("fast", { id := some 1 }), ("slow", { id := some 2 })])]
      store := ({} : Versioned).put ⟨some "eco-workload", none, ⟨"eco", [⟨"n0", [7]⟩]⟩⟩
      faults := [{ method := .createWorkload, key := some "fast-workload", error := some "down" }] }

/-- What the pod had is taken back, the second profile is granted although the first one failed, and
the whole grant is recorded. -/
theorem reconcile_takes_turns_halved :
    let config : ReconcileConfig := { policy := .perContainer }
    let ran := Site.halved.reconcile config ⟨"d", "t"⟩
    Site.halved.world.Quiet ∧
      ran.state.world.store.specs "eco-workload" = none ∧
      ran.state.world.store.specs "slow-workload" = some ⟨"slow", [⟨"n1", [5]⟩]⟩ ∧
      ran.state.grants = Site.halved.grants.insert ⟨"d", "t"⟩ Grant.twofold ∧
      ∃ shares turns between,
        shares.Just (Grant.twofold.Holds "n1") ∧
          World.TakesTurns config.callTimeout
            (fun p cpus => World.workloads.add config.retry p "n1" cpus)
            (Specs.adding "n1") shares between turns ran.state.world ∧
          failuresOf turns = [("fast", .failed (.unavailable "down"))] ∧
          Phase.grant.Ends ⟨"d", "t"⟩ turns ran.value := by
  intro config ran
  have hq : ∀ f ∈ Site.halved.world.faults, f.peer = [] := by decide
  have hv : ((survey World.services config ⟨"d", "t"⟩).run.run Site.halved.world).value =
      .ok (.grant Grant.twofold) := by decide +kernel
  have hran : ran.value = .error (.transient
      (.partialFailure .grant ⟨"d", "t"⟩ [("fast", .failed (.unavailable "down"))])) := by
    decide +kernel
  obtain ⟨-, -, hgrant⟩ := Site.reconcile_takes_turns Site.halved config ⟨"d", "t"⟩ hq
  obtain ⟨-, -, -, taken, between, -, -, hfailed, hgranted⟩ := hgrant Grant.twofold hv
  have hnil : failuresOf taken = [] := by
    by_contra hne
    obtain ⟨hends, -⟩ := hfailed hne
    rw [show Site.halved.reconcile config ⟨"d", "t"⟩ = ran from rfl, hran] at hends
    cases hends with
    | failed _ he _ => cases he
  obtain ⟨shares, turns, hjust, hturns, hends, hgrants⟩ := hgranted hnil
  refine ⟨hq, by decide +kernel, by decide +kernel, hgrants, shares, turns, between, hjust, hturns,
    ?_, hends⟩
  rw [show Site.halved.reconcile config ⟨"d", "t"⟩ = ran from rfl, hran] at hends
  cases hends with
  | failed _ he _ => exact (TransientError.partialFailure.inj he).2.2.symm

end PowerGrant
