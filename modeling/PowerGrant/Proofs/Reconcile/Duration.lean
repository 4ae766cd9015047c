import PowerGrant.Proofs.Reconcile.Found
import PowerGrant.Proofs.Reconcile.Runs
import PowerGrant.Proofs.World.Paced

/-!
# How long a reconcile takes

Whatever a reconcile asks of the services it asks under the timeout, and an update of a workload is
under it as a whole, with its attempts and the waits between them. So a service that does not answer
holds a pod up for one timeout and not longer, and what it does not do in that time is not done.

* `Script.PacedFrom`: a script takes its steps on certain errands under a timeout.
* `Site.plan`: the errands of a reconcile, in order, as far as it gets. `Site.errandLimit`: how many
  they can be.
* `survey_pursues`, `paced_settle`: the two halves of a reconcile.
* `Site.reconcile_in_time`: a reconcile is on its errands, each of them under its own timeout.
-/

namespace PowerGrant

/-- From the state `s` a script takes its steps on these errands under the timeout `limit`, as seen by
the services. -/
def Script.PacedFrom {σ α : Type} (view : σ → World) (limit : Nat) (errands : List Errand)
    (x : Script σ α) (s : σ) : Prop :=
  ∀ now, World.Paced limit errands now (view s)
    ((x.timed now s).map fun e => (e.1, view e.2.1, view e.2.2))
    (now + (x.run s).elapsed) (view (x.run s).state)

/-- A stage of a survey gets as far as it can on the errands of a plan, and through all of them if it
ends well. -/
def Stage.Pursues {α : Type} (limit : Nat) (plan : List Errand) (x : Stage World α) (w : World) :
    Prop :=
  ∃ errands, errands <+: plan ∧ (∀ a, (x.run.run w).value = .ok a → errands = plan) ∧
    x.run.PacedFrom id limit errands w

/-- How many profiles containers use. -/
def profilesUsed (containers : List ContainerGrant) : Nat :=
  (ascending (containers.map ContainerGrant.profile)).length

/-- The updates of the workloads of shares. -/
def Shares.updates (shares : Shares) : List Errand := shares.map fun e => .update e.1

/-- What is asked once the pod is found: if it runs and asks for profiles, for the address of the
profile service, for each of the profiles and for the CPUs of each container. -/
def Pod.questions (pod : Pod) (policy : ProfilePolicy) (key : PodKey) : List Errand :=
  match pod.standing, pod.demand policy with
  | .running, .ok (.profiles _ node requests) =>
    .ask .resolveNode node :: (ascending (requests.map Prod.snd)).map (.ask .getProfile) ++
      requests.map fun r => .ask .getCpus s!"{key.text}/{r.1.name}"
  | _, _ => []

namespace Site

/-- What is done when something was found to be necessary. -/
def updates (site : Site World) (key : PodKey) : Intent → List Errand
  | .skip _ => []
  | .release => (site.grants.find? key).elim [] fun entry =>
    (Shares.ofRelease site.grants key entry).updates
  | .grant next => (Shares.ofStale site.grants key next).updates ++
    (Shares.ofContainers next.containers).updates

/-- The errands of a reconcile, in order: the pod is looked up, questions are asked about it, and then
workloads are updated by how the pod stands. -/
def plan (site : Site World) (policy : ProfilePolicy) (key : PodKey) : List Errand :=
  .ask .getPod key.text :: (site.world.pods.find? key.text).elim [] fun pod =>
    pod.questions policy key ++
      match pod.standing with
      | .leaving => site.updates key .release
      | .running => (site.world.due policy key).elim [] fun next => site.updates key (.grant next)
      | .pending _ => []

/-- How many profiles are recorded for a pod. -/
def recordedProfiles (site : Site World) (key : PodKey) : Nat :=
  (site.grants.find? key).elim 0 fun entry => profilesUsed entry.containers

/-- How many profiles have CPUs that are recorded for a pod and that it does not hold any more when it
is granted `next`. -/
def staleProfiles (site : Site World) (key : PodKey) (next : Grant) : Nat :=
  (site.grants.find? key).elim 0 fun previous =>
    (Shares.stale previous next.node next.containers).length

/-- How many errands a reconcile can have. When the pod leaves, they are the look at the pod and an
update for each profile that is recorded. When it runs they are that look, the address, every profile
and the CPUs of every container, and an update for each profile with CPUs to be taken back and for
each profile that is granted. -/
def errandLimit (site : Site World) (policy : ProfilePolicy) (key : PodKey) : Nat :=
  match site.world.pods.find? key.text with
  | none => 1
  | some pod =>
    match pod.standing, pod.demand policy with
    | .leaving, _ => 1 + site.recordedProfiles key
    | .running, .ok (.profiles _ _ requests) =>
      2 + (ascending (requests.map Prod.snd)).length + requests.length +
        (site.world.due policy key).elim 0 fun next =>
          site.staleProfiles key next + profilesUsed next.containers
    | _, _ => 1

/-- The steps of a reconcile that begins at the time 0, as the services see them. -/
def timedSteps (site : Site World) (config : ReconcileConfig) (key : PodKey) :
    List (Nat × World × World) :=
  ((PowerGrant.reconcile World.services config key).timed 0 site).map fun e =>
    (e.1, e.2.1.world, e.2.2.world)

end Site

/-! ## Scripts -/

namespace Script.PacedFrom

variable {σ α β : Type} {view : σ → World} {limit : Nat} {errands more : List Errand}
  {x : Script σ α} {s : σ}

theorem done (a : α) : (Script.done a).PacedFrom view limit [] s := fun _ => .ended

/-- A step that the services do not see. -/
theorem aside {update : σ → σ} {next : σ → Script σ α} (hu : view (update s) = view s)
    (h : (next s).PacedFrom view limit errands (update s)) :
    (Script.act update next).PacedFrom view limit errands s := by
  intro now
  have hrest := h now
  rw [hu] at hrest
  have hsteps : World.Paced limit errands now (view s) ((now, view s, view s) :: _) _ _ := .aside hrest
  simpa only [Script.timed, List.map_cons, Script.run, hu] using hsteps

/-- A look at the state. -/
theorem read {f : σ → α} {g : α → Script σ β} (h : (g (f s)).PacedFrom view limit errands s) :
    ((Script.read f).bind g).PacedFrom view limit errands s := aside rfl h

theorem bind {f : α → Script σ β} (h : x.PacedFrom view limit errands s)
    (hf : (f (x.run s).value).PacedFrom view limit more (x.run s).state) :
    (x.bind f).PacedFrom view limit (errands ++ more) s := by
  intro now
  simp only [Script.timed_bind, Script.run_bind, List.map_append, ← Nat.add_assoc]
  exact (h now).append (hf _)

/-- What is made of the errands takes none. -/
theorem finish {f : α → Script σ β} (h : x.PacedFrom view limit errands s)
    (hf : (f (x.run s).value).PacedFrom view limit [] (x.run s).state) :
    (x.bind f).PacedFrom view limit errands s := by
  simpa using bind h hf

/-- What makes the calls of an errand is that errand under the timeout. -/
theorem bounded {e : Errand} {x : Script World (Answer α)} (h : World.Calling e.Makes x)
    (w : World) : (bounded limit x).PacedFrom id limit [e] w := by
  intro now
  obtain ⟨cut, hu⟩ := World.until_bounded h limit now w
  simpa using World.Paced.errand hu .ended

theorem onWorld {x : Script World α} {site : Site World}
    (h : x.PacedFrom id limit errands site.world) :
    x.onWorld.PacedFrom Site.world limit errands site := by
  intro now
  have hsteps : (x.onWorld.timed now site).map (fun e => (e.1, e.2.1.world, e.2.2.world)) =
      x.timed now site.world := Script.map_timed_onPart (fun _ _ => rfl) x now site
  have hworld := h now
  rw [hsteps, run_onWorld]
  simpa using hworld

end Script.PacedFrom

/-! ## The survey -/

section Survey

variable {α β : Type} {limit : Nat} {plan later : List Errand} {w : World}

namespace Stage.Pursues

theorem ofExcept (r : Except ReconcileError α) : Stage.Pursues limit [] (ExceptT.mk (.done r)) w :=
  ⟨[], List.prefix_rfl, fun _ _ => rfl, .done r⟩

theorem pure (a : α) : Stage.Pursues limit [] (pure a) w := ofExcept (.ok a)

/-- A stage after another, which goes on only if the other has ended well. -/
theorem bind {x : Stage World α} {f : α → Stage World β} (h : x.Pursues limit plan w)
    (hf : ∀ a, (x.run.run w).value = .ok a → (f a).Pursues limit later (x.run.run w).state) :
    Stage.Pursues limit (plan ++ later) (x >>= f) w := by
  obtain ⟨errands, hprefix, hall, hpaced⟩ := h
  have hrun : ((x >>= f).run.run w).value =
      ((ExceptT.bindCont f (x.run.run w).value).run (x.run.run w).state).value := by
    show ((x.run.bind (ExceptT.bindCont f)).run w).value = _
    rw [Script.run_bind]
  cases hv : (x.run.run w).value with
  | ok a =>
    obtain ⟨more, hmore, hlater, hrest⟩ := hf a hv
    obtain rfl := hall a hv
    rw [hv] at hrun
    refine ⟨errands ++ more, (List.prefix_append_right_inj errands).2 hmore, fun b hb => ?_, ?_⟩
    · rw [hlater b (hrun.symm.trans hb)]
    · exact .bind hpaced (hv ▸ hrest)
  | error e =>
    rw [hv] at hrun
    refine ⟨errands, hprefix.trans (List.prefix_append _ _), fun b hb => ?_, ?_⟩
    · cases hrun.symm.trans hb
    · exact .finish hpaced (hv ▸ .done _)

/-- A stage after something that is settled without asking. -/
theorem given {r : Except ReconcileError α} {f : α → Stage World β}
    (hf : ∀ a, r = .ok a → (f a).Pursues limit plan w) :
    Stage.Pursues limit plan ((ExceptT.mk (.done r) : Stage World α) >>= f) w :=
  bind (ofExcept r) hf

/-- A stage whose value is turned into another one. -/
theorem finish {x : Stage World α} {f : α → Stage World β} (h : x.Pursues limit plan w)
    (hf : ∀ a, (f a).Pursues limit [] (x.run.run w).state) :
    Stage.Pursues limit plan (x >>= f) w := by
  simpa using h.bind fun a _ => hf a

/-- A call that has to succeed. -/
theorem required {e : Errand} {what : BoundedCall} {call : Script World (Answer α)}
    (h : World.Calling e.Makes call) : (required limit what call).Pursues limit [e] w := by
  refine ⟨[e], List.prefix_rfl, fun _ _ => rfl, .finish (.bounded h w) ?_⟩
  cases ((bounded limit call).run w).value <;> exact .done _

end Stage.Pursues

theorem validateProfile_pursues (profile node address : String) (w : World) :
    (validateProfile World.services limit profile node address).Pursues limit
      [.ask .getProfile profile] w := by
  refine ⟨_, List.prefix_rfl, fun _ _ => rfl, .finish (.bounded (.profile _ _) w) ?_⟩
  rcases ((bounded limit (World.services.profile profile address)).run w).value with _ | _ | _ <;>
    exact .done _

theorem validateProfiles_pursues (node address : String) (profiles : List String) (w : World) :
    (validateProfiles World.services limit node address profiles).Pursues limit
      (profiles.map (.ask .getProfile)) w := by
  induction profiles generalizing w with
  | nil => exact .pure ()
  | cons p ps ih => exact .bind (validateProfile_pursues p node address w) fun _ _ => ih _

theorem containerCpus_pursues (key : PodKey) (container : String) (w : World) :
    (containerCpus World.services limit key container).Pursues limit
      [.ask .getCpus s!"{key.text}/{container}"] w :=
  .finish (.required (.cpus key container)) fun _ => .ofExcept _

theorem containerGrants_pursues (key : PodKey) (pod : Pod) (requests : List (Container × String))
    (w : World) :
    (containerGrants World.services limit key pod requests).Pursues limit
      (requests.map fun r => .ask .getCpus s!"{key.text}/{r.1.name}") w := by
  induction requests generalizing w with
  | nil => exact .pure []
  | cons r requests ih =>
    obtain ⟨c, profile⟩ := r
    refine .bind (containerCpus_pursues key c.name w) fun cpus _ => ?_
    exact .finish (ih _) fun rest => .pure _

theorem surveyRunning_pursues (config : ReconcileConfig) (key : PodKey) {pod : Pod}
    (hs : pod.standing = .running) (w : World) :
    (surveyRunning World.services config key pod).Pursues config.callTimeout
      (pod.questions config.policy key) w := by
  refine .given fun demand hv => ?_
  have hd := ok_of_mapError hv
  cases demand with
  | nothing reason =>
    simp only [Pod.questions, hs, hd]
    exact .pure _
  | profiles uid node requests =>
    simp only [Pod.questions, hs, hd, List.cons_append]
    refine .bind (.required (.address node)) fun address _ => ?_
    refine .bind (validateProfiles_pursues node address _ _) fun _ _ => ?_
    exact .finish (containerGrants_pursues key pod requests _) fun containers => .pure _

/-- A survey looks the pod up and asks each of its questions at most once. -/
theorem survey_pursues (config : ReconcileConfig) (key : PodKey) (w : World) :
    (survey World.services config key).Pursues config.callTimeout
      (.ask .getPod key.text ::
        (w.pods.find? key.text).elim [] (·.questions config.policy key)) w := by
  have hfound := (Script.Safe.run (fun _ => rfl)
    (@surveys_pod config.callTimeout w key w (.refl w))).2
  refine .bind (.required (.pod key)) fun found hv => ?_
  rw [hv] at hfound
  rw [show w.pods.find? key.text = found from hfound]
  cases found with
  | none => exact .pure _
  | some pod =>
    dsimp only [Option.elim]
    cases hs : pod.standing with
    | leaving =>
      simp only [Pod.questions, hs]
      exact .pure _
    | pending phase =>
      simp only [Pod.questions, hs]
      exact .ofExcept _
    | running => exact surveyRunning_pursues config key hs _

end Survey

/-! ## Settling -/

section Settle

variable {limit : Nat} {config : ReconcileConfig} {key : PodKey} {site : Site World} {next : Grant}

/-- A phase is one update for each of its shares. -/
theorem paced_changeEach {change : String → List CpuId → Script World (Answer WorkloadChange)}
    (h : ∀ profile cpus, World.Calling (Errand.update profile).Makes (change profile cpus))
    (shares : Shares) (w : World) :
    (changeEach limit change shares).PacedFrom id limit shares.updates w := by
  induction shares generalizing w with
  | nil => exact .done _
  | cons e rest ih =>
    obtain ⟨profile, cpus⟩ := e
    refine .bind (.bounded (h profile cpus) w) (.finish (ih _) ?_)
    split <;> exact .done _

theorem paced_releaseShares (node : String) (shares : Shares) :
    (releaseShares World.services config key node shares).PacedFrom Site.world config.callTimeout
      (Shares.releasable site.grants key node shares).updates site :=
  .read (.onWorld (paced_changeEach (fun _ _ => .remove) _ _))

theorem paced_grantShares (node : String) (shares : Shares) :
    (grantShares World.services config node shares).PacedFrom Site.world config.callTimeout
      shares.updates site :=
  .onWorld (paced_changeEach (fun _ _ => .add) shares _)

theorem paced_settleRelease :
    (settleRelease World.services config key).PacedFrom Site.world config.callTimeout
      (site.updates key .release) site := by
  refine .read ?_
  unfold Site.updates
  cases hf : site.grants.find? key with
  | none => exact .done _
  | some entry =>
    refine .finish (paced_releaseShares _ _) ?_
    split
    · exact .aside rfl (.done _)
    · exact .done _

theorem paced_releaseStale :
    (releaseStale World.services config key next).PacedFrom Site.world config.callTimeout
      (Shares.ofStale site.grants key next).updates site := by
  refine .read ?_
  unfold Shares.ofStale
  cases hf : site.grants.find? key with
  | none =>
    rw [GrantTable.before_of_not_found hf]
    exact .done _
  | some previous =>
    rw [GrantTable.before_of_find? hf]
    exact paced_releaseShares _ _

theorem paced_recordGrant (site : Site World) :
    (recordGrant key next).PacedFrom Site.world limit [] site := by
  refine .aside ?_ (.done _)
  dsimp only
  split <;> rfl

/-- A grant is not gone on with when something that is stale could not be taken back. -/
theorem paced_settleGrant :
    ∃ errands, errands <+: site.updates key (.grant next) ∧
      (settleGrant World.services config key next).PacedFrom Site.world config.callTimeout errands
        site := by
  have hstale := @paced_releaseStale config key site next
  by_cases hfailed : ((releaseStale World.services config key next).run site).value = []
  · refine ⟨_, List.prefix_rfl, ?_⟩
    simp only [settleGrant, Script.bind_eq, Script.pure_eq_done]
    refine .bind hstale ?_
    rw [hfailed]
    refine .finish (paced_grantShares _ _) (.finish (paced_recordGrant _) ?_)
    split <;> exact .done _
  · refine ⟨_, List.prefix_append _ _, ?_⟩
    simp only [settleGrant, Script.bind_eq, Script.pure_eq_done]
    refine .finish hstale ?_
    rw [if_pos hfailed]
    exact .done _

/-- What was found to be necessary takes an update for each profile concerned. -/
theorem paced_settle (config : ReconcileConfig) (key : PodKey) (intent : Intent)
    (site : Site World) :
    ∃ errands, errands <+: site.updates key intent ∧
      (settle World.services config key intent).PacedFrom Site.world config.callTimeout errands
        site := by
  cases intent with
  | skip reason => exact ⟨[], List.prefix_rfl, .done _⟩
  | release => exact ⟨_, List.prefix_rfl, paced_settleRelease⟩
  | grant next => exact paced_settleGrant

end Settle

/-! ## How many errands there are -/

namespace Shares

theorem length_updates_without_le (s : Shares) (keep : String → List CpuId) :
    (s.without keep).updates.length ≤ s.length := by
  rw [updates, List.length_map]
  exact (List.length_filter_le _ _).trans (Nat.le_of_eq (List.length_map _))

theorem length_ofContainers (cs : List ContainerGrant) :
    (ofContainers cs).length = profilesUsed cs := List.length_map _

end Shares

namespace Site

theorem length_release_le (site : Site World) (key : PodKey) :
    (site.updates key .release).length ≤ site.recordedProfiles key := by
  unfold updates recordedProfiles
  cases site.grants.find? key with
  | none => exact Nat.le_refl _
  | some entry => exact (Shares.length_updates_without_le _ _).trans (Nat.le_of_eq (Shares.length_ofContainers _))

theorem length_grant_le (site : Site World) (key : PodKey) (next : Grant) :
    (site.updates key (.grant next)).length ≤
      site.staleProfiles key next + profilesUsed next.containers := by
  have hgrant : (Shares.ofContainers next.containers).updates.length =
      profilesUsed next.containers := (List.length_map _).trans (Shares.length_ofContainers _)
  simp only [updates, List.length_append, hgrant]
  refine Nat.add_le_add_right ?_ _
  unfold staleProfiles Shares.ofStale
  cases hf : site.grants.find? key with
  | none =>
    rw [GrantTable.before_of_not_found hf]
    exact Nat.le_refl _
  | some previous =>
    rw [GrantTable.before_of_find? hf]
    exact Shares.length_updates_without_le _ _

/-- The plan is no longer than it can be. -/
theorem length_plan_le (site : Site World) (policy : ProfilePolicy) (key : PodKey) :
    (site.plan policy key).length ≤ site.errandLimit policy key := by
  unfold plan errandLimit
  cases hp : site.world.pods.find? key.text with
  | none => exact Nat.le_refl _
  | some pod =>
    have hrelease := site.length_release_le key
    cases hs : pod.standing with
    | leaving =>
      simp only [Option.elim_some, Pod.questions, hs, List.nil_append, List.length_cons]
      omega
    | pending phase => simp [Pod.questions, hs]
    | running =>
      cases hd : pod.demand policy with
      | error e => simp [Pod.questions, World.due, hp, hs, hd]
      | ok demand =>
        cases demand with
        | nothing reason => simp [Pod.questions, World.due, hp, hs, hd]
        | profiles uid node requests =>
          simp only [Option.elim_some, Pod.questions, hs, hd, List.length_cons, List.length_append,
            List.length_map]
          cases site.world.due policy key with
          | none =>
            simp only [Option.elim_none, List.length_nil]
            omega
          | some next =>
            have hgrant := site.length_grant_le key next
            simp only [Option.elim_some]
            omega

end Site

/-! ## The reconcile -/

namespace Site

variable {site : Site World} {policy : ProfilePolicy} {key : PodKey}

/-- The questions of a survey and the updates for what it finds are the plan of the reconcile. -/
theorem plan_eq {intent : Intent} (h : site.world.Finds policy key intent) :
    site.plan policy key =
      .ask .getPod key.text ::
          (site.world.pods.find? key.text).elim [] (·.questions policy key) ++
        site.updates key intent := by
  cases h with
  | gone hp => simp [plan, updates, hp]
  | leaving hp hs => simp [plan, hp, hs]
  | unasking hp hs hd => simp [plan, updates, World.due, hp, hs, hd]
  | asking hp hs hd hdue => simp [plan, hp, hs, hdue]

theorem questions_prefix_plan (site : Site World) (policy : ProfilePolicy) (key : PodKey) :
    .ask .getPod key.text :: (site.world.pods.find? key.text).elim [] (·.questions policy key) <+:
      site.plan policy key := by
  unfold plan
  cases site.world.pods.find? key.text with
  | none => exact List.prefix_rfl
  | some pod => exact List.prefix_append _ _

theorem paced_reconcile (config : ReconcileConfig) (key : PodKey) (site : Site World) :
    ∃ errands, errands <+: site.plan config.policy key ∧
      (PowerGrant.reconcile World.services config key).PacedFrom Site.world config.callTimeout errands
        site := by
  obtain ⟨asked, hasked, hall, hpaced⟩ := survey_pursues config key site.world
  have hsurvey := Script.PacedFrom.onWorld hpaced
  have hfound := surveyed_survey config key site.world
  cases hv : ((survey World.services config key).run.run site.world).value with
  | error e =>
    refine ⟨asked, hasked.trans (questions_prefix_plan site config.policy key), .finish hsurvey ?_⟩
    rw [run_onWorld, hv]
    exact .done _
  | ok intent =>
    rw [hv] at hfound
    obtain ⟨errands, hprefix, hsettle⟩ := paced_settle config key intent
      { site with world := ((survey World.services config key).run.run site.world).state }
    refine ⟨asked ++ errands, ?_, .bind hsurvey ?_⟩
    · rw [plan_eq hfound, hall intent hv]
      exact (List.prefix_append_right_inj _).2 hprefix
    · rw [run_onWorld, hv]
      exact hsettle

/-- A reconcile ends within the timeout for each of the errands that it can have, however long the
services take to answer and however often they refuse a write. It gets through its plan, or as far as
it can, one errand after the other; and on each of them a call that is cut off at the timeout has no
effect after that. -/
theorem reconcile_in_time (config : ReconcileConfig) (key : PodKey) (site : Site World) :
    let ran := site.reconcile config key
    ran.elapsed ≤ config.callTimeout * site.errandLimit config.policy key ∧
      ∃ errands, errands <+: site.plan config.policy key ∧
        World.Paced config.callTimeout errands 0 site.world (site.timedSteps config key) ran.elapsed
          ran.state.world := by
  obtain ⟨errands, hprefix, hpaced⟩ := paced_reconcile config key site
  have hsteps := hpaced 0
  have hend := hsteps.le_of_length
  rw [Nat.zero_add] at hsteps
  rw [Nat.zero_add, Nat.zero_add] at hend
  have hlength := hprefix.length_le.trans (length_plan_le site config.policy key)
  exact ⟨hend.trans (Nat.mul_le_mul_left _ hlength), errands, hprefix, hsteps⟩

/-- When the questions are answered in the last moment and the store does not answer, a reconcile takes
all of that time. -/
example :
    let site := Site.sample (([.getPod, .resolveNode, .getProfile, .getCpus].map fun method =>
      { method, delay := 5000 }) ++ [{ method := .getWorkload, delay := 1000000 }])
    (site.reconcile {} ⟨"d", "a"⟩).elapsed = 5000 * site.errandLimit .onePerPod ⟨"d", "a"⟩ := by
  decide +kernel

end Site

end PowerGrant
