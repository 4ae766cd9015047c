import PowerGrant.Proofs.Reconcile.AnyOrder
import PowerGrant.Proofs.Reconcile.Warrant

/-!
# What is granted is recorded

A grant is recorded after its CPUs were added to the workloads. Were it refused then, nobody would
know of them any more. It never is: what could be missing from it was looked for in the survey,
before anything was added.

* `GrantTable.Suited`: every record suits the pod under whose key it stands. `GrantTable.Edited`:
  what one step of a reconcile makes of a table.
* `Site.edits_reconcile`: the steps of a reconcile among others, who may do anything to the world.
* `Site.records_reconcile`: at the end of a reconcile, the CPUs that it has sent are on record.
* **`reconcileEach_recorded`**: the tables and the results of all runs that begin without grants.
-/

namespace PowerGrant

/-! ## Tables -/

namespace GrantTable

/-- Every grant on record suits the pod under whose key it stands. -/
def Suited (policy : ProfilePolicy) (t : GrantTable) : Prop :=
  ∀ key g, t.find? key = some g → g.Suits policy key

/-- What a step of a reconcile of the pod may make of a table: it leaves it as it is, takes the
pod's record out, or records a grant that suits the pod. -/
inductive Edited (policy : ProfilePolicy) (key : PodKey) (t : GrantTable) : GrantTable → Prop
  | same : Edited policy key t t
  | erased : Edited policy key t (t.erase key)
  | recorded {g : Grant} (h : g.Suits policy key) : Edited policy key t (t.insert key g)

variable {policy : ProfilePolicy} {key : PodKey} {t u : GrantTable}

theorem suited_empty : Suited policy {} := fun _ _ h => nomatch h

theorem Suited.edited (h : t.Suited policy) (he : t.Edited policy key u) : u.Suited policy := by
  intro k g hf
  cases he with
  | same => exact h k g hf
  | erased =>
    rw [Table.find?_erase] at hf
    split at hf
    · cases hf
    · exact h k g hf
  | recorded hg =>
    rw [Table.find?_insert] at hf
    split at hf
    · rename_i hk
      obtain rfl := Option.some.inj hf
      exact hk ▸ hg
    · exact h k g hf

end GrantTable

/-- The result is not that a grant was refused for the table of grants. -/
def Result.Accepted (r : Result) : Prop := ∀ e, r ≠ .error (.transient (.incompleteGrant e))

theorem accepted_phase (phase : Phase) (key : PodKey) (failures : List (String × CallFault)) :
    (phase.result key failures).Accepted := by
  intro e
  unfold Phase.result
  split <;> simp

/-! ## The steps of a reconcile -/

namespace Site

/-- Others change the world in whatever way, and leave the table of grants alone. -/
def Aside (s t : Site World) : Prop := t.grants = s.grants

/-- A step that edits the table of grants on behalf of the pod. -/
def Edits (policy : ProfilePolicy) (key : PodKey) (s t : Site World) : Prop :=
  s.grants.Edited policy key t.grants

variable {α : Type} {policy : ProfilePolicy} {key : PodKey} {site : Site World}
  {config : ReconcileConfig} {node : String} {shares : Shares} {next : Grant}

theorem edits_of_grants {s t : Site World} (h : t.grants = s.grants) : Edits policy key s t := by
  rw [Edits, h]
  exact .same

/-- What is done to the world of a site leaves the table as it is. -/
theorem edits_onWorld {x : Script World α} {post : α → Prop}
    (h : x.Safe (fun _ _ => True) (fun _ _ => True) (fun a _ => post a) site.world) :
    x.onWorld.Safe Aside (Edits policy key) (fun a _ => post a) site := by
  have henv : ∀ t u : Site World, True → Aside t u → True ∧ True :=
    fun _ _ _ _ => ⟨trivial, trivial⟩
  have hstep : ∀ (t : Site World) (w : World), True → True →
      Edits policy key t { t with world := w } ∧ True :=
    fun _ _ _ _ => ⟨edits_of_grants rfl, trivial⟩
  exact (h.onPart (fun _ => True) (fun _ _ => rfl) henv hstep trivial).mono (fun _ _ hs => hs)
    fun _ _ ha => ha.1

/-- So does whatever is done there. -/
theorem edits_anything (x : Script World α) (site : Site World) :
    x.onWorld.Safe Aside (Edits policy key) (fun _ _ => True) site :=
  edits_onWorld (.of_forall (fun _ _ => trivial) fun _ _ => trivial)

theorem edits_releaseShares (site : Site World) :
    (releaseShares World.services config key node shares).Safe Aside (Edits policy key)
      (fun _ _ => True) site :=
  Script.Safe.bind (Script.Safe.read (edits_of_grants rfl) fun t _ => edits_anything _ t)

theorem edits_settleRelease (site : Site World) :
    (settleRelease World.services config key).Safe Aside (Edits policy key)
      (fun r _ => r.Accepted) site := by
  refine Script.Safe.bind (Script.Safe.read (edits_of_grants rfl) fun t _ => ?_)
  split
  · exact fun _ => nofun
  · refine (edits_releaseShares t).seq fun failures u _ => ?_
    split
    · exact Script.Safe.bind (Script.Safe.update .erased fun _ _ => accepted_phase _ _ _)
    · exact accepted_phase _ _ _

theorem edits_releaseStale (site : Site World) :
    (releaseStale World.services config key next).Safe Aside (Edits policy key)
      (fun _ _ => True) site := by
  refine Script.Safe.bind (Script.Safe.read (edits_of_grants rfl) fun t _ => ?_)
  split
  · trivial
  · exact edits_releaseShares t

/-- A grant that suits the pod is recorded, and the record stands. -/
theorem edits_recordGrant (h : next.Suits policy key) (site : Site World) :
    (recordGrant key next).Safe Aside (Edits policy key)
      (fun r t => r = .ok () ∧ t.grants.find? key = some next) site := by
  refine Script.Safe.modifyGet ?_ fun t ht => ?_
  · rw [record_of_complete h.toComplete]
    exact .recorded h
  · rw [record_of_complete h.toComplete] at ht ⊢
    refine ⟨rfl, ?_⟩
    rw [show t.grants = site.grants.insert key next from ht, Table.find?_insert, if_pos rfl]

theorem edits_settleGrant (h : next.Suits policy key) (site : Site World) :
    (settleGrant World.services config key next).Safe Aside (Edits policy key)
      (fun r _ => r.Accepted) site := by
  refine (edits_releaseStale site).seq fun stale t _ => ?_
  split
  · exact accepted_phase _ _ _
  · refine (edits_anything _ t).seq fun failures u _ => ?_
    refine (edits_recordGrant h u).seq fun r v ⟨hr, _⟩ => ?_
    subst hr
    exact accepted_phase _ _ _

/-- Whatever others do to the world, a survey comes to a grant that suits the pod, to another intent
or to an error of its own. -/
theorem edits_survey (config : ReconcileConfig) (key : PodKey) (site : Site World) :
    (survey World.services config key).run.onWorld.Safe Aside (Edits config.policy key)
      (fun r _ => Surveyed (Intent.Suits config.policy key) r) site := by
  have hasking : Asking (fun _ _ => True) (fun _ _ => True) fun _ => True :=
    ⟨fun _ _ _ _ => trivial, fun _ _ _ _ => ⟨trivial, trivial⟩, fun _ _ => trivial⟩
  exact edits_onWorld ((survey_safe hasking config key site.world trivial).mono
    (fun _ _ _ => trivial) fun _ _ h => h.2)

/-- Whatever others do to the world, a reconcile leaves the table as it is in each step, or takes
the pod's record out, or records a grant that suits the pod; and no grant is refused. -/
theorem edits_reconcile (config : ReconcileConfig) (key : PodKey) (site : Site World) :
    (PowerGrant.reconcile World.services config key).Safe Aside (Edits config.policy key)
      (fun r _ => r.Accepted) site := by
  refine (edits_survey config key site).seq fun r t hr => ?_
  match r, hr with
  | .error _, hearly =>
    rintro e ⟨⟩
    exact hearly
  | .ok (.skip _), _ => exact fun _ => nofun
  | .ok .release, _ => exact edits_settleRelease t
  | .ok (.grant next), hsuits => exact edits_settleGrant (hsuits next rfl) t

/-! ## What was sent is on record -/

/-- Every CPU that was new in a record sent in the steps is held by what is recorded for the pod. -/
def Records (key : PodKey) (steps : List (Site World × Site World)) (t : Site World) : Prop :=
  World.SentOnly
    (fun _ profile node cpu => ∃ g, t.grants.find? key = some g ∧ g.Holds node profile cpu)
    (worlds steps)

/-- What others do to a site where nobody else reconciles: they write to the store, and change all
else but the calls made and the table of grants. -/
def Around (s t : Site World) : Prop := Others s t ∧ Aside s t

variable {steps later : List (Site World × Site World)} {t : Site World}

theorem Records.append (h : Records key steps t) (h' : Records key later t) :
    Records key (steps ++ later) t := by
  rw [Records, worlds_append]
  exact World.SentOnly.append h h'

theorem records_of_unsent (h : World.Unsent (worlds steps)) : Records key steps t := .of_unsent h

/-- A script that sends nothing new leaves nothing to be recorded. -/
theorem records_of_none (key : PodKey) {x : Script (Site World) α}
    (h : SendsOnly (fun _ _ _ => False) x) (site : Site World) :
    x.Traced Around (fun steps _ _ => ∀ u, Records key steps u) site :=
  ((h site).among fun _ _ he => he.1).mono fun _ _ _ hs _ => hs.mono fun _ _ _ _ => False.elim

/-- A grant is recorded last, with all that was sent for it. -/
theorem records_settleGrant (h : next.Suits policy key) (site : Site World) :
    (settleGrant World.services config key next).Traced Around
      (fun steps _ t => Records key steps t) site := by
  refine (records_of_none key (releaseStale_sends config key next) site).seq
    fun first stale t hfirst => ?_
  split
  · exact (hfirst t).append (records_of_unsent World.unsent_nil)
  · refine ((grantShares_sends config next t).among fun _ _ he => he.1).seq
      fun second failures u hsecond => ?_
    have hrecord := (records_of_none key (recordGrant_sends key next) u).and_safe
      ((edits_recordGrant h u).among fun _ _ he => he.2)
    refine hrecord.seq fun third r v ⟨hthird, hr, hf⟩ => ?_
    subst hr
    have hgiven : Records key second v := by
      refine hsecond.mono ?_
      rintro _ _ _ _ ⟨given, hn, hholds⟩
      obtain rfl := Intent.grant.inj hn
      exact ⟨next, hf, hholds⟩
    exact (hfirst v).append
      (hgiven.append ((hthird v).append (records_of_unsent World.unsent_nil)))

/-- At the end of a reconcile all CPUs that it has sent are on record for the pod. -/
theorem records_reconcile (config : ReconcileConfig) (key : PodKey) (site : Site World) :
    (PowerGrant.reconcile World.services config key).Traced Around
      (fun steps _ t => Records key steps t) site := by
  have hsurvey := ((traced_onWorld (survey_learns config key site.world)).among
    fun _ _ (he : Around _ _) => he.1).and_safe
      ((edits_survey config key site).among fun _ _ he => he.2)
  refine hsurvey.seq fun steps r t ⟨⟨hun, _⟩, hr⟩ => ?_
  have hasked : ∀ u, Records key steps u := fun _ => records_of_unsent hun
  match r, hr with
  | .error _, _ => exact (hasked t).append (records_of_unsent World.unsent_nil)
  | .ok (.skip _), _ => exact (hasked t).append (records_of_unsent World.unsent_nil)
  | .ok .release, _ =>
    have hrelease : SendsOnly (fun _ _ _ => False) (settle World.services config key .release) := by
      refine (settle_sends config key .release).mono ?_
      rintro _ _ _ ⟨next, hn, -⟩
      cases hn
    exact (records_of_none key hrelease t).mono fun _ _ u hl => (hasked u).append (hl u)
  | .ok (.grant next), hsuits =>
    exact (records_settleGrant (hsuits next rfl) t).mono fun _ _ u hl => (hasked u).append hl

end Site

/-! ## Runs -/

/-- Whatever others do to the world meanwhile, every table that reconciles go through has only
grants that suit their pods if the first one has. -/
theorem reconcileEach_suited (config : ReconcileConfig) (keys : List PodKey) {site : Site World}
    (h : site.grants.Suited config.policy) :
    (reconcileEach config keys).Safe Site.Aside (fun _ u => u.grants.Suited config.policy)
      (fun results u => u.grants.Suited config.policy ∧ ∀ r ∈ results, r.2.Accepted) site := by
  induction keys generalizing site with
  | nil => exact ⟨h, fun _ hr => nomatch hr⟩
  | cons key keys ih =>
    have hfirst := (Site.edits_reconcile config key site).keeps
      (fun t => t.grants.Suited config.policy) (fun _ _ ht he => ht.edited he)
      (fun _ _ ht he => he ▸ ht) h
    refine (hfirst.mono (fun _ _ hs => hs.2) fun _ _ hs => hs).seq fun r t ⟨hr, ht⟩ => ?_
    refine (ih ht).seq fun results u ⟨hu, hresults⟩ => ?_
    exact ⟨hu, List.forall_mem_cons.2 ⟨hr, hresults⟩⟩

/-- Whatever the worlds, the faults and the writes of others: in reconciles one after the other that
begin without any grants no grant is refused for the table, and in every table on the way each grant
has the name and the namespace of its key, a node, a uid, and containers that all have CPUs, and one
profile only where the policy says so. So a reconcile that has added CPUs to workloads has all of
them on record in the end. -/
theorem reconcileEach_recorded (config : ReconcileConfig) (keys : List PodKey) (world : World) :
    (reconcileEach config keys).Safe Site.Aside (fun _ u => u.grants.Suited config.policy)
        (fun results u => u.grants.Suited config.policy ∧
          ∀ r ∈ results, ∀ e, r.2 ≠ .error (.transient (.incompleteGrant e)))
        ⟨{}, world⟩ ∧
      ∀ (key : PodKey) (site : Site World),
        (reconcile World.services config key).Traced Site.Around
          (fun steps _ t => Site.Records key steps t) site :=
  ⟨reconcileEach_suited config keys GrantTable.suited_empty, Site.records_reconcile config⟩

/-- A write that is answered too late makes the reconcile fail, but its CPUs are listed and on
record. -/
example :
    let ran := (reconcileEach {} [⟨"d", "a"⟩]).run
      (Site.sample [{ method := .createWorkload, delayAfter := 6000 }])
    ran.value.map (fun r => r.2.toOption) = [none] ∧
      ran.state.world.store.specs "perf-workload" = some ⟨"perf", [⟨"n1", [4, 5]⟩]⟩ ∧
      ran.state.grants.find? ⟨"d", "a"⟩ =
        some ⟨"n1", "a", "d", "u", [⟨"c", "", [4, 5], "perf"⟩]⟩ := by
  decide +kernel

end PowerGrant
