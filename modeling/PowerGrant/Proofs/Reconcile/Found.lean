import PowerGrant.Proofs.Reconcile.Survey

/-!
# What the tables say

What a survey finds can be read off the tables of the world: the pod decides whether something is
to be released, granted or neither, and the agent's answers are the CPUs of a grant.

* `World.due`: the grant that a pod is to have.
* `World.Finds`: what a survey finds, by how the pod stands.
* `survey_surveys`: a survey finds what the tables say, or fails with an error of its own.
-/

namespace PowerGrant

namespace World

/-- The CPUs that the node's agent lists for a container, if there are any and the list can be
read. -/
def cpusOf (w : World) (key : PodKey) (container : String) : Option (List CpuId) :=
  (w.cpus.find? s!"{key.text}/{container}").bind fun list =>
    (cpusOfAnswer container list).toOption

/-- What the containers of a pod that ask for a profile are to have. -/
def containersOf (w : World) (key : PodKey) (pod : Pod) :
    List (Container × String) → Option (List ContainerGrant)
  | [] => some []
  | (c, profile) :: requests => do
    let cpus ← w.cpusOf key c.name
    let rest ← w.containersOf key pod requests
    return ⟨c.name, pod.containerId c.name, cpus, profile⟩ :: rest

/-- The grant that a pod is to have: that of a running pod which asks for profiles. -/
def due (w : World) (policy : ProfilePolicy) (key : PodKey) : Option Grant := do
  let pod ← w.pods.find? key.text
  match pod.standing, pod.demand policy with
  | .running, .ok (.profiles uid node requests) =>
    let containers ← w.containersOf key pod requests
    return ⟨node, key.name, key.ns, uid, containers⟩
  | _, _ => none

/-- What a survey finds for a pod, by how the pod stands and what it asks for. -/
inductive Finds (w : World) (policy : ProfilePolicy) (key : PodKey) : Intent → Prop
  | gone (hp : w.pods.find? key.text = none) : Finds w policy key (.skip .podNotFound)
  | leaving {pod : Pod} (hp : w.pods.find? key.text = some pod) (hs : pod.standing = .leaving) :
    Finds w policy key .release
  | unasking {pod : Pod} {reason : SkipReason} (hp : w.pods.find? key.text = some pod)
    (hs : pod.standing = .running) (hd : pod.demand policy = .ok (.nothing reason)) :
    Finds w policy key (.skip reason)
  | asking {pod : Pod} {uid node : String} {requests : List (Container × String)} {next : Grant}
    (hp : w.pods.find? key.text = some pod) (hs : pod.standing = .running)
    (hd : pod.demand policy = .ok (.profiles uid node requests))
    (hdue : w.due policy key = some next) : Finds w policy key (.grant next)

end World

/-! ## Stages of a survey -/

/-- A stage that only asks in a world with the tables of `w`. -/
def Stage.Surveys {α : Type} (w : World) (found : α → Prop) (x : Stage World α) : Prop :=
  x.Asks Eq (fun _ _ => True) w.SameTables found

section Surveys

variable {α β : Type} {w : World} {found mid : α → Prop} {limit : Nat}

theorem asking_tables (w : World) : Asking Eq (fun _ _ => True) w.SameTables where
  env _ _ ht he := he ▸ ht
  note _ _ ht _ := ⟨trivial, ht.trans ⟨rfl, rfl, rfl, rfl⟩⟩
  still _ _ := trivial

/-! ## The steps of a survey -/

theorem surveys_pod (w : World) (key : PodKey) :
    (required limit .podLookup (World.services.pod key)).Surveys w fun found =>
      w.pods.find? key.text = found := by
  refine .required (.answered (asking_tables w) rfl (fun _ _ => rfl) limit fun _ t a ht ha => ?_)
  rw [← ht.pods]
  exact Except.ok.inj ha

theorem surveys_cpus (w : World) (key : PodKey) (container : String) :
    (required limit .cpuLookup (World.services.cpus key container)).Surveys w fun list =>
      w.cpus.find? s!"{key.text}/{container}" = some list := by
  refine .required (.answered (asking_tables w) rfl (fun _ t => ?_) limit fun _ t a ht ha => ?_)
  · dsimp only
    split <;> rfl
  · rw [← ht.cpus]
    dsimp only at ha
    split at ha
    · rename_i list hf
      rw [hf, Except.ok.inj ha]
    · cases ha

/-- The CPUs that are read off an answer are those that the agent lists. -/
theorem cpusOf_of_answer {w : World} {key : PodKey} {container list : String} {cpus : List CpuId}
    (h : w.cpus.find? s!"{key.text}/{container}" = some list)
    (hc : cpusOfAnswer container list = .ok cpus) : w.cpusOf key container = some cpus := by
  rw [World.cpusOf, h, Option.bind_some, hc]
  rfl

theorem surveys_containerCpus (w : World) (key : PodKey) (container : String) :
    (containerCpus World.services limit key container).Surveys w fun cpus =>
      w.cpusOf key container = some cpus := by
  refine .bind (surveys_cpus w key container) fun list hlist => .ofExcept ?_
  exact (surveyed_cpusOfAnswer container list).mono fun _ hcpus => cpusOf_of_answer hlist hcpus.1

theorem surveys_containerGrants (w : World) (key : PodKey) (pod : Pod)
    (requests : List (Container × String)) :
    (containerGrants World.services limit key pod requests).Surveys w fun cs =>
      w.containersOf key pod requests = some cs := by
  induction requests with
  | nil => exact .pure rfl
  | cons r requests ih =>
    obtain ⟨c, profile⟩ := r
    refine .bind (surveys_containerCpus w key c.name) fun cpus hcpus => ?_
    refine .bind ih fun rest hrest => .pure ?_
    rw [World.containersOf, hcpus, hrest]
    rfl

theorem surveys_surveyRunning (config : ReconcileConfig) {key : PodKey} {pod : Pod}
    (hp : w.pods.find? key.text = some pod) (hs : pod.standing = .running) :
    (surveyRunning World.services config key pod).Surveys w (w.Finds config.policy key) := by
  refine .bind (.ofExcept (surveyed_demand pod config.policy)) fun d hd => ?_
  cases d with
  | nothing reason => exact .pure (.unasking hp hs hd)
  | profiles uid node requests =>
    refine .bind (asks_address (asking_tables w) node) fun address _ => ?_
    refine .bind (asks_validateProfiles (asking_tables w) node address _) fun _ _ => ?_
    refine .bind (surveys_containerGrants w key pod requests) fun cs hcs => .pure ?_
    refine .asking hp hs hd ?_
    simp [World.due, hp, hs, hd, hcs]

/-- A survey finds what the tables say, or it fails with an error of its own. -/
theorem survey_surveys (config : ReconcileConfig) (key : PodKey) (w : World) :
    (survey World.services config key).Surveys w (w.Finds config.policy key) := by
  refine .bind (surveys_pod w key) fun found hf => ?_
  cases found with
  | none => exact .pure (.gone hf)
  | some pod =>
    dsimp only
    split
    · exact .pure (.leaving hf ‹_›)
    · exact Asks.done trivial
    · exact surveys_surveyRunning config hf ‹_›

theorem surveyed_survey (config : ReconcileConfig) (key : PodKey) (w : World) :
    Surveyed (w.Finds config.policy key)
      ((survey World.services config key).run.run w).value :=
  (Script.Safe.run (fun _ => rfl) (survey_surveys config key w w (.refl w))).2

end Surveys

end PowerGrant
