import PowerGrant.Proofs.Cpu.List
import PowerGrant.Proofs.World.Undisturbed
import PowerGrant.Reconcile.Survey

/-!
# What a survey finds

A survey only asks. What it finds is decided by the tables of the world alone; faults may keep it
from finding anything, but never make it find something else.

* `Grant.Complete`, `Grant.Suits`: what every grant that a survey finds has.
* `Pod.Demands`: how a pod comes to ask for profiles.
* `ReconcileError.Early`: the errors of a survey.
* `survey_safe`: the steps of a survey are calls outside the store.
* `survey_agrees`: what a survey finds among faults it also finds where no call fails.
* `survey_store`: a survey makes no use of the workloads.
-/

namespace PowerGrant

/-- The grant has a node, the pod's uid and containers, and each of them CPUs. -/
structure Grant.Complete (g : Grant) : Prop where
  node : g.node ≠ ""
  uid : g.uid ≠ ""
  containers : g.containers ≠ []
  cpus : ∀ c ∈ g.containers, c.cpus ≠ []

/-- The grant is a complete one for the pod of the key; where the policy allows a pod one profile,
all its containers have the same. -/
structure Grant.Suits (policy : ProfilePolicy) (key : PodKey) (g : Grant) : Prop
    extends Grant.Complete g where
  name : g.name = key.name
  ns : g.ns = key.ns
  uniform : policy = .onePerPod → ∀ c ∈ g.containers, ∀ d ∈ g.containers, c.profile = d.profile

/-- A grant that is to be made is complete. -/
def Intent.Complete (i : Intent) : Prop := ∀ next, i = .grant next → next.Complete

/-- A grant that is to be made suits the pod. -/
def Intent.Suits (policy : ProfilePolicy) (key : PodKey) (i : Intent) : Prop :=
  ∀ next, i = .grant next → next.Suits policy key

/-- The error of a survey, which comes before anything was changed. -/
def ReconcileError.Early : ReconcileError → Prop
  | .notReady _ _ | .invalid _ => True
  | .transient (.call _ _) | .transient (.profileLookup _ _ _) | .transient (.noCpusYet _) => True
  | .transient (.partialFailure _ _ _) | .transient (.incompleteGrant _) => False

/-- What a stage of a survey comes to: something as `found` says, or an error of a survey. -/
def Surveyed {α : Type} (found : α → Prop) : Except ReconcileError α → Prop
  | .ok a => found a
  | .error e => e.Early

theorem Surveyed.mono {α : Type} {found found' : α → Prop} {r : Except ReconcileError α}
    (h : Surveyed found r) (hf : ∀ a, found a → found' a) : Surveyed found' r := by
  cases r with
  | ok a => exact hf a h
  | error e => exact h

/-! ## From the pod alone -/

theorem identity_ok {part : IdentityPart} {value : Option String} {s : String}
    (h : identity part value = .ok s) : s ≠ "" := by
  unfold identity at h
  split at h
  · split at h
    · cases h
    · obtain rfl := Except.ok.inj h
      assumption
  · cases h

theorem ok_of_mapError {ε ε' α : Type} {f : ε → ε'} {x : Except ε α} {a : α}
    (h : x.mapError f = .ok a) : x = .ok a := by
  cases x with
  | error e => cases h
  | ok b => exact congrArg _ (Except.ok.inj h)

theorem identity_eq {part : IdentityPart} {value : Option String} {s : String}
    (h : identity part value = .ok s) : value = some s := by
  unfold identity at h
  split at h
  · split at h
    · cases h
    · rw [Except.ok.inj h]
  · cases h

/-- How a pod comes to ask for profiles: it has an identity, and those of its containers that have
CPUs of their own make requests that are in line with the policy. -/
structure Pod.Demands (p : Pod) (policy : ProfilePolicy) (uid node : String)
    (requests : List (Container × String)) : Prop where
  identified : identity .uid p.uid = .ok uid
  placed : identity .nodeName p.node = .ok node
  pinned : p.pinnedContainers ≠ []
  made : Pod.requestsOf p.pinnedContainers = .ok requests
  asks : requests ≠ []
  allowed : checkPolicy policy (requests.map Prod.snd) = .ok ()

theorem demands_of_demand {p : Pod} {policy : ProfilePolicy} {uid node : String}
    {requests : List (Container × String)}
    (h : p.demand policy = .ok (.profiles uid node requests)) :
    p.Demands policy uid node requests := by
  unfold Pod.demand at h
  obtain ⟨uid', hu, h⟩ := ok_of_bind_ok h
  obtain ⟨node', hn, h⟩ := ok_of_bind_ok h
  split at h
  · cases h
  · rename_i hpinned
    obtain ⟨requests', hr, h⟩ := ok_of_bind_ok h
    split at h
    · cases h
    · rename_i hne
      obtain ⟨⟨⟩, hpolicy, h⟩ := ok_of_bind_ok h
      obtain ⟨rfl, rfl, rfl⟩ := Demand.profiles.inj (Except.ok.inj h)
      exact ⟨hu, hn, hpinned, ok_of_mapError hr, hne, ok_of_mapError hpolicy⟩

/-- What a pod asks for, as a stage of a survey. -/
theorem surveyed_demand (p : Pod) (policy : ProfilePolicy) :
    Surveyed (fun d => p.demand policy = .ok d) ((p.demand policy).mapError .invalid) := by
  cases p.demand policy with
  | ok d => exact rfl
  | error e => trivial

/-- What an agent's answer lists, as a stage of a survey. -/
theorem surveyed_cpusOfAnswer (container list : String) :
    Surveyed (fun cpus => cpusOfAnswer container list = .ok cpus ∧ cpus ≠ [])
      (cpusOfAnswer container list) := by
  unfold cpusOfAnswer
  split
  · trivial
  · cases hp : parseCpuList list with
    | ok cpus => exact ⟨rfl, parseCpuList_ne_nil hp⟩
    | error fault => trivial

/-- Where the policy allows one profile, all profiles that it allows are the same. -/
theorem checkPolicy_ok {profiles : List String} (h : checkPolicy .onePerPod profiles = .ok ()) :
    ∀ p ∈ profiles, ∀ q ∈ profiles, p = q := by
  unfold checkPolicy at h
  dsimp only at h
  split at h
  case isTrue hlen =>
    have hlen : (ascending profiles).length ≤ 1 := hlen.resolve_left (by simp)
    intro p hp q hq
    rw [← mem_ascending] at hp hq
    generalize ascending profiles = distinct at hp hq hlen
    match distinct, hlen with
    | [], _ => cases hp
    | [a], _ => rw [List.mem_singleton.1 hp, List.mem_singleton.1 hq]
  case isFalse => cases h

/-! ## Stages that only ask -/

section Asks

variable {α β : Type} {env step : World → World → Prop} {inv : World → Prop}

/-- What a script that only asks may rely on: calls outside the store keep `inv`, and so do
others. -/
structure Asking (env step : World → World → Prop) (inv : World → Prop) : Prop where
  env : ∀ t u, inv t → env t u → inv u
  note : ∀ t c, inv t → c.method.onStore = false →
    step t (World.noted t c).2 ∧ inv (World.noted t c).2
  still : ∀ t, inv t → step t t

/-- Each step of the script keeps `inv`, and what it gives is as `post` says. -/
def Asks (env step : World → World → Prop) (inv : World → Prop) (post : α → Prop)
    (x : Script World α) : Prop :=
  ∀ w, inv w → x.Safe env (fun t u => step t u ∧ inv u) (fun a t => inv t ∧ post a) w

namespace Asks

variable {post mid : α → Prop} {x : Script World α}

theorem done {a : α} (h : post a) : Asks env step inv post (.done a) := fun _ hw => ⟨hw, h⟩

theorem bind {f : α → Script World β} {post : β → Prop} (hx : Asks env step inv mid x)
    (hf : ∀ a, mid a → Asks env step inv post (f a)) : Asks env step inv post (x.bind f) :=
  fun w hw => (hx w hw).seq fun a t ht => hf a ht.2 t ht.1

theorem mono (hx : Asks env step inv mid x) (h : ∀ a, mid a → post a) :
    Asks env step inv post x :=
  fun w hw => (hx w hw).mono (fun _ _ hs => hs) fun _ _ ha => ⟨ha.1, h _ ha.2⟩

/-- A call under a timeout whose answers are as `answer` says. -/
theorem answered (h : Asking env step inv) {c : Call} (hc : c.method.onStore = false)
    {effect : Fault → World → Answer α × World} (he : ∀ f w, (effect f w).2 = w) (limit : Nat)
    {answer : α → Prop} (ha : ∀ f t a, inv t → (effect f t).1 = .ok a → answer a) :
    Asks env step inv (fun r => ∀ a, r = .ok a → answer a)
      (bounded limit (World.call c effect)) := by
  intro w hw
  obtain ⟨hstep, hinv⟩ := h.note w c hw hc
  have hcall : (World.call c effect).Safe env (fun t u => step t u ∧ inv u)
      (fun r t => inv t ∧ ∀ a, r = .ok a → answer a) w :=
    World.call_safe inv h.env (fun _ _ _ hr hu => ⟨h.env _ _ hr.1 hu, hr.2⟩) ⟨⟨hstep, hinv⟩, hinv⟩
      (fun _ _ ht => ⟨ht, fun _ hr => nomatch hr⟩) fun t ht => by
        rw [he]
        exact ⟨⟨h.still t ht, ht⟩, ht, fun a hr => ha _ t a ht hr⟩
  refine (hcall.within limit inv (fun _ _ hs => hs.2) h.env fun hno => absurd trivial hno).seq ?_
  intro r t hr
  match r, hr with
  | some (.ok a), hr => exact ⟨hr.1, fun b hb => Except.ok.inj hb ▸ hr.2 a rfl⟩
  | some (.error _), hr => exact ⟨hr.1, fun _ hb => nomatch hb⟩
  | none, hr => exact ⟨hr, fun _ hb => nomatch hb⟩

/-- A call under a timeout. -/
theorem bounded (h : Asking env step inv) {c : Call} (hc : c.method.onStore = false)
    {effect : Fault → World → Answer α × World} (he : ∀ f w, (effect f w).2 = w) (limit : Nat) :
    Asks env step inv (fun _ => True) (bounded limit (World.call c effect)) :=
  (answered h hc he limit fun _ _ _ _ _ => trivial).mono fun _ _ => trivial

end Asks

end Asks

/-- A stage only asks; it finds something as `post` says, or fails with an error of a survey. -/
def Stage.Asks {α : Type} (env step : World → World → Prop) (inv : World → Prop) (post : α → Prop)
    (x : Stage World α) : Prop :=
  PowerGrant.Asks env step inv (Surveyed post) x.run

namespace Stage.Asks

variable {α β : Type} {env step : World → World → Prop} {inv : World → Prop} {post mid : α → Prop}

theorem bind {x : Stage World α} {f : α → Stage World β} {post : β → Prop}
    (hx : x.Asks env step inv mid) (hf : ∀ a, mid a → (f a).Asks env step inv post) :
    Stage.Asks env step inv post (x >>= f) := by
  refine PowerGrant.Asks.bind hx fun r hr => ?_
  cases r with
  | ok a => exact hf a hr
  | error e => exact .done hr

theorem pure {a : α} (h : post a) : Stage.Asks env step inv post (pure a) :=
  PowerGrant.Asks.done h

theorem ofExcept {r : Except ReconcileError α} (h : Surveyed post r) :
    Stage.Asks env step inv post (ExceptT.mk (.done r)) :=
  PowerGrant.Asks.done h

/-- A call that has to succeed. -/
theorem required {limit : Nat} {what : BoundedCall} {call : Script World (Answer α)}
    (h : PowerGrant.Asks env step inv (fun r => ∀ a, r = .ok a → post a) (bounded limit call)) :
    (required limit what call).Asks env step inv post := by
  refine PowerGrant.Asks.bind h fun r hr => ?_
  cases r with
  | ok a => exact .done (hr a rfl)
  | error fault => exact .done trivial

end Stage.Asks

/-! ## The steps of a survey -/

section Safe

variable {env step : World → World → Prop} {inv : World → Prop} {limit : Nat}

theorem asks_pod (h : Asking env step inv) (key : PodKey) :
    (required limit .podLookup (World.services.pod key)).Asks env step inv fun _ => True :=
  .required (.answered h rfl (fun _ _ => rfl) limit fun _ _ _ _ _ => trivial)

theorem asks_address (h : Asking env step inv) (node : String) :
    (required limit .addressResolution (World.services.address node)).Asks env step inv
      fun _ => True :=
  .required (.answered h rfl (fun _ _ => rfl) limit fun _ _ _ _ _ => trivial)

theorem asks_cpus (h : Asking env step inv) (key : PodKey) (container : String) :
    (required limit .cpuLookup (World.services.cpus key container)).Asks env step inv
      fun _ => True := by
  refine .required (.answered h rfl (fun _ w => ?_) limit fun _ _ _ _ _ => trivial)
  dsimp only
  split <;> rfl

theorem asks_validateProfile (h : Asking env step inv) (profile node address : String) :
    (validateProfile World.services limit profile node address).Asks env step inv
      fun _ => True := by
  refine Asks.bind (Asks.bounded h rfl (fun _ _ => rfl) limit) fun r _ => ?_
  split
  · exact .done trivial
  · refine .done ?_
    split <;> trivial
  · exact .done trivial

theorem asks_validateProfiles (h : Asking env step inv) (node address : String)
    (profiles : List String) :
    (validateProfiles World.services limit node address profiles).Asks env step inv
      fun _ => True := by
  induction profiles with
  | nil => exact .pure trivial
  | cons p ps ih => exact .bind (asks_validateProfile h p node address) fun _ _ => ih

/-- The CPUs that are found are not none. -/
theorem asks_containerCpus (h : Asking env step inv) (key : PodKey) (container : String) :
    (containerCpus World.services limit key container).Asks env step inv (· ≠ []) := by
  refine .bind (asks_cpus h key container) fun list _ => .ofExcept ?_
  exact (surveyed_cpusOfAnswer container list).mono fun _ hcpus => hcpus.2

/-- There is a grant for every request, with its profile and with CPUs. -/
theorem asks_containerGrants (h : Asking env step inv) (key : PodKey) (pod : Pod)
    (requests : List (Container × String)) :
    (containerGrants World.services limit key pod requests).Asks env step inv fun cs =>
      cs.map ContainerGrant.profile = requests.map Prod.snd ∧ ∀ c ∈ cs, c.cpus ≠ [] := by
  induction requests with
  | nil => exact .pure ⟨rfl, fun _ hc => nomatch hc⟩
  | cons r requests ih =>
    obtain ⟨c, profile⟩ := r
    refine .bind (asks_containerCpus h key c.name) fun cpus hcpus => ?_
    refine .bind ih fun rest ⟨hprofiles, hrest⟩ => .pure ⟨?_, List.forall_mem_cons.2 ⟨hcpus, hrest⟩⟩
    rw [List.map_cons, List.map_cons, hprofiles]

/-- What a pod demands is granted as it suits the pod. -/
theorem suits_of_demands {policy : ProfilePolicy} {key : PodKey} {pod : Pod} {uid node : String}
    {requests : List (Container × String)} {cs : List ContainerGrant}
    (hd : pod.Demands policy uid node requests)
    (hprofiles : cs.map ContainerGrant.profile = requests.map Prod.snd)
    (hcpus : ∀ c ∈ cs, c.cpus ≠ []) :
    Grant.Suits policy key ⟨node, key.name, key.ns, uid, cs⟩ where
  node := identity_ok hd.placed
  uid := identity_ok hd.identified
  containers hnil := by
    have hlen := congrArg List.length hprofiles
    rw [show cs = [] from hnil] at hlen
    exact hd.asks (List.eq_nil_of_length_eq_zero (by simpa using hlen.symm))
  cpus := hcpus
  name := rfl
  ns := rfl
  uniform := by
    rintro rfl c hc d hd'
    refine checkPolicy_ok hd.allowed _ ?_ _ ?_
    · exact hprofiles ▸ List.mem_map_of_mem hc
    · exact hprofiles ▸ List.mem_map_of_mem hd'

theorem asks_surveyRunning (h : Asking env step inv) (config : ReconcileConfig) (key : PodKey)
    (pod : Pod) :
    (surveyRunning World.services config key pod).Asks env step inv
      (Intent.Suits config.policy key) := by
  refine .bind (.ofExcept (surveyed_demand pod config.policy)) fun d hd => ?_
  cases d with
  | nothing reason => exact .pure fun _ hn => nomatch hn
  | profiles uid node requests =>
    refine .bind (asks_address h node) fun address _ => ?_
    refine .bind (asks_validateProfiles h node address _) fun _ _ => ?_
    refine .bind (asks_containerGrants h key pod requests) fun cs ⟨hprofiles, hcpus⟩ => ?_
    refine .pure fun next hn => ?_
    obtain rfl := Intent.grant.inj hn
    exact suits_of_demands (demands_of_demand hd) hprofiles hcpus

/-- A survey makes only calls outside the store, and a grant that it finds suits the pod. -/
theorem survey_safe (h : Asking env step inv) (config : ReconcileConfig) (key : PodKey) :
    (survey World.services config key).Asks env step inv (Intent.Suits config.policy key) := by
  refine .bind (asks_pod h key) fun found _ => ?_
  cases found with
  | none => exact .pure fun _ hn => nomatch hn
  | some pod =>
    dsimp only
    split
    · exact .pure fun _ hn => nomatch hn
    · exact PowerGrant.Asks.done trivial
    · exact asks_surveyRunning h config key pod

end Safe

/-! ## Undisturbed surveys -/

/-- Calls that are made undisturbed and outside the store leave it and the tables as they are. -/
theorem asking_called (w : World) :
    Asking Eq (fun _ _ => True) fun t => w.Called t ∧ t.store = w.store where
  env _ _ ht he := he ▸ ht
  note t c ht _ := ⟨trivial, ht.1.trans (.noted t c), ht.2⟩
  still _ _ := trivial

theorem run_survey (config : ReconcileConfig) (key : PodKey) (w : World) :
    let ran := (survey World.services config key).run.run w
    w.Called ran.state ∧ ran.state.store = w.store ∧
      ∀ intent, ran.value = .ok intent → intent.Complete := by
  have h := Script.Safe.run (fun _ => rfl)
    (survey_safe (asking_called w) config key w ⟨.refl w, rfl⟩)
  refine ⟨h.1.1, h.1.2, fun intent hv next hn => ?_⟩
  have hfound := h.2
  rw [hv] at hfound
  exact (hfound next hn).toComplete

/-- What the script finds, it also finds in a world of the same tables where no call fails. -/
structure Agrees (limit : Nat) {ε α : Type} (x : Script World (Except ε α)) : Prop where
  called : ∀ w : World, w.Called (x.run w).state
  value : ∀ (w w' : World) a, w.SameTables w' → World.Spared limit (x.trace w') →
    (x.run w).value = .ok a → (x.run w').value = .ok a
  /-- Where no call fails the tables also decide how it fails. -/
  spared : ∀ w w' : World, w.SameTables w' → World.Spared limit (x.trace w) →
    World.Spared limit (x.trace w') → (x.run w).value = (x.run w').value

namespace Agrees

variable {ε ε' α β : Type} {limit : Nat}

theorem done (r : Except ε α) : Agrees limit (.done r) :=
  ⟨fun w => .refl w, fun _ _ _ _ _ h => h, fun _ _ _ _ _ => rfl⟩

theorem bind {x : Script World (Except ε α)} {f : Except ε α → Script World (Except ε' β)}
    (hx : Agrees limit x) (hok : ∀ a, Agrees limit (f (.ok a)))
    (herror : ∀ e, ∃ e', f (.error e) = .done (.error e')) : Agrees limit (x.bind f) := by
  have hfirst {w : World} (h : World.Spared limit ((x.bind f).trace w)) :
      World.Spared limit (x.trace w) := by
    rw [Script.trace_bind] at h
    exact h.mono (List.subset_append_left _ _)
  have hlater {w : World} {a : α} (hv : (x.run w).value = .ok a)
      (h : World.Spared limit ((x.bind f).trace w)) :
      World.Spared limit ((f (.ok a)).trace (x.run w).state) := by
    rw [Script.trace_bind, hv] at h
    exact h.mono (List.subset_append_right _ _)
  have htables {w w' : World} (ht : w.SameTables w') :
      (x.run w).state.SameTables (x.run w').state :=
    (hx.called w).tables.symm.trans (ht.trans (hx.called w').tables)
  constructor
  · intro w
    rw [Script.run_bind]
    cases (x.run w).value with
    | ok a => exact (hx.called w).trans ((hok a).called _)
    | error e =>
      obtain ⟨e', he⟩ := herror e
      rw [he]
      exact hx.called w
  · intro w w' b ht hw h
    simp only [Script.run_bind] at h ⊢
    cases hv : (x.run w).value with
    | error e =>
      obtain ⟨e', he⟩ := herror e
      rw [hv, he] at h
      cases h
    | ok a =>
      have hv' := hx.value w w' a ht (hfirst hw) hv
      rw [hv] at h
      rw [hv']
      exact (hok a).value _ _ b (htables ht) (hlater hv' hw) h
  · intro w w' ht hw hw'
    have heq := hx.spared w w' ht (hfirst hw) (hfirst hw')
    simp only [Script.run_bind]
    cases hv' : (x.run w').value with
    | error e =>
      obtain ⟨e', he⟩ := herror e
      rw [heq, hv', he]
      rfl
    | ok a =>
      rw [heq, hv']
      exact (hok a).spared _ _ (htables ht) (hlater (heq.trans hv') hw) (hlater hv' hw')

/-- A call under a timeout that changes nothing and is answered from the tables. -/
theorem bounded {c : Call} (hc : c.method.onStore = false)
    {effect : Fault → World → Answer α × World} (he : ∀ f w, (effect f w).2 = w)
    (htables : ∀ f f' w w', w.SameTables w' → (effect f w).1 = (effect f' w').1) :
    Agrees limit (bounded limit (World.call c effect)) := by
  have hnoted {w w' : World} (ht : w.SameTables w') :
      (World.noted w c).2.SameTables (World.noted w' c).2 :=
    ⟨ht.pods, ht.addresses, ht.profiles, ht.cpus⟩
  constructor
  · intro w
    exact (Script.Safe.run (fun _ => rfl)
      (Asks.bounded (asking_called w) hc he limit w ⟨.refl w, rfl⟩)).1.1
  · intro w w' a ht hw h
    have hanswer := World.value_of_call (World.value_of_bounded h)
    rw [htables _ (World.noted w' c).1 _ _ (hnoted ht)] at hanswer
    rw [World.value_bounded_of_spared hw, hanswer]
    rfl
  · intro w w' ht hw hw'
    rw [World.value_bounded_of_spared hw, World.value_bounded_of_spared hw',
      htables _ (World.noted w' c).1 _ _ (hnoted ht)]

theorem required {what : BoundedCall} {call : Script World (Answer α)}
    (h : Agrees limit (PowerGrant.bounded limit call)) :
    Agrees limit (required limit what call).run :=
  bind h (fun a => done (.ok a)) fun _ => ⟨_, rfl⟩

/-- A stage after another. -/
theorem stage {x : Stage World α} {f : α → Stage World β} (hx : Agrees limit x.run)
    (hf : ∀ a, Agrees limit (f a).run) : Agrees limit (x >>= f).run :=
  bind hx hf fun e => ⟨e, rfl⟩

theorem pod (key : PodKey) : Agrees limit (PowerGrant.bounded limit (World.services.pod key)) :=
  bounded rfl (fun _ _ => rfl) fun _ _ _ _ h => by rw [h.pods]

theorem address (node : String) :
    Agrees limit (PowerGrant.bounded limit (World.services.address node)) :=
  bounded rfl (fun _ _ => rfl) fun _ _ _ _ h => by simp only [World.addressOf, h.addresses]

theorem profile (name address : String) :
    Agrees limit (PowerGrant.bounded limit (World.services.profile name address)) :=
  bounded rfl (fun _ _ => rfl) fun _ _ _ _ h => by simp only [World.profileAt, h.profiles]

theorem cpus (key : PodKey) (container : String) :
    Agrees limit (PowerGrant.bounded limit (World.services.cpus key container)) := by
  refine bounded rfl (fun _ w => ?_) fun _ _ w w' h => ?_
  · dsimp only
    split <;> rfl
  · simp only [h.cpus]
    split <;> rfl

theorem validateProfiles (node address : String) (profiles : List String) :
    Agrees limit (validateProfiles World.services limit node address profiles).run := by
  induction profiles with
  | nil => exact done _
  | cons p ps ih =>
    refine stage (bind (profile p address) (fun found => ?_) fun e => ⟨_, rfl⟩) fun _ => ih
    cases found <;> exact done _

theorem containerCpus (key : PodKey) (container : String) :
    Agrees limit (containerCpus World.services limit key container).run :=
  stage (required (cpus key container)) fun list => done (cpusOfAnswer container list)

theorem containerGrants (key : PodKey) (pod : Pod) (requests : List (Container × String)) :
    Agrees limit (containerGrants World.services limit key pod requests).run := by
  induction requests with
  | nil => exact done _
  | cons r requests ih =>
    exact stage (containerCpus key r.1.name) fun cpus => stage ih fun rest => done _

theorem surveyRunning (config : ReconcileConfig) (key : PodKey) (pod : Pod) :
    Agrees config.callTimeout (surveyRunning World.services config key pod).run := by
  refine stage (done _) fun demand => ?_
  cases demand with
  | nothing reason => exact done _
  | profiles uid node requests =>
    exact stage (required (address node)) fun a =>
      stage (validateProfiles node a _) fun _ =>
        stage (containerGrants key pod requests) fun cs => done _

end Agrees

/-- What a survey finds among faults, it also finds where no call fails. -/
theorem survey_agrees (config : ReconcileConfig) (key : PodKey) :
    Agrees config.callTimeout (survey World.services config key).run := by
  refine .stage (.required (.pod key)) fun found => ?_
  cases found with
  | none => exact .done _
  | some pod =>
    dsimp only
    split
    · exact .done _
    · exact .done _
    · exact .surveyRunning config key pod

/-- Without faults no call of a survey fails. -/
theorem spared_survey (config : ReconcileConfig) (key : PodKey) {w : World} {limit : Nat}
    (hw : w.Calm) : World.Spared limit ((survey World.services config key).run.trace w) := by
  have hcalled : ∀ t ∈ (survey World.services config key).run.states w, w.Called t :=
    Script.Safe.states (fun _ => rfl)
      (survey_safe (asking_called w) config key w ⟨.refl w, rfl⟩) (.refl w) fun _ _ h => h.2.1
  exact World.spared_of_calm fun e he => (hcalled e.1 (Script.fst_mem_states he)).calm hw

/-! ## Another workload store -/

section Stores

variable {σ : Type} (services : Services σ) (store : WorkloadStore σ)

theorem validateProfiles_store (limit : Nat) (node address : String) (profiles : List String) :
    validateProfiles { services with workloads := store } limit node address profiles =
      validateProfiles services limit node address profiles := by
  induction profiles with
  | nil => rfl
  | cons p ps ih =>
    rw [validateProfiles, validateProfiles, ih]
    rfl

theorem containerGrants_store (limit : Nat) (key : PodKey) (pod : Pod)
    (requests : List (Container × String)) :
    containerGrants { services with workloads := store } limit key pod requests =
      containerGrants services limit key pod requests := by
  induction requests with
  | nil => rfl
  | cons request requests ih =>
    obtain ⟨c, profile⟩ := request
    rw [containerGrants, containerGrants, ih]
    rfl

/-- A survey makes no use of the workloads. -/
theorem survey_store (config : ReconcileConfig) (key : PodKey) :
    survey { services with workloads := store } config key = survey services config key := by
  simp only [survey, surveyRunning, validateProfiles_store, containerGrants_store]

end Stores

end PowerGrant
