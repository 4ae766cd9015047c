import PowerGrant.Proofs.Reconcile.Cases
import PowerGrant.Proofs.World.Sent

/-!
# Nothing is granted unasked

Every CPU that a reconcile adds to a workload goes back to what it was told before: the pod asked
for it, the node's profile service knows the profile, and the node's agent reports the CPU.

* `Pod.Entitles`: a pod with a container that may have its CPUs with a profile.
* `World.Answered`: a call that only asks was answered from the tables of a world.
* `World.Warranted`: what has to be answered before a CPU may be added. `survey_learns`: a survey
  finds only grants of which every CPU is warranted.
* `reconcile_grants_warranted`: a reconcile adds only CPUs that are warranted by then.
-/

namespace PowerGrant

/-! ## What a pod is entitled to -/

/-- The pod runs on the node, and the container may run on CPUs of its own with the profile. -/
structure Pod.Entitles (p : Pod) (policy : ProfilePolicy) (c : Container) (profile node : String) :
    Prop where
  staying : p.deleting = false
  running : p.phase = some "Running"
  guaranteed : p.qosClass = some "Guaranteed"
  identified : ∃ uid, p.uid = some uid ∧ uid ≠ ""
  placed : p.node = some node
  listed : c ∈ p.initContainers ++ p.containers
  pinned : ∃ quantity n, c.requests.find? "cpu" = some quantity ∧
    wholeCpus quantity = some n ∧ 0 < n
  asks : c.profiles = [profile]
  /-- All containers with CPUs of their own that ask for a profile ask for this one. -/
  alone : policy = .onePerPod → ∀ c' ∈ p.initContainers ++ p.containers,
    c'.requestsWholeCpus = true → ∀ q ∈ c'.profiles, q = profile

theorem Container.profile_ok {c : Container} {found : Option String} (h : c.profile = .ok found) :
    c.profiles = found.toList := by
  unfold Container.profile at h
  split at h
  case h_1 hp =>
    obtain rfl := Except.ok.inj h
    exact hp
  case h_2 p hp =>
    obtain rfl := Except.ok.inj h
    exact hp
  case h_3 => cases h

/-- The requests of containers name each profile that a container asks for, with the container. -/
theorem Pod.mem_requestsOf {cs : List Container} {requests : List (Container × String)}
    (h : Pod.requestsOf cs = .ok requests) :
    (∀ r ∈ requests, r.1 ∈ cs ∧ r.1.profiles = [r.2]) ∧
      ∀ c ∈ cs, ∀ q ∈ c.profiles, (c, q) ∈ requests := by
  induction cs generalizing requests with
  | nil =>
    obtain rfl := Except.ok.inj h
    exact ⟨fun _ hr => (nomatch hr), fun _ hc => (nomatch hc)⟩
  | cons c cs ih =>
    unfold Pod.requestsOf at h
    obtain ⟨profile, hprofile, h⟩ := ok_of_bind_ok h
    obtain ⟨rest, hrest, h⟩ := ok_of_bind_ok h
    obtain ⟨hof, hall⟩ := ih hrest
    have hp := Container.profile_ok hprofile
    obtain rfl := Except.ok.inj h
    cases profile with
    | none =>
      refine ⟨fun r hr => ⟨List.mem_cons_of_mem _ (hof r hr).1, (hof r hr).2⟩,
        fun c' hc' q hq => ?_⟩
      rcases List.mem_cons.1 hc' with rfl | hc'
      · rw [hp] at hq
        cases hq
      · exact hall c' hc' q hq
    | some p =>
      refine ⟨fun r hr => ?_, fun c' hc' q hq => ?_⟩
      · rcases List.mem_cons.1 hr with rfl | hr
        · exact ⟨List.mem_cons_self, hp⟩
        · exact ⟨List.mem_cons_of_mem _ (hof r hr).1, (hof r hr).2⟩
      · rcases List.mem_cons.1 hc' with rfl | hc'
        · rw [hp] at hq
          rw [List.mem_singleton.1 hq]
          exact List.mem_cons_self
        · exact List.mem_cons_of_mem _ (hall c' hc' q hq)

theorem Pod.standing_running {p : Pod} (h : p.standing = .running) :
    p.deleting = false ∧ p.phase = some "Running" := by
  unfold Pod.standing at h
  dsimp only at h
  split at h
  · cases h
  · rename_i hdel
    split at h
    · cases h
    · split at h
      · rename_i hrun
        refine ⟨by simpa using hdel, ?_⟩
        cases hphase : p.phase with
        | none => simp [hphase] at hrun
        | some phase => simpa [hphase] using hrun
      · cases h

theorem Pod.mem_pinnedContainers {p : Pod} {c : Container} :
    c ∈ p.pinnedContainers ↔ p.qosClass = some "Guaranteed" ∧
      c ∈ p.initContainers ++ p.containers ∧ c.requestsWholeCpus = true := by
  unfold Pod.pinnedContainers
  split
  case isTrue h => simp only [h, List.mem_filter, true_and]
  case isFalse h => simp [h]

theorem Container.requestsWholeCpus_iff {c : Container} :
    c.requestsWholeCpus = true ↔
      ∃ quantity n, c.requests.find? "cpu" = some quantity ∧
        wholeCpus quantity = some n ∧ 0 < n := by
  unfold Container.requestsWholeCpus
  cases hq : c.requests.find? "cpu" with
  | none => simp
  | some quantity => cases hn : wholeCpus quantity <;> simp [hn]

/-- A running pod is entitled to each of its requests. -/
theorem Pod.entitles_of_demand {p : Pod} {policy : ProfilePolicy} {uid node profile : String}
    {requests : List (Container × String)} {c : Container} (hs : p.standing = .running)
    (h : p.demand policy = .ok (.profiles uid node requests)) (hc : (c, profile) ∈ requests) :
    p.Entitles policy c profile node := by
  obtain ⟨hdel, hphase⟩ := Pod.standing_running hs
  have hd := demands_of_demand h
  obtain ⟨hof, hall⟩ := Pod.mem_requestsOf hd.made
  obtain ⟨hpin, hasks⟩ := hof _ hc
  obtain ⟨hqos, hlisted, hwhole⟩ := Pod.mem_pinnedContainers.1 hpin
  exact {
    staying := hdel
    running := hphase
    guaranteed := hqos
    identified := ⟨uid, identity_eq hd.identified, identity_ok hd.identified⟩
    placed := identity_eq hd.placed
    listed := hlisted
    pinned := Container.requestsWholeCpus_iff.1 hwhole
    asks := hasks
    alone := by
      rintro rfl c' hc' hw q hq
      have hq := hall c' (Pod.mem_pinnedContainers.2 ⟨hqos, hc', hw⟩) q hq
      exact checkPolicy_ok hd.allowed q (List.mem_map_of_mem hq) profile (List.mem_map_of_mem hc) }

/-! ## What a survey learns -/

namespace World

/-- A call that only asks was answered from `t`: it was put on record, and the next step, in `t`,
changed nothing. -/
def Answered (steps : List (World × World)) (c : Call) (t : World) : Prop :=
  ∃ before s after, steps = before ++ (s, (noted s c).2) :: (t, t) :: after

/-- In the steps it was answered that the pod of the key is entitled to CPUs on the node with the
profile, that the node's profile service knows the profile, and that the node's agent gave the pod's
container the CPU. -/
def Warranted (policy : ProfilePolicy) (key : PodKey) (steps : List (World × World))
    (profile node : String) (cpu : CpuId) : Prop :=
  ∃ pod container, pod.Entitles policy container profile node ∧
    (∃ t, Answered steps ⟨.getPod, key.text, .none⟩ t ∧ t.pods.find? key.text = some pod) ∧
    (∃ address, (∃ t, Answered steps ⟨.resolveNode, node, .none⟩ t ∧ t.addressOf node = address) ∧
      ∃ t found, Answered steps ⟨.getProfile, profile, .address address⟩ t ∧
        t.profileAt address profile = some found ∧ found ≠ {}) ∧
    ∃ t list cpus, Answered steps ⟨.getCpus, s!"{key.text}/{container.name}", .none⟩ t ∧
      t.cpus.find? s!"{key.text}/{container.name}" = some list ∧ parseCpuList list = .ok cpus ∧
      cpu ∈ cpus

variable {w t : World} {c : Call} {steps before later : List (World × World)}

theorem Answered.append_right (h : Answered steps c t) : Answered (steps ++ later) c t := by
  obtain ⟨first, s, after, rfl⟩ := h
  exact ⟨first, s, after ++ later, by simp⟩

theorem Answered.append_left (h : Answered steps c t) : Answered (before ++ steps) c t := by
  obtain ⟨first, s, after, rfl⟩ := h
  exact ⟨before ++ first, s, after, by simp⟩

/-- What is warranted stays warranted. -/
theorem Warranted.append_right {policy : ProfilePolicy} {key : PodKey} {profile node : String}
    {cpu : CpuId} (h : Warranted policy key steps profile node cpu) :
    Warranted policy key (steps ++ later) profile node cpu := by
  obtain ⟨pod, container, hent, ⟨t, hpod, hfound⟩, ⟨address, ⟨t₂, hnode, haddr⟩, t₃, found,
    hprofile, hknown⟩, t₄, list, cpus, hcpus, hlist⟩ := h
  exact ⟨pod, container, hent, ⟨t, hpod.append_right, hfound⟩,
    ⟨address, ⟨t₂, hnode.append_right, haddr⟩, t₃, found, hprofile.append_right, hknown⟩,
    t₄, list, cpus, hcpus.append_right, hlist⟩

/-- A question under a timeout sends nothing, and what it gives was answered. -/
theorem question_traced {α : Type} {effect : Fault → World → Answer α × World}
    (hc : c.method.onStore = false) (he : ∀ f w, (effect f w).2 = w) (limit : Nat) (w : World) :
    (bounded limit (call c effect)).Traced Others
      (fun steps r _ => Unsent steps ∧
        ∀ a, r = .ok a → ∃ f t, Answered steps c t ∧ (effect f t).1 = .ok a) w := by
  have hnote : Unsent [(w, (noted w c).2)] :=
    unsent_noted ⟨fun h => by simp [h, Method.onStore] at hc,
      fun h => by simp [h, Method.onStore] at hc⟩
  have hcall : (call c effect).Traced Others
      (fun steps r _ => Unsent steps ∧
        ∀ a, r = .ok a → ∃ f t, Answered steps c t ∧ (effect f t).1 = .ok a) w := by
    refine call_traced (fun _ => True) (fun _ _ _ _ => trivial) trivial
      (fun e t _ => ⟨hnote, fun _ h => nomatch h⟩) fun t u _ _ => ?_
    rw [he]
    exact ⟨hnote.append (unsent_effect rfl), fun a ha => ⟨_, t, ⟨[], w, [], rfl⟩, ha⟩⟩
  refine (hcall.within limit Others.refl).seq fun steps o t hs => ?_
  match o, hs with
  | some (.ok a), ⟨hun, ha⟩ =>
    refine ⟨hun.append unsent_nil, fun b hb => ?_⟩
    obtain ⟨f, t, hans, heff⟩ := ha a rfl
    exact ⟨f, t, hans.append_right, Except.ok.inj hb ▸ heff⟩
  | some (.error _), ⟨hun, _⟩ => exact ⟨hun.append unsent_nil, fun _ h => nomatch h⟩
  | none, ⟨_, _, _, hun, _⟩ => exact ⟨hun.of_append.append unsent_nil, fun _ h => nomatch h⟩

end World

open World (Answered Unsent unsent_nil)

/-- A stage sends nothing, and what it finds in its steps is as `learned` says. -/
def Stage.Learns {α : Type} (learned : List (World × World) → α → Prop) (x : Stage World α) :
    Prop :=
  ∀ w, x.run.Traced World.Others
    (fun steps r _ => Unsent steps ∧ ∀ a, r = .ok a → learned steps a) w

namespace Stage.Learns

variable {α β : Type} {learned mid : List (World × World) → α → Prop} {limit : Nat}

theorem bind {x : Stage World α} {f : α → Stage World β}
    {learned : List (World × World) → β → Prop} (hx : x.Learns mid)
    (hf : ∀ first a, mid first a → (f a).Learns fun later b => learned (first ++ later) b) :
    Stage.Learns learned (x >>= f) := by
  refine fun w => (hx w).seq fun first r t ⟨hun, hr⟩ => ?_
  cases r with
  | ok a => exact (hf first a (hr a rfl) t).mono fun later r _ ⟨hl, hb⟩ => ⟨hun.append hl, hb⟩
  | error e => exact ⟨hun.append unsent_nil, fun _ h => nomatch h⟩

theorem ofExcept {r : Except ReconcileError α} (h : ∀ a, r = .ok a → learned [] a) :
    Stage.Learns learned (ExceptT.mk (.done r)) := fun _ => ⟨unsent_nil, h⟩

theorem pure {a : α} (h : learned [] a) : Stage.Learns learned (pure a) :=
  ofExcept fun _ ha => Except.ok.inj ha ▸ h

/-- A stage after what needs no steps. -/
theorem ofExcept_bind {r : Except ReconcileError α} {f : α → Stage World β}
    {learned : List (World × World) → β → Prop} (h : ∀ a, r = .ok a → (f a).Learns learned) :
    Stage.Learns learned (ExceptT.mk (.done r) >>= f) := by
  have hr : Stage.Learns (fun steps a => steps = [] ∧ r = .ok a) (ExceptT.mk (.done r)) :=
    ofExcept fun a ha => ⟨rfl, ha⟩
  refine bind hr ?_
  rintro first a ⟨rfl, ha⟩
  exact h a ha

theorem mono {x : Stage World α} (hx : x.Learns mid)
    (h : ∀ steps a, mid steps a → learned steps a) : x.Learns learned :=
  fun w => (hx w).mono fun _ _ _ ⟨hun, hr⟩ => ⟨hun, fun a ha => h _ a (hr a ha)⟩

/-- A question whose answer is needed finds what the other side answered. -/
theorem question {c : Call} {effect : Fault → World → Answer α × World}
    (hc : c.method.onStore = false) (he : ∀ f w, (effect f w).2 = w) (what : BoundedCall) :
    (required limit what (World.call c effect)).Learns fun steps a =>
      ∃ f t, Answered steps c t ∧ (effect f t).1 = .ok a := by
  refine fun w => (World.question_traced hc he limit w).seq fun steps r t ⟨hun, hr⟩ => ?_
  cases r with
  | ok a =>
    refine ⟨hun.append unsent_nil, fun b hb => ?_⟩
    rw [List.append_nil]
    exact Except.ok.inj hb ▸ hr a rfl
  | error fault => exact ⟨hun.append unsent_nil, fun _ h => nomatch h⟩

end Stage.Learns

section Survey

variable {limit : Nat}

/-- The pod that is found is the one the store has when it is asked. -/
theorem learns_pod (key : PodKey) :
    (required limit .podLookup (World.services.pod key)).Learns fun steps found =>
      ∃ t, Answered steps ⟨.getPod, key.text, .none⟩ t ∧ t.pods.find? key.text = found := by
  refine (Stage.Learns.question rfl (fun _ _ => rfl) _).mono fun steps found hf => ?_
  obtain ⟨f, t, hans, heff⟩ := hf
  exact ⟨t, hans, Except.ok.inj heff⟩

/-- The address that is found is the one the node's name is resolved to. -/
theorem learns_address (node : String) :
    (required limit .addressResolution (World.services.address node)).Learns fun steps address =>
      ∃ t, Answered steps ⟨.resolveNode, node, .none⟩ t ∧ t.addressOf node = address := by
  refine (Stage.Learns.question rfl (fun _ _ => rfl) _).mono fun steps address ha => ?_
  obtain ⟨f, t, hans, heff⟩ := ha
  exact ⟨t, hans, Except.ok.inj heff⟩

/-- The list that is found is the one the agent has for the container. -/
theorem learns_cpus (key : PodKey) (container : String) :
    (required limit .cpuLookup (World.services.cpus key container)).Learns fun steps list =>
      ∃ t, Answered steps ⟨.getCpus, s!"{key.text}/{container}", .none⟩ t ∧
        t.cpus.find? s!"{key.text}/{container}" = some list := by
  refine (Stage.Learns.question rfl (fun _ w => ?_) _).mono fun steps list hl => ?_
  · dsimp only
    split <;> rfl
  · obtain ⟨f, t, hans, heff⟩ := hl
    refine ⟨t, hans, ?_⟩
    dsimp only at heff
    split at heff
    case h_1 found hfound => exact hfound.trans (congrArg _ (Except.ok.inj heff))
    case h_2 => cases heff

/-- The service that is asked for profiles knows each of them. -/
theorem learns_validateProfiles (node address : String) (profiles : List String) :
    (validateProfiles World.services limit node address profiles).Learns fun steps _ =>
      ∀ p ∈ profiles, ∃ t found, Answered steps ⟨.getProfile, p, .address address⟩ t ∧
        t.profileAt address p = some found ∧ found ≠ {} := by
  induction profiles with
  | nil => exact .pure fun _ hp => nomatch hp
  | cons p ps ih =>
    have hfirst : (validateProfile World.services limit p node address).Learns fun steps _ =>
        ∃ t found, Answered steps ⟨.getProfile, p, .address address⟩ t ∧
          t.profileAt address p = some found ∧ found ≠ {} := by
      refine fun w => (World.question_traced rfl (fun _ _ => rfl) limit w).seq
        fun steps r t ⟨hun, hr⟩ => ?_
      match r, hr with
      | .error fault, _ => exact ⟨hun.append unsent_nil, fun _ h => nomatch h⟩
      | .ok none, _ => exact ⟨hun.append unsent_nil, fun _ h => nomatch h⟩
      | .ok (some found), hr =>
        obtain ⟨f, u, hans, heff⟩ := hr _ rfl
        refine ⟨hun.append unsent_nil, fun a ha => ?_⟩
        split at ha
        · cases ha
        · rename_i hempty
          have hne : found ≠ {} := by simpa [Profile.isEmpty] using hempty
          exact ⟨u, found, hans.append_right, Except.ok.inj heff, hne⟩
    refine Stage.Learns.bind hfirst fun first _ hp => ?_
    refine fun w => (ih w).mono fun steps r _ ⟨hun, hps⟩ => ⟨hun, fun a ha q hq => ?_⟩
    rcases List.mem_cons.1 hq with rfl | hq
    · obtain ⟨t, found, hans, hfound⟩ := hp
      exact ⟨t, found, hans.append_right, hfound⟩
    · obtain ⟨t, found, hans, hfound⟩ := hps a ha q hq
      exact ⟨t, found, hans.append_left, hfound⟩

/-- The CPUs that are found are those of a list that the agent has for the container. -/
theorem learns_containerCpus (key : PodKey) (container : String) :
    (containerCpus World.services limit key container).Learns fun steps cpus =>
      ∃ t list, Answered steps ⟨.getCpus, s!"{key.text}/{container}", .none⟩ t ∧
        t.cpus.find? s!"{key.text}/{container}" = some list ∧ parseCpuList list = .ok cpus := by
  refine Stage.Learns.bind (learns_cpus key container) fun first list ⟨t, hans, hlist⟩ => ?_
  refine Stage.Learns.ofExcept fun cpus hcpus => ⟨t, list, hans.append_right, hlist, ?_⟩
  unfold cpusOfAnswer at hcpus
  split at hcpus
  · cases hcpus
  · exact ok_of_mapError hcpus

/-- The CPUs of each grant are those that the agent lists for a container that asks for the grant's
profile. -/
theorem learns_containerGrants (key : PodKey) (pod : Pod) (requests : List (Container × String)) :
    (containerGrants World.services limit key pod requests).Learns fun steps cs =>
      ∀ cg ∈ cs, ∃ c t list, (c, cg.profile) ∈ requests ∧
        Answered steps ⟨.getCpus, s!"{key.text}/{c.name}", .none⟩ t ∧
        t.cpus.find? s!"{key.text}/{c.name}" = some list ∧ parseCpuList list = .ok cg.cpus := by
  induction requests with
  | nil => exact .pure fun _ hc => nomatch hc
  | cons r requests ih =>
    obtain ⟨c, profile⟩ := r
    refine Stage.Learns.bind (learns_containerCpus key c.name) fun first cpus hcpus => ?_
    refine Stage.Learns.bind ih fun second rest hrest => .pure fun cg hcg => ?_
    rcases List.mem_cons.1 hcg with rfl | hcg
    · obtain ⟨t, list, hans, hlist, hparse⟩ := hcpus
      exact ⟨c, t, list, List.mem_cons_self, hans.append_right, hlist, hparse⟩
    · obtain ⟨c', t', list', hc', hans', hrest⟩ := hrest cg hcg
      exact ⟨c', t', list', List.mem_cons_of_mem _ hc',
        hans'.append_right.append_left, hrest⟩

/-- A survey finds only grants of which every CPU is warranted. -/
theorem survey_learns (config : ReconcileConfig) (key : PodKey) :
    (survey World.services config key).Learns fun steps intent =>
      ∀ next, intent = .grant next → ∀ cg ∈ next.containers, ∀ cpu ∈ cg.cpus,
        World.Warranted config.policy key steps cg.profile next.node cpu := by
  refine Stage.Learns.bind (learns_pod key) fun first found ⟨t, hans, hfound⟩ => ?_
  cases found with
  | none => exact .pure fun _ hn => nomatch hn
  | some pod =>
    dsimp only
    split
    · exact .pure fun _ hn => nomatch hn
    · exact Stage.Learns.ofExcept fun _ ha => nomatch ha
    · rename_i hrunning
      refine Stage.Learns.ofExcept_bind fun demand hdemand => ?_
      have hdemand := ok_of_mapError hdemand
      cases demand with
      | nothing reason => exact .pure fun _ hn => nomatch hn
      | profiles uid node requests =>
        refine Stage.Learns.bind (learns_address node) fun second address ⟨t₂, hans₂, haddr⟩ => ?_
        refine Stage.Learns.bind (learns_validateProfiles node address _) fun third _ hvalid => ?_
        refine Stage.Learns.bind (learns_containerGrants key pod requests)
          fun fourth containers hcontainers => ?_
        refine .pure fun next hn cg hcg cpu hcpu => ?_
        obtain rfl := Intent.grant.inj hn
        obtain ⟨c, t₄, list, hc, hans₄, hlist, hparse⟩ := hcontainers cg hcg
        obtain ⟨t₃, profile, hans₃, hprofile⟩ := hvalid cg.profile
          (mem_ascending.2 (List.mem_map_of_mem hc))
        refine ⟨pod, c, Pod.entitles_of_demand hrunning hdemand hc,
          ⟨t, hans.append_right, hfound⟩,
          ⟨address, ⟨t₂, ?_, haddr⟩, t₃, profile, ?_, hprofile⟩,
          t₄, list, _, ?_, hlist, hparse, hcpu⟩
        · exact hans₂.append_right.append_left
        · exact hans₃.append_right.append_left.append_left
        · exact hans₄.append_right.append_left.append_left.append_left

end Survey

/-! ## What a reconcile sends -/

namespace Site

/-- The steps at a site, as steps of its world. -/
def worlds (steps : List (Site World × Site World)) : List (World × World) :=
  steps.map fun e => (e.1.world, e.2.world)

/-- What others may do at a site at any moment. -/
def Others (s t : Site World) : Prop := s.world.Others t.world

/-- Whatever others do, the script sends only records in which what is new is `allowed`. -/
def SendsOnly {α : Type} (allowed : (profile node : String) → CpuId → Prop)
    (x : Script (Site World) α) : Prop :=
  ∀ site, x.Traced Others (fun steps _ _ => World.SentOnly (fun _ => allowed) (worlds steps)) site

theorem worlds_append (steps later : List (Site World × Site World)) :
    worlds (steps ++ later) = worlds steps ++ worlds later := List.map_append

/-- What is done to the world of a site takes its steps there. -/
theorem traced_onWorld {α : Type} {x : Script World α} {site : Site World}
    {post : List (World × World) → α → World → Prop} (h : x.Traced World.Others post site.world) :
    x.onWorld.Traced Others (fun steps a t => post (worlds steps) a t.world) site :=
  Script.Traced.onPart (fun _ _ => rfl) (fun _ _ ht => ht) h

namespace SendsOnly

variable {α β : Type} {allowed allowed' : String → String → CpuId → Prop}
  {x : Script (Site World) α}

theorem done (a : α) : SendsOnly allowed (.done a) := fun _ => .of_unsent unsent_nil

theorem bind {f : α → Script (Site World) β} (h : SendsOnly allowed x)
    (hf : ∀ a, SendsOnly allowed (f a)) : SendsOnly allowed (x.bind f) :=
  fun site => (h site).seq fun steps a t hs => (hf a t).mono fun later _ _ hl =>
    worlds_append steps later ▸ hs.append hl

theorem mono (h : SendsOnly allowed x) (ha : ∀ p n cpu, allowed p n cpu → allowed' p n cpu) :
    SendsOnly allowed' x :=
  fun site => (h site).mono fun _ _ _ hs => hs.mono fun _ => ha

/-- A step that leaves the world alone sends nothing. -/
theorem modifyGet {f : Site World → α × Site World} (h : ∀ site, (f site).2.world = site.world) :
    SendsOnly allowed (Script.modifyGet f) :=
  fun site _ _ => .of_unsent (World.unsent_effect (congrArg World.calls (h site)))

theorem update {f : Site World → Site World} (h : ∀ site, (f site).world = site.world) :
    SendsOnly allowed (Script.update f) :=
  fun site _ _ => .of_unsent (World.unsent_effect (congrArg World.calls (h site)))

theorem read (f : Site World → α) : SendsOnly allowed (Script.read f) :=
  fun _ _ _ => .of_unsent (World.unsent_effect rfl)

theorem onWorld {x : Script World α} (h : World.SendsOnly allowed x) :
    SendsOnly allowed x.onWorld :=
  fun site => traced_onWorld (h site.world)

end SendsOnly

end Site

/-- The CPUs of the grant that a survey has found. -/
def Intent.Gives (intent : Intent) (profile node : String) (cpu : CpuId) : Prop :=
  ∃ next, intent = .grant next ∧ next.Holds node profile cpu

section Sends

variable {allowed : String → String → CpuId → Prop}

/-- Taking CPUs back adds none. -/
theorem releaseShares_sends (config : ReconcileConfig) (key : PodKey) (node : String)
    (shares : Shares) :
    Site.SendsOnly allowed (releaseShares World.services config key node shares) :=
  .bind (.read _) fun _ => .onWorld <| .changeEach fun e _ =>
    (World.SendsOnly.remove config.retry e.1 node e.2).mono fun _ _ _ => False.elim

theorem releaseStale_sends (config : ReconcileConfig) (key : PodKey) (next : Grant) :
    Site.SendsOnly allowed (releaseStale World.services config key next) := by
  refine .bind (.read _) fun previous => ?_
  cases previous with
  | none => exact .done _
  | some previous => exact releaseShares_sends config key previous.node _

/-- To record a grant sends nothing. -/
theorem recordGrant_sends (key : PodKey) (next : Grant) :
    Site.SendsOnly allowed (recordGrant key next) := by
  refine .modifyGet fun site => ?_
  split <;> rfl

/-- Granting adds what the containers hold. -/
theorem grantShares_sends (config : ReconcileConfig) (next : Grant) :
    Site.SendsOnly (Intent.Gives (.grant next))
      (grantShares World.services config next.node (Shares.ofContainers next.containers)) := by
  refine .onWorld (.changeEach fun e he => ?_)
  refine (World.SendsOnly.add config.retry e.1 next.node e.2).mono ?_
  rintro p n cpu ⟨rfl, rfl, hc⟩
  exact ⟨next, rfl, Shares.holds_iff_mem_cpusOf.2 ⟨rfl, (Shares.mem_ofContainers.1 he).2 ▸ hc⟩⟩

/-- What was found to be necessary adds no other CPUs. -/
theorem settle_sends (config : ReconcileConfig) (key : PodKey) (intent : Intent) :
    Site.SendsOnly intent.Gives (settle World.services config key intent) := by
  cases intent with
  | skip reason => exact .done _
  | release =>
    refine .bind (.read _) fun entry => ?_
    cases entry with
    | none => exact .done _
    | some entry =>
      refine .bind (releaseShares_sends config key entry.node _) fun failures => ?_
      split
      · exact .bind (.update fun _ => rfl) fun _ => .done _
      · exact .done _
  | grant next =>
    refine .bind (releaseStale_sends config key next) fun stale => ?_
    split
    · exact .done _
    · refine .bind (grantShares_sends config next) fun failures => ?_
      refine .bind (recordGrant_sends key next) fun recorded => ?_
      cases recorded <;> exact .done _

end Sends

/-- Whatever faults strike, and whatever others write to the store or change in the tables
meanwhile: every CPU that a reconcile sends to the workload of a profile, and that the workload did
not list for the node when it was read right before that, has been warranted in the steps before.
The reconcile has read a pod that stays, runs and is guaranteed its CPUs on this node, with a
container that asks for CPUs of its own and for this profile and no other; the profile service of
the node has answered with a profile that is not empty; and the node's agent has listed the CPU for
this container. -/
theorem reconcile_grants_warranted (config : ReconcileConfig) (key : PodKey) (site : Site World) :
    (reconcile World.services config key).Traced Site.Others
      (fun steps _ _ => World.SentOnly (World.Warranted config.policy key) (Site.worlds steps))
      site := by
  have hsurvey := Site.traced_onWorld (survey_learns config key site.world)
  refine hsurvey.seq fun steps r t ⟨hun, hlearned⟩ => ?_
  cases r with
  | error e => exact .of_unsent (Site.worlds_append steps [] ▸ hun.append unsent_nil)
  | ok intent =>
    refine (settle_sends config key intent t).mono fun later _ _ hsent => ?_
    rw [Site.worlds_append]
    refine (World.SentOnly.of_unsent hun).append (hsent.mono ?_)
    rintro before profile node cpu ⟨next, hnext, rfl, cg, hcg, rfl, hcpu⟩
    exact (hlearned intent rfl next hnext cg hcg cpu hcpu).append_right

end PowerGrant
