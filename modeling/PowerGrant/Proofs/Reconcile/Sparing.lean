import PowerGrant.Proofs.Reconcile.Runs

/-!
# Reconciles spare other pods

While pods other than `a` are reconciled, others may do anything but change what is recorded for
`a`: they write to the store at any moment, right after a read of the aggregator too, and reconcile
pods of their own.

* `World.PeersWrote`: the writes that the faults of a world make other writers do.
* `Meanwhile`: what others may do. `Sparing`: what each step of a reconcile keeps to.
* `reconcileAll_sparing`: no reconcile of other pods takes a CPU from `a`, and what is listed for
  `a` stays listed until another writer removes it.
-/

namespace PowerGrant

namespace World

/-- Right after a workload was read, other writers made writes to it that `peers` allows. -/
def PeersWrote (peers : List PeerWrite → Prop) (t u : World) : Prop :=
  ∃ name writes, t.calls.getLast? = some ⟨.getWorkload, name, .none⟩ ∧ peers writes ∧
    u = t.afterPeers name writes

/-- What is listed of `held` stays listed. -/
def Keeps (held : String → String → CpuId → Prop) (t u : World) : Prop :=
  ∀ node profile cpu, held node profile cpu →
    Spec.Listed (t.store.specs (workloadName profile)) node cpu →
      Spec.Listed (u.store.specs (workloadName profile)) node cpu

/-- What others may do while a reconcile is under way. -/
def Interferes (peers : List PeerWrite → Prop) (t u : World) : Prop :=
  t.Others u ∧ (t.Peers peers → u.Peers peers)

/-- A step of a script that spares what is held: only writes of others may remove it. -/
def Spares (peers : List PeerWrite → Prop) (held : String → String → CpuId → Prop) (t u : World) :
    Prop :=
  (t.Keeps held u ∨ t.PeersWrote peers u) ∧ u.Peers peers

variable {peers : List PeerWrite → Prop} {held : String → String → CpuId → Prop} {name : String}
  {op : Option Spec → Option Spec} {w : World}

theorem Keeps.of_store {t u : World} (h : u.store = t.store) : t.Keeps held u := by
  intro node profile cpu _ hl
  rwa [h]

/-- An update that spares what is held. -/
abbrev SparingUpdate (peers : List PeerWrite → Prop) (held : String → String → CpuId → Prop)
    (name : String) (op : Option Spec → Option Spec) : Prop :=
  Update peers (Interferes peers) (fun t u => t.Keeps held u ∨ t.PeersWrote peers u) name op
    (Peers peers) (Peers peers)

theorem sparing_update (hnil : peers [])
    (hop : ∀ node profile cpu s, workloadName profile = name → held node profile cpu →
      Spec.Listed s node cpu → Spec.Listed (op s) node cpu) :
    SparingUpdate peers held name op where
  others _ _ h := h.1
  peers_nil := hnil
  peers_fresh _ h := h
  fresh_env _ _ h he := he.2 h
  done_env _ _ h he := he.2 h
  note _ _ h _ _ := ⟨.inl (.of_store rfl), peers_noted h⟩
  still _ _ := .inl (.of_store rfl)
  read t writes h hlast hw := ⟨.inr ⟨name, writes, hlast, hw, rfl⟩, h, fun _ => h⟩
  write := by
    intro t store h hsets _
    refine ⟨.inl fun node profile cpu hh hl => ?_, h⟩
    show Spec.Listed (store.specs _) _ _
    rw [hsets]
    split
    · rename_i hn
      rw [← hn]
      exact hop node profile cpu _ hn hh hl
    · exact hl

variable {shares : Shares} {limit : Nat} {r : Retry} {node : String}

theorem safe_of_update {x : Script World (Except CallFault WorkloadChange)}
    (h : x.Safe (Interferes peers)
      (Update.steps (fun t u => t.Keeps held u ∨ t.PeersWrote peers u) (Peers peers) (Peers peers))
      (Update.Ended (Peers peers) (Peers peers)) w) :
    x.Safe (Interferes peers) (Spares peers held) (fun _ => Peers peers) w := by
  refine h.mono (fun t u hs => ⟨hs.1, hs.2.elim id id⟩) fun a t ha => ?_
  cases a with
  | ok _ => exact ha
  | error _ => exact ha.elim id id

theorem first_note (hw : w.Peers peers) (c : Call) :
    (w.Keeps held (noted w c).2 ∨ w.PeersWrote peers (noted w c).2) ∧
      Peers peers (noted w c).2 :=
  ⟨.inl (.of_store rfl), peers_noted hw⟩

/-- Taking out shares spares what is held if the shares do not have it. -/
theorem removeEach_safe (hnil : peers [])
    (hs : ∀ profile cpu, held node profile cpu → ¬ shares.Has profile cpu) (hw : w.Peers peers) :
    (changeEach limit (fun profile cpus => workloads.remove r profile node cpus) shares).Safe
      (Interferes peers) (Spares peers held) (fun _ => Peers peers) w := by
  refine changeEach_safe (fun e he w hw => ?_) hw
  have hu : SparingUpdate peers held (workloadName e.1) (Spec.removed node e.2) := by
    refine sparing_update hnil fun n profile cpu s hn hh hl => Spec.listed_removed hl ?_
    rintro rfl hc
    exact hs profile cpu hh ⟨e.2, workloadName_injective hn ▸ he, hc⟩
  exact safe_of_update (hu.remove_safe (fun c _ _ => first_note hw c) hw)

/-- Adding shares spares what is held. -/
theorem addEach_safe (hnil : peers []) (hw : w.Peers peers) :
    (changeEach limit (fun profile cpus => workloads.add r profile node cpus) shares).Safe
      (Interferes peers) (Spares peers held) (fun _ => Peers peers) w := by
  refine changeEach_safe (fun e _ w hw => ?_) hw
  have hu : SparingUpdate peers held (workloadName e.1) (Spec.added e.1 node e.2) :=
    sparing_update hnil fun _ _ _ _ _ _ hl => Spec.listed_added.2 (.inl hl)
  exact safe_of_update (hu.add_safe (fun c _ _ => first_note hw c) hw)

/-- A survey makes no step that removes anything. -/
theorem asking_spares (peers : List PeerWrite → Prop) (held : String → String → CpuId → Prop) :
    Asking (Interferes peers) (Spares peers held) (Peers peers) where
  env _ _ h he := he.2 h
  note _ _ h _ := ⟨⟨.inl (.of_store rfl), peers_noted h⟩, peers_noted h⟩
  still _ h := ⟨.inl (.of_store rfl), h⟩

end World

/-! ## At a site -/

/-- What others may do while pods other than `a` are reconciled: they leave the record of `a` as it
is. -/
def Meanwhile (peers : List PeerWrite → Prop) (a : PodKey) (t u : Site World) : Prop :=
  t.world.Interferes peers u.world ∧ u.grants.find? a = t.grants.find? a

/-- A step that leaves the record of `a` as it is and takes away no CPU that `a` holds; only others
may do so, right after a read. -/
def Sparing (peers : List PeerWrite → Prop) (a : PodKey) (t u : Site World) : Prop :=
  u.grants.find? a = t.grants.find? a ∧
    (t.world.PeersWrote peers u.world ∨
      ∀ g, t.grants.find? a = some g → t.world.Keeps g.Holds u.world)

section Site

variable {peers : List PeerWrite → Prop} {a key : PodKey} {entry : Option Grant}
  {t u : Site World}

/-- What holds throughout: the record of `a` is `entry`. -/
def Recorded (peers : List PeerWrite → Prop) (a : PodKey) (entry : Option Grant) (t : Site World) :
    Prop :=
  t.grants.find? a = entry ∧ t.world.Peers peers

/-- What is held according to a record. -/
def heldBy (entry : Option Grant) (node profile : String) (cpu : CpuId) : Prop :=
  ∃ g, entry = some g ∧ g.Holds node profile cpu

theorem Recorded.meanwhile (h : Recorded peers a entry t) (he : Meanwhile peers a t u) :
    Recorded peers a entry u := ⟨he.2.trans h.1, he.1.2 h.2⟩

/-- That a script spares `a`, whose record is `entry` throughout. -/
abbrev SafeFor {α : Type} (peers : List PeerWrite → Prop) (a : PodKey) (entry : Option Grant)
    (x : Script (Site World) α) (t : Site World) : Prop :=
  x.Safe (Meanwhile peers a) (Sparing peers a) (fun _ => Recorded peers a entry) t

/-- A script on the services spares `a` if it spares what `a` holds. -/
theorem onWorld_safe {α : Type} {x : Script World α} (ht : Recorded peers a entry t)
    (h : x.Safe (World.Interferes peers) (World.Spares peers (heldBy entry))
      (fun _ => World.Peers peers) t.world) : SafeFor peers a entry x.onWorld t := by
  have hs : x.onWorld.Safe (Meanwhile peers a) (Sparing peers a)
      (fun _ u => u.world.Peers peers ∧ u.grants.find? a = entry) t := by
    unfold Script.onWorld
    refine Script.Safe.onPart (fun t => t.grants.find? a = entry) ?_ ?_ ?_ ht.1 h
    · exact fun _ _ => rfl
    · exact fun t u hf he => ⟨he.1, he.2.trans hf⟩
    · intro t w hf hs
      refine ⟨⟨rfl, ?_⟩, hf⟩
      rcases hs.1 with hk | hp
      · refine .inr fun g hg node profile cpu hh hl => hk node profile cpu ⟨g, ?_, hh⟩ hl
        rw [← hf, hg]
      · exact .inl hp
  exact hs.mono (fun _ _ h => h) fun _ _ hu => ⟨hu.2, hu.1⟩

theorem sparing_refl (t : Site World) : Sparing peers a t t :=
  ⟨rfl, .inr fun _ _ => .of_store rfl⟩

/-- A step that changes only what is recorded for other pods. -/
theorem sparing_grants {grants : GrantTable} (h : grants.find? a = t.grants.find? a) :
    Sparing peers a t { t with grants } :=
  ⟨h, .inr fun _ _ => .of_store rfl⟩

variable {config : ReconcileConfig} {next : Grant} {node : String} {shares : Shares}

theorem Recorded.grants {grants : GrantTable} (h : Recorded peers a entry t)
    (hg : grants.find? a = t.grants.find? a) : Recorded peers a entry { t with grants } :=
  ⟨hg.trans h.1, h.2⟩

theorem releaseShares_safe (hnil : peers []) (hk : a ≠ key) (ht : Recorded peers a entry t) :
    SafeFor peers a entry (releaseShares World.services config key node shares) t := by
  refine Script.Safe.bind (Script.Safe.read (sparing_refl t) fun u hu => ?_)
  refine onWorld_safe (ht.meanwhile hu) ?_
  refine World.removeEach_safe hnil ?_ (ht.meanwhile hu).2
  rintro profile cpu ⟨g, hg, hh⟩ hs
  exact (Shares.has_releasable.1 hs).2 ⟨a, g, hk, ht.1.trans hg, hh⟩

theorem grantShares_safe (hnil : peers []) (ht : Recorded peers a entry t) :
    SafeFor peers a entry (grantShares World.services config node shares) t :=
  onWorld_safe ht (World.addEach_safe hnil ht.2)

theorem settleRelease_safe (hnil : peers []) (hk : a ≠ key) (ht : Recorded peers a entry t) :
    SafeFor peers a entry (settleRelease World.services config key) t := by
  refine Script.Safe.bind (Script.Safe.read (sparing_refl t) fun u hu => ?_)
  have hu := ht.meanwhile hu
  dsimp only
  split
  · exact hu
  · refine (releaseShares_safe hnil hk hu).seq fun failures v hv => ?_
    have herase : (v.grants.erase key).find? a = v.grants.find? a := by
      rw [Table.find?_erase, if_neg hk]
    split
    · refine Script.Safe.bind (Script.Safe.update (sparing_grants herase) fun w hw => ?_)
      exact (hv.grants herase).meanwhile hw
    · exact hv

theorem releaseStale_safe (hnil : peers []) (hk : a ≠ key) (ht : Recorded peers a entry t) :
    SafeFor peers a entry (releaseStale World.services config key next) t := by
  refine Script.Safe.bind (Script.Safe.read (sparing_refl t) fun u hu => ?_)
  have hu := ht.meanwhile hu
  cases t.grants.find? key with
  | none => exact hu
  | some previous => exact releaseShares_safe hnil hk hu

theorem recordGrant_safe (hk : a ≠ key) (ht : Recorded peers a entry t) :
    SafeFor peers a entry (recordGrant key next) t := by
  refine Script.Safe.modifyGet ?_ fun u hu => ?_
  · split
    · rename_i grants hr
      refine sparing_grants ?_
      rw [GrantTable.find?_record hr, if_neg hk]
    · exact sparing_refl t
  · refine Recorded.meanwhile ?_ hu
    split
    · rename_i grants hr
      refine ht.grants ?_
      rw [GrantTable.find?_record hr, if_neg hk]
    · exact ht

theorem settleGrant_safe (hnil : peers []) (hk : a ≠ key) (ht : Recorded peers a entry t) :
    SafeFor peers a entry (settleGrant World.services config key next) t := by
  refine (releaseStale_safe hnil hk ht).seq fun stale u hu => ?_
  split
  · exact hu
  · refine (grantShares_safe hnil hu).seq fun failures v hv => ?_
    refine (recordGrant_safe hk hv).seq fun recorded w hw => ?_
    cases recorded <;> exact hw

/-- A reconcile of another pod spares `a`. -/
theorem reconcile_safe (hnil : peers []) (hk : a ≠ key) (ht : Recorded peers a entry t) :
    SafeFor peers a entry (reconcile World.services config key) t := by
  have hs : ((survey World.services config key).run).Safe (World.Interferes peers)
      (World.Spares peers (heldBy entry)) (fun _ => World.Peers peers) t.world :=
    (survey_safe (World.asking_spares peers (heldBy entry)) config key t.world ht.2).mono
      (fun _ _ h => h.1) fun _ _ h => h.1
  refine (onWorld_safe ht hs).seq fun found u hu => ?_
  cases found with
  | error e => exact hu
  | ok intent =>
    cases intent with
    | skip reason => exact hu
    | release => exact settleRelease_safe hnil hk hu
    | grant next => exact settleGrant_safe hnil hk hu

end Site

/-! ## Any number of reconciles -/

/-- The reconciles of these pods, one after the other. -/
def reconcileAll (config : ReconcileConfig) : List PodKey → Script (Site World) Unit
  | [] => .done ()
  | key :: keys => (reconcile World.services config key).bind fun _ => reconcileAll config keys

section All

variable {peers : List PeerWrite → Prop} {a : PodKey} {keys : List PodKey}
  {entry : Option Grant} {t : Site World} {config : ReconcileConfig}

theorem reconcileAll_safe (hnil : peers []) (ha : a ∉ keys) (ht : Recorded peers a entry t) :
    SafeFor peers a entry (reconcileAll config keys) t := by
  induction keys generalizing t with
  | nil => exact ht
  | cons key keys ih =>
    obtain ⟨hk, hkeys⟩ := not_or.1 (mt List.mem_cons.2 ha)
    exact (reconcile_safe hnil hk ht).seq fun _ u hu => ih hkeys hu

/-- Another writer takes a CPU out of the store, right after a reconcile read the workload. -/
def Site.PeersUnlist (peers : List PeerWrite → Prop) (node profile : String) (cpu : CpuId)
    (t u : Site World) : Prop :=
  t.world.PeersWrote peers u.world ∧ t.Lists node profile cpu ∧ ¬ u.Lists node profile cpu

/-- However the reconciles of other pods go and whatever others do meanwhile, no step of theirs
takes away a CPU that `a` holds, and its record stays as it is. So a CPU that is listed for `a`
stays listed until another writer removes it. -/
theorem reconcileAll_sparing (config : ReconcileConfig) (keys : List PodKey) (a : PodKey)
    (ha : a ∉ keys) (peers : List PeerWrite → Prop) (hnil : peers []) (site : Site World)
    (hp : site.world.Peers peers) :
    (reconcileAll config keys).Safe (Meanwhile peers a) (Sparing peers a)
        (fun _ t => t.grants.find? a = site.grants.find? a) site ∧
      ∀ g node profile cpu, site.grants.find? a = some g → g.Holds node profile cpu →
        site.Lists node profile cpu →
        (reconcileAll config keys).KeepsUntil (Site.PeersUnlist peers node profile cpu)
          (fun t u => Meanwhile peers a t u ∧ (t.Lists node profile cpu → u.Lists node profile cpu))
          (fun u => u.grants.find? a = some g ∧ u.Lists node profile cpu) site := by
  have hsafe : SafeFor peers a (site.grants.find? a) (reconcileAll config keys) site :=
    reconcileAll_safe hnil ha ⟨rfl, hp⟩
  refine ⟨hsafe.mono (fun _ _ h => h) fun _ _ h => h.1, ?_⟩
  intro g node profile cpu hf hh hl
  refine hsafe.keepsUntil (fun _ _ h => h.1) ?_ ?_ ⟨hf, hl⟩
  · rintro t u ⟨ht, hlt⟩ ⟨he, hkeep⟩
    exact ⟨he.2.trans ht, hkeep hlt⟩
  · rintro t u ⟨ht, hlt⟩ ⟨hu, hstep⟩
    by_cases hlu : u.Lists node profile cpu
    · exact .inr ⟨hu.trans ht, hlu⟩
    · rcases hstep with hpeer | hkeeps
      · exact .inl ⟨hpeer, hlt, hlu⟩
      · exact absurd (hkeeps g ht node profile cpu hh hlt) hlu

/-- The sample site after both pods were granted, with the second one on its way out. -/
def Site.leaving : Site World :=
  { Site.both with
    world := { Site.both.world with
      pods := Site.both.world.pods.insert "d/b" { Pod.sample "b" with deleting := true } } }

/-- When the second pod goes away its own CPU goes with it, and the shared one stays. -/
theorem reconcileAll_sparing_leaving :
    let left := ((reconcileAll {} [⟨"d", "b"⟩]).run Site.leaving).state
    left.world.store.specs "perf-workload" = some ⟨"perf", [⟨"n1", [4, 5]⟩]⟩ ∧
      left.Lists "n1" "perf" 5 := by
  refine ⟨by decide +kernel, ?_⟩
  have hfaults : Site.leaving.world.faults = [] := by decide +kernel
  have hf : Site.leaving.grants.find? ⟨"d", "a"⟩ =
      some ⟨"n1", "a", "d", "u", [⟨"c", "", [4, 5], "perf"⟩]⟩ := by decide +kernel
  have hs : Site.leaving.world.store.specs (workloadName "perf") =
      some ⟨"perf", [⟨"n1", [4, 5, 6]⟩]⟩ := by decide +kernel
  have hl : Site.leaving.Lists "n1" "perf" 5 :=
    ⟨_, hs, _, List.mem_singleton.2 rfl, rfl, by decide⟩
  obtain ⟨-, h⟩ := reconcileAll_sparing {} [⟨"d", "b"⟩] ⟨"d", "a"⟩ (by decide) (· = []) rfl
    Site.leaving (by rw [World.Peers, hfaults]; exact fun _ hm => absurd hm List.not_mem_nil)
  have hkept := h _ "n1" "perf" 5 hf ⟨rfl, _, List.mem_singleton.2 rfl, rfl, by decide⟩ hl
  refine (hkept.run ?_ fun t => ⟨⟨⟨.refl _, id⟩, rfl⟩, id⟩).2
  rintro t u ⟨⟨name, writes, -, rfl, hu⟩, hlt, hlu⟩
  rw [Site.Lists, hu] at hlu
  exact hlu hlt

end All

end PowerGrant
