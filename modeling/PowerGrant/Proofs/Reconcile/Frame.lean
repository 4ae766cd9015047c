import PowerGrant.Proofs.Reconcile.Moments
import PowerGrant.Proofs.Reconcile.Sparing
import PowerGrant.Proofs.World.Extent

/-!
# The frame of a reconcile

A workload is shared by all pods and nodes of a profile and written back as a whole. A reconcile
nevertheless changes no more than what its pod had and is to have.

* `Spec.entriesOff`: the entries of other nodes, which stay as they are (`entriesOff_added`,
  `entriesOff_removed`).
* `Shares.Within`: shares of what a grant holds. `Specs.Framed`: what may be changed on the way from
  one grant to another; the phases with such shares stay within it (`Framed.removal`,
  `Framed.adding`).
* `Site.reconcile_framed`: the frame holds at every moment of a reconcile, whatever fails.
-/

namespace PowerGrant

/-! ## The entries of other nodes -/

section Entries

variable {nodes : List String} {node profile : String} {cpus : List CpuId} {s : Option Spec}

namespace Spec

/-- The entries stored that are not of `nodes`. -/
def entriesOff (nodes : List String) (s : Option Spec) : List NodeEntry :=
  NodeEntry.off nodes ((s.map Spec.nodes).getD [])

theorem entriesOff_added (h : node ∈ nodes) :
    entriesOff nodes (added profile node cpus s) = entriesOff nodes s := by
  by_cases hc : cpus = []
  · rw [hc, added_nil]
  · rw [added_eq hc]
    cases s <;> exact NodeEntry.off_merge h

theorem entriesOff_removed (h : node ∈ nodes) :
    entriesOff nodes (removed node cpus s) = entriesOff nodes s := by
  cases s with
  | none => rfl
  | some t =>
    have hoff := @NodeEntry.off_remove node cpus t.nodes nodes h
    rw [removed_some]
    split
    · rename_i hgone
      rw [hgone.2] at hoff
      exact hoff
    · exact hoff

end Spec

end Entries

/-! ## What belongs to a grant -/

namespace Shares

/-- The shares are of what a grant holds on its node. -/
def Within (g : Grant) (s : Shares) : Prop :=
  ∀ e ∈ s, (∃ c ∈ g.containers, c.profile = e.1) ∧ ∀ cpu ∈ e.2, g.Holds g.node e.1 cpu

variable {g next : Grant} {s : Shares} {keep : String → List CpuId} {profile : String} {cpu : CpuId}

theorem within_ofContainers (g : Grant) : (ofContainers g.containers).Within g := by
  rintro ⟨profile, cpus⟩ he
  obtain ⟨hp, rfl⟩ := mem_ofContainers.1 he
  exact ⟨hp, fun cpu hc => holds_iff_mem_cpusOf.2 ⟨rfl, hc⟩⟩

theorem Within.without (h : s.Within g) : (s.without keep).Within g := by
  rintro ⟨profile, rest⟩ he
  obtain ⟨cpus, hm, rfl, -⟩ := mem_without.1 he
  exact ⟨(h _ hm).1, fun cpu hc => (h _ hm).2 cpu (List.mem_filter.1 hc).1⟩

theorem Within.holds (h : s.Within g) (hs : s.Has profile cpu) : g.Holds g.node profile cpu := by
  obtain ⟨cpus, hm, hc⟩ := hs
  exact (h _ hm).2 cpu hc

end Shares

/-- The nodes of the grants between which a pod is moved. -/
def nodesBetween (previous next : Option Grant) : List String :=
  (previous.toList ++ next.toList).map Grant.node

/-- The workloads of the profiles of these grants. -/
def namesBetween (previous next : Option Grant) (name : String) : Prop :=
  ∃ g ∈ previous.toList ++ next.toList, ∃ c ∈ g.containers, name = workloadName c.profile

/-! ## Specs -/

/-- What may become of the specs when a pod is moved from one grant to another. -/
structure Specs.Framed (previous next : Option Grant) (S S' : Specs) : Prop where
  /-- Entries of other nodes stay as they are, in their order. -/
  entries : ∀ name, Spec.entriesOff (nodesBetween previous next) (S' name) =
    Spec.entriesOff (nodesBetween previous next) (S name)
  /-- What is new is to be held. -/
  appears : ∀ profile node cpu, Spec.Listed (S' (workloadName profile)) node cpu →
    ¬ Spec.Listed (S (workloadName profile)) node cpu → heldBy next node profile cpu
  /-- What is gone was held. -/
  vanishes : ∀ profile node cpu, Spec.Listed (S (workloadName profile)) node cpu →
    ¬ Spec.Listed (S' (workloadName profile)) node cpu → heldBy previous node profile cpu

namespace Specs.Framed

variable {previous next : Option Grant} {S S' S'' : Specs} {g : Grant} {shares : Shares}

theorem refl (S : Specs) : Framed previous next S S :=
  ⟨fun _ => rfl, fun _ _ _ h hn => absurd h hn, fun _ _ _ h hn => absurd h hn⟩

/-- A workload with entries of other nodes is not deleted. -/
theorem ne_none {name : String} (h : Framed previous next S S')
    (hs : Spec.entriesOff (nodesBetween previous next) (S name) ≠ []) : S' name ≠ none := by
  intro hnone
  rw [← h.entries, hnone] at hs
  exact hs rfl

/-- Shares of the previous grant are taken out. -/
theorem removal (h : Framed previous next S S') (hg : previous = some g) (hs : shares.Within g)
    (hp : Partly (Specs.removal g.node) shares S' S'') : Framed previous next S S'' := by
  have hnode : g.node ∈ nodesBetween previous next := by simp [nodesBetween, hg]
  refine ⟨fun name => ?_, fun profile node cpu hl => ?_, fun profile node cpu hl hn => ?_⟩
  · rw [← h.entries]
    rcases hp name with heq | ⟨e, -, -, heq⟩
    · rw [heq]
    · rw [heq]
      exact Spec.entriesOff_removed hnode
  · exact h.appears profile node cpu (hp.listed_of_removal hl)
  · by_cases hl' : Spec.Listed (S' (workloadName profile)) node cpu
    · by_cases hk : node = g.node ∧ shares.Has profile cpu
      · exact ⟨g, hg, hk.1 ▸ hs.holds hk.2⟩
      · exact absurd (hp.keeps_listed hl' fun hnode hc => hk ⟨hnode, hc⟩) hn
    · exact h.vanishes profile node cpu hl hl'

/-- Shares of the next grant are added. -/
theorem adding (h : Framed previous next S S') (hg : next = some g) (hs : shares.Within g)
    (hp : Partly (Specs.adding g.node) shares S' S'') : Framed previous next S S'' := by
  have hnode : g.node ∈ nodesBetween previous next := by simp [nodesBetween, hg]
  refine ⟨fun name => ?_, fun profile node cpu hl hn => ?_, fun profile node cpu hl hn => ?_⟩
  · rw [← h.entries]
    rcases hp name with heq | ⟨e, -, -, heq⟩
    · rw [heq]
    · rw [heq]
      exact Spec.entriesOff_added hnode
  · rcases hp.listed_of_adding hl with hl | ⟨rfl, hc⟩
    · exact h.appears profile node cpu hl hn
    · exact ⟨g, hg, hs.holds hc⟩
  · exact h.vanishes profile node cpu hl fun hl' => hn (hp.keeps_listed_adding hl')

end Specs.Framed

/-! ## Worlds -/

/-- A quiet world in which no more has changed since `w` than a pod's way between two grants
allows. -/
structure World.Framed (previous next : Option Grant) (w u : World) : Prop where
  quiet : u.Quiet
  records : w.SameBut (namesBetween previous next) u
  specs : Specs.Framed previous next w.store.specs u.store.specs

namespace World

variable {previous next : Option Grant} {g : Grant} {w₀ w t u : World} {op : Specs.Operation}
  {shares : Shares} {limit : Nat} {r : Retry} {name : String}
  {change : String → List CpuId → Script World (Answer WorkloadChange)}

theorem Framed.of_store (hq : u.Quiet) (h : u.store = w.store) : w.Framed previous next u :=
  ⟨hq, .of_store h, by rw [h]; exact .refl _⟩

/-- A phase stays within the frame if its changes keep the specs there. -/
theorem framed_changeEach
    (hchange : ∀ profile cpus (w : World), w.Quiet → w.Updating (workloadName profile)
      (op profile cpus) (bounded limit (change profile cpus)))
    (hwrites : ∀ profile cpus, WritesOnly (· = workloadName profile) (change profile cpus))
    (hnames : ∀ e ∈ shares, namesBetween previous next (workloadName e.1))
    (hop : ∀ S S', Specs.Framed previous next w₀.store.specs S → Specs.Partly op shares S S' →
      Specs.Framed previous next w₀.store.specs S')
    (hw : w₀.Framed previous next w) :
    (changeEach limit change shares).Safe Eq (fun _ => w₀.Framed previous next)
      (fun _ => w₀.Framed previous next) w := by
  refine changeEach_safe (fun e he w hw => ?_) hw
  have hkept : ∀ u : World, w.Untouched u ∨ w.Changed (workloadName e.1) (op e.1 e.2) u →
      w₀.SameBut (namesBetween previous next) u → w₀.Framed previous next u := by
    rintro u (⟨hcalled, -, hs⟩ | ⟨hcalled, -, hs⟩) hr
    · exact ⟨hcalled.quiet hw.quiet, hr, hs ▸ hw.specs⟩
    · exact ⟨hcalled.quiet hw.quiet, hr, hop _ _ hw.specs (.of_mem he hs)⟩
  have hwrite : (bounded limit (change e.1 e.2)).Safe Eq
      (SameBut (· = workloadName e.1)) (fun _ _ => True) w :=
    ((hwrites e.1 e.2).bounded w).among fun _ _ _ => trivial
  have hsame := hwrite.keeps (w₀.SameBut (namesBetween previous next))
    (fun t u ht hs => ht.trans (hs.mono fun n hn => hn ▸ hnames e he)) (fun t u ht he => he ▸ ht)
    hw.records
  refine ((hchange e.1 e.2 w hw.quiet).and hsame).mono (fun t u hs => ?_) fun a u ha => ?_
  · exact hkept u hs.1.2 hs.2.2
  · refine hkept u ?_ ha.2.2
    cases a with
    | ok done => exact .inr ha.1
    | error fault => exact ha.1

theorem framed_removeEach (hg : previous = some g) (hs : shares.Within g)
    (hw : w₀.Framed previous next w) :
    (changeEach limit (fun p cpus => workloads.remove r p g.node cpus) shares).Safe Eq
      (fun _ => w₀.Framed previous next) (fun _ => w₀.Framed previous next) w := by
  refine framed_changeEach (fun _ _ _ hw => remove_updating hw) (fun _ _ => .remove)
    (fun e he => ?_) (fun _ _ h hp => h.removal hg hs hp) hw
  obtain ⟨⟨c, hc, hp⟩, -⟩ := hs e he
  exact ⟨g, by simp [hg], c, hc, by rw [hp]⟩

theorem framed_addEach (hg : next = some g) (hs : shares.Within g)
    (hw : w₀.Framed previous next w) :
    (changeEach limit (fun p cpus => workloads.add r p g.node cpus) shares).Safe Eq
      (fun _ => w₀.Framed previous next) (fun _ => w₀.Framed previous next) w := by
  refine framed_changeEach (fun _ _ _ hw => add_updating hw) (fun _ _ => .add)
    (fun e he => ?_) (fun _ _ h hp => h.adding hg hs hp) hw
  obtain ⟨⟨c, hc, hp⟩, -⟩ := hs e he
  exact ⟨g, by simp [hg], c, hc, by rw [hp]⟩

end World

/-! ## At a site -/

/-- A site at which no more has changed since `site` than the way of a pod between two grants
allows. -/
structure Site.Framed (site : Site World) (key : PodKey) (previous next : Option Grant)
    (u : Site World) : Prop where
  /-- What is recorded for other pods stays as it is. -/
  grants : ∀ k, k ≠ key → u.grants.find? k = site.grants.find? k
  world : site.world.Framed previous next u.world

/-- The same with the table of grants as it was. -/
structure Site.Steady (site : Site World) (previous next : Option Grant) (u : Site World) :
    Prop where
  grants : u.grants = site.grants
  world : site.world.Framed previous next u.world

section Site

variable {site t : Site World} {key : PodKey} {previous next : Option Grant} {g : Grant}
  {config : ReconcileConfig}

theorem Site.Steady.framed (h : site.Steady previous next t) : site.Framed key previous next t :=
  ⟨fun _ _ => by rw [h.grants], h.world⟩

/-- That a script stays within the frame. -/
abbrev Frames {α : Type} (site : Site World) (key : PodKey) (previous next : Option Grant)
    (x : Script (Site World) α) (t : Site World) : Prop :=
  x.Safe Eq (fun _ => site.Framed key previous next) (fun _ => site.Framed key previous next) t

/-- That it does so with the table of grants left alone. -/
abbrev Steadies {α : Type} (site : Site World) (previous next : Option Grant)
    (x : Script (Site World) α) (t : Site World) : Prop :=
  x.Safe Eq (fun _ => site.Steady previous next) (fun _ => site.Steady previous next) t

theorem steadies_onWorld {α : Type} {x : Script World α} (ht : t.grants = site.grants)
    (h : x.Safe Eq (fun _ => site.world.Framed previous next)
      (fun _ => site.world.Framed previous next) t.world) :
    Steadies site previous next x.onWorld t := by
  have hs : x.onWorld.Safe Eq (fun _ => site.Steady previous next)
      (fun _ u => site.world.Framed previous next u.world ∧ u.grants = site.grants) t := by
    unfold Script.onWorld
    refine Script.Safe.onPart (fun t => t.grants = site.grants) ?_ ?_ ?_ ht h
    · exact fun _ _ => rfl
    · exact fun t u hg he => he ▸ ⟨rfl, hg⟩
    · exact fun t w hg hw => ⟨⟨hg, hw⟩, hg⟩
  exact hs.mono (fun _ _ h => h) fun _ _ hu => ⟨hu.2, hu.1⟩

theorem steadies_releaseShares {shares : Shares} (hg : previous = some g) (hs : shares.Within g)
    (ht : site.Steady previous next t) :
    Steadies site previous next (releaseShares World.services config key g.node shares) t := by
  refine Script.Safe.bind (Script.Safe.read ht ?_)
  rintro u rfl
  exact steadies_onWorld ht.grants (World.framed_removeEach hg hs.without ht.world)

theorem frames_settleRelease (hp : site.grants.find? key = previous)
    (ht : site.Steady previous next t) :
    Frames site key previous next (settleRelease World.services config key) t := by
  refine Script.Safe.bind (Script.Safe.read ht.framed ?_)
  rintro u rfl
  rw [ht.grants, hp]
  cases previous with
  | none => exact ht.framed
  | some entry =>
    refine ((steadies_releaseShares rfl (Shares.within_ofContainers entry) ht).mono
      (fun _ _ h => h.framed) fun _ _ h => h).seq fun failures v hv => ?_
    dsimp only
    split
    · have herase : site.Framed key (some entry) next { v with grants := v.grants.erase key } := by
        refine ⟨fun k hk => ?_, hv.world⟩
        rw [Table.find?_erase, if_neg hk, hv.grants]
      refine Script.Safe.bind (Script.Safe.update herase ?_)
      rintro w rfl
      exact herase
    · exact hv.framed

theorem steadies_releaseStale {grant : Grant} (hp : site.grants.find? key = previous)
    (ht : site.Steady previous next t) :
    Steadies site previous next (releaseStale World.services config key grant) t := by
  refine Script.Safe.bind (Script.Safe.read ht ?_)
  rintro u rfl
  rw [ht.grants, hp]
  cases previous with
  | none => exact ht
  | some entry => exact steadies_releaseShares rfl (Shares.within_ofContainers entry).without ht

theorem frames_recordGrant {grant : Grant} (ht : site.Steady previous next t) :
    Frames site key previous next (recordGrant key grant) t := by
  have hrecord : site.Framed key previous next ((recordGrant key grant).run t).state := by
    simp only [recordGrant, Script.modifyGet, Script.run]
    split
    · rename_i grants hr
      refine ⟨fun k hk => ?_, ht.world⟩
      rw [GrantTable.find?_record hr, if_neg hk, ht.grants]
    · exact ht.framed
  refine Script.Safe.modifyGet hrecord ?_
  rintro u rfl
  exact hrecord

theorem frames_settleGrant {grant : Grant} (hp : site.grants.find? key = previous)
    (hn : next = some grant) (ht : site.Steady previous next t) :
    Frames site key previous next (settleGrant World.services config key grant) t := by
  refine ((steadies_releaseStale hp ht).mono (fun _ _ h => h.framed)
    fun _ _ h => h).seq fun stale u hu => ?_
  split
  · exact hu.framed
  · have hadd : Steadies site previous next
        (grantShares World.services config grant.node (Shares.ofContainers grant.containers)) u :=
      steadies_onWorld hu.grants
        (World.framed_addEach hn (Shares.within_ofContainers grant) hu.world)
    refine (hadd.mono (fun _ _ h => h.framed) fun _ _ h => h).seq fun failures v hv => ?_
    refine (frames_recordGrant hv).seq fun recorded w hw => ?_
    cases recorded <;> exact hw

/-- Each step of a reconcile stays within the frame of what is recorded for the pod and what the
reconcile has found. -/
theorem frames_reconcile (config : ReconcileConfig) (key : PodKey) (hq : site.world.Quiet) :
    Frames site key (site.grants.find? key) (site.computed config key)
      (reconcile World.services config key) site := by
  have hsurvey : ((survey World.services config key).run).Safe Eq
      (fun _ => site.world.Framed (site.grants.find? key) (site.computed config key))
      (fun _ => site.world.Framed (site.grants.find? key) (site.computed config key))
      site.world :=
    (survey_safe (asking_called site.world) config key site.world ⟨.refl _, rfl⟩).mono
      (fun t u hs => .of_store (hs.2.1.quiet hq) hs.2.2)
      fun a u hs => .of_store (hs.1.1.quiet hq) hs.1.2
  have hfound : ((survey World.services config key).run.onWorld).Safe Eq
      (fun _ => site.Framed key (site.grants.find? key) (site.computed config key))
      (fun found u => site.Steady (site.grants.find? key) (site.computed config key) u ∧
        found = ((survey World.services config key).run.run site.world).value) site := by
    refine ((steadies_onWorld rfl hsurvey).and (.ran _ site)).mono (fun _ _ h => h.1.framed) ?_
    rintro found u ⟨hu, hv, -⟩
    rw [run_onWorld] at hv
    exact ⟨hu, hv⟩
  refine hfound.seq fun found u ⟨hu, hv⟩ => ?_
  cases found with
  | error e => exact hu.framed
  | ok intent =>
    cases intent with
    | skip reason => exact hu.framed
    | release => exact frames_settleRelease rfl hu
    | grant grant => exact frames_settleGrant rfl (by simp [Site.computed, ← hv]) hu

/-- A reconcile of a pod, whatever fails in it, touches at no moment more than this: what is
recorded for the pod; the workloads of the profiles that the recorded grant and the one found by the
reconcile have; and in those the entries of the nodes of these two grants, where only CPUs of the
grant found appear and only CPUs of the recorded one vanish. A workload with an entry of another
node is not deleted. -/
theorem Site.reconcile_framed (site : Site World) (config : ReconcileConfig) (key : PodKey)
    (hq : site.world.Quiet) :
    (site.reconcile config key).state ∈ site.moments config key ∧
      ∀ u ∈ site.moments config key,
        site.Framed key (site.grants.find? key) (site.computed config key) u ∧
          ∀ name, Spec.entriesOff
              (nodesBetween (site.grants.find? key) (site.computed config key))
              (site.world.store.specs name) ≠ [] →
            u.world.store.find? name ≠ none := by
  have hsafe := frames_reconcile config key hq
  have hstart : site.Framed key (site.grants.find? key) (site.computed config key) site :=
    ⟨fun _ _ => rfl, .of_store hq rfl⟩
  refine ⟨Script.run_state_mem_states _ _, fun u hu => ?_⟩
  have hframed := hsafe.states (fun _ => rfl) hstart (fun _ _ h => h) u hu
  refine ⟨hframed, fun name hs hnone => ?_⟩
  exact hframed.world.specs.ne_none hs (Versioned.specs_of_not_found hnone)

/-- The sample site with the second pod on its way out, where the workload also has an entry of
another node and its next replacement is answered too late. -/
def Site.spread : Site World :=
  { Site.leaving with
    world := { Site.leaving.world with
      store := Site.leaving.world.store.put
        ⟨some "perf-workload", none, ⟨"perf", [⟨"n0", [9]⟩, ⟨"n1", [4, 5, 6]⟩]⟩⟩
      faults := [{ method := .replaceWorkload, delayAfter := 6000 }] } }

/-- The reconcile fails, but it has taken the pod's own CPU back, and nothing else. -/
theorem reconcile_framed_spread :
    let ran := Site.spread.reconcile {} ⟨"d", "b"⟩
    Site.spread.world.Quiet ∧ ran.value.toOption = none ∧
      ran.state.world.store.specs "perf-workload" =
        some ⟨"perf", [⟨"n0", [9]⟩, ⟨"n1", [4, 5]⟩]⟩ ∧
      Site.spread.Framed ⟨"d", "b"⟩ (Site.spread.grants.find? ⟨"d", "b"⟩)
        (Site.spread.computed {} ⟨"d", "b"⟩) ran.state := by
  have hq : Site.spread.world.Quiet := by
    intro f hf
    rw [List.mem_singleton.1 hf]
  obtain ⟨hlast, hframed⟩ := Site.spread.reconcile_framed {} ⟨"d", "b"⟩ hq
  exact ⟨hq, by decide +kernel, by decide +kernel, (hframed _ hlast).1⟩

end Site

end PowerGrant
