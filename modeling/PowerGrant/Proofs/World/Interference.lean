import PowerGrant.Proofs.World.Writes
import Mathlib.Data.List.Basic

/-!
# Updates among a bounded number of disturbances

A write to the store is refused with a conflict only if the workload is no longer what was read. So
every attempt that another writer spoils has a disturbance of its own, and an update with more
attempts than there are disturbances comes to its end.

* `World.Reliable`, `World.Meddles`: a store that fails by itself never, and others who leave it so.
* `World.disturbances`: the reads of a workload that changed before the update's next call took
  effect. `le_disturbances_append`: those of an attempt and of what follows it add up.
* `World.AttemptOutcome`: an attempt changes the workload as it should or was disturbed.
* `World.updates_absorb`: so does the update, unless the workload was deleted between a read and the
  replacement of what was read: the store then says that it is missing, which is no conflict.
-/

namespace PowerGrant

namespace World

/-- No error or conflict is to strike a call to the workload store. -/
def Reliable (w : World) : Prop :=
  ∀ f ∈ w.faults, f.method.onStore → f.error = none ∧ f.conflict = false

instance (w : World) : Decidable w.Reliable := inferInstanceAs (Decidable (∀ f ∈ w.faults, _))

/-- What others may do to a world at any moment without making its store unreliable. -/
def Meddles (t u : World) : Prop := t.Others u ∧ (t.Reliable → u.Reliable)

/-- The steps in which calls take effect; the others put a call on record. -/
def effects (steps : List (World × World)) : List (World × World) :=
  steps.filter fun e => e.2.calls = e.1.calls

/-- How often a workload was read that others changed before the next call took effect. -/
def disturbances (name : String) : List (World × World) → Nat
  | e :: e' :: es =>
    (if e.1.Reading name ∧ e'.1.store.find? name ≠ e.1.store.find? name then 1 else 0) +
      disturbances name (e' :: es)
  | _ => 0

/-- The last call took effect in `t`, and `seen` is the store then: what was read, or what a write
left. -/
def EndsWith (name : String) (steps : List (World × World)) (t : World) (seen : Versioned) :
    Prop :=
  ∃ before u, effects steps = before ++ [(t, u)] ∧
    seen = if t.Reading name then t.store else u.store

/-- The last call was to replace a workload that was gone then, and the store says so. -/
def FoundGone (name : String) (steps : List (World × World)) (result : Answer WorkloadChange) :
    Prop :=
  result = .error (.unavailable s!"{name} not found") ∧
    ∃ before t u c, effects steps = before ++ [(t, u)] ∧ t.calls.getLast? = some c ∧
      c.method = .replaceWorkload ∧ t.store.find? name = none

/-- The workload is what `op` makes of what was stored when the last call took effect. -/
def Applied (name : String) (op : Option Spec → Option Spec) (steps : List (World × World))
    (result : Answer WorkloadChange) : Prop :=
  ∃ change, result = .ok change ∧ ∃ t seen, EndsWith name steps t seen ∧
    seen.specs name = op (t.store.specs name)

/-- How an attempt ends: with the change, because the workload is gone, or disturbed. -/
def AttemptOutcome (name : String) (op : Option Spec → Option Spec)
    (steps : List (World × World)) : Attempt → Prop
  | .settled result => Applied name op steps result ∨ FoundGone name steps result
  | .contended => 0 < disturbances name (effects steps)

variable {w : World} {c : Call} {name profile node : String} {cpus : List CpuId} {r : Retry}
  {op : Option Spec → Option Spec} {steps before : List (World × World)}
  {result : Answer WorkloadChange}

/-! ## A reliable store -/

theorem Meddles.refl (w : World) : w.Meddles w := ⟨Others.refl w, id⟩

theorem Meddles.trans {t u v : World} (h : t.Meddles u) (h' : u.Meddles v) : t.Meddles v :=
  ⟨h.1.trans h'.1, h'.2 ∘ h.2⟩

theorem Reliable.noted (h : w.Reliable) : (noted w c).2.Reliable := by
  intro f hf hm
  obtain ⟨g, hg, hfg⟩ := Fault.exists_rule_of_take hf
  rw [hfg] at hm ⊢
  exact h g hg hm

/-- Nothing makes a call to a reliable store fail before it takes effect. -/
theorem Reliable.fault (h : w.Reliable) (hc : c.method.onStore) :
    ¬ ((World.noted w c).1.conflict = true ∨ (World.noted w c).1.error ≠ none) := by
  cases ht : (Fault.take c.method c.key w.faults).1 with
  | none => simp [World.noted, ht]
  | some f =>
    obtain ⟨he, hcf⟩ := h f (Fault.mem_of_take ht) (Fault.method_of_take ht ▸ hc)
    simp [World.noted, ht, he, hcf]

/-! ## Effects -/

theorem effects_append : effects (before ++ steps) = effects before ++ effects steps :=
  List.filter_append _ _

/-- A call on record, and its effect. -/
theorem effects_call {t u : World} (h : u.calls = t.calls) :
    effects [(w, (noted w c).2), (t, u)] = [(t, u)] := by
  simp [effects, h]

/-- The disturbances of steps and of what comes after them add up. -/
theorem le_disturbances_append (name : String) (xs ys : List (World × World)) :
    disturbances name xs + disturbances name ys ≤ disturbances name (xs ++ ys) := by
  induction xs using disturbances.induct with
  | case1 e e' es ih =>
    simp only [List.cons_append, disturbances] at ih ⊢
    omega
  | case2 xs hxs =>
    rcases xs with _ | ⟨e, _ | ⟨e', es⟩⟩
    · simp [disturbances]
    · cases ys with
      | nil => simp [disturbances]
      | cons y ys => simp [disturbances]
    · exact absurd rfl (hxs e e' es)

theorem EndsWith.append {t : World} {seen : Versioned} (h : EndsWith name steps t seen) :
    EndsWith name (before ++ steps) t seen := by
  obtain ⟨first, u, he, hs⟩ := h
  exact ⟨effects before ++ first, u, by rw [effects_append, he, List.append_assoc], hs⟩

theorem Applied.append (h : Applied name op steps result) :
    Applied name op (before ++ steps) result := by
  obtain ⟨change, hr, t, seen, he, hs⟩ := h
  exact ⟨change, hr, t, seen, he.append, hs⟩

theorem FoundGone.append (h : FoundGone name steps result) :
    FoundGone name (before ++ steps) result := by
  obtain ⟨hr, first, t, u, c, he, hc⟩ := h
  exact ⟨hr, effects before ++ first, t, u, c, by rw [effects_append, he, List.append_assoc], hc⟩

/-! ## The single calls -/

/-- Reading from a reliable store gives what is stored. -/
theorem get_meddled (hw : w.Reliable) (name : String) :
    (workloads.get name).Traced Meddles
      (fun steps a v => v.Reliable ∧ ∃ t u, effects steps = [(t, u)] ∧ t.Reading name ∧
        a = .ok (t.store.find? name) ∧ t.store.Later v.store) w := by
  refine call_traced_among (fun _ _ _ => Meddles.trans)
    (fun t => t.Reliable ∧ t.Reading name)
    (fun t u ht he => ⟨he.2 ht.1, (congrArg List.getLast? he.1.2).trans ht.2⟩)
    ⟨hw.noted, by simp [Reading]⟩ (fun hf => absurd hf (hw.fault rfl)) ?_
  rintro t v ⟨ht, hread⟩ he
  exact ⟨he.2 ht, t, _, effects_call rfl, hread, rfl, (Versioned.Later.peers name _ _).trans he.1.1⟩

/-- A write to a reliable store does what the store does, or is refused by it. -/
theorem write_meddled {f : Versioned → Except ServiceError Versioned} {v : Versioned}
    (hw : w.Reliable) (hc : c.method.onStore) (hv : v.Later w.store) :
    (call c (World.write f)).Traced Meddles
      (fun steps a x => x.Reliable ∧ ∃ t u, effects steps = [(t, u)] ∧
        t.calls.getLast? = some c ∧ v.Later t.store ∧
          match a with
          | .ok () => f t.store = .ok u.store
          | .error e => f t.store = .error e) w := by
  refine call_traced_among (fun _ _ _ => Meddles.trans)
    (fun t => t.Reliable ∧ t.calls.getLast? = some c ∧ v.Later t.store)
    (fun t u ht he => ⟨he.2 ht.1, he.1.2 ▸ ht.2.1, ht.2.2.trans he.1.1⟩)
    ⟨hw.noted, by simp, hv⟩ (fun hf => absurd hf (hw.fault hc)) ?_
  rintro t x ⟨ht, hlast, hlater⟩ he
  unfold World.write at he ⊢
  cases hs : f t.store with
  | ok store =>
    rw [hs] at he
    exact ⟨he.2 ht, t, _, effects_call rfl, hlast, hlater, hs⟩
  | error e =>
    rw [hs] at he
    exact ⟨he.2 ht, t, _, effects_call rfl, hlast, hlater, hs⟩

/-! ## One attempt -/

/-- An attempt that ends after the read. -/
theorem settled_after_read {t u x : World} {change : WorkloadChange} (hx : x.Reliable)
    (he : effects before = [(t, u)]) (hread : t.Reading name)
    (hop : t.store.specs name = op (t.store.specs name)) :
    (Script.done (.settled (.ok change))).Traced Meddles
      (fun steps a y => y.Reliable ∧ AttemptOutcome name op (before ++ steps) a) x := by
  refine ⟨hx, .inl ⟨change, rfl, t, t.store, ⟨[], u, ?_, by rw [if_pos hread]⟩, hop⟩⟩
  rw [List.append_nil, he, List.nil_append]

/-- An attempt that ends with a write. -/
theorem ofWrite_meddled {f : Versioned → Except ServiceError Versioned} {t₀ u₀ x : World}
    {change : WorkloadChange} (hx : x.Reliable) (he : effects before = [(t₀, u₀)])
    (hread : t₀.Reading name) (hc : c.method.onStore) (hget : c.method ≠ .getWorkload)
    (hlater : t₀.store.Later x.store)
    (hok : ∀ v v', t₀.store.Later v → f v = .ok v' → v'.specs name = op (v.specs name))
    (herror : ∀ v e, f v = .error e →
      v.find? name ≠ t₀.store.find? name ∧ (∃ n, e = .conflict n) ∨
        v.find? name = none ∧ c.method = .replaceWorkload ∧ e = .unavailable s!"{name} not found") :
    ((call c (World.write f)).bind fun a => .done (.ofWrite change a)).Traced Meddles
      (fun steps a y => y.Reliable ∧ AttemptOutcome name op (before ++ steps) a) x := by
  refine (write_meddled hx hc hlater).seq fun steps a y ⟨hy, t, u, heff, hlast, hl, ha⟩ => ?_
  have heffects : effects (before ++ (steps ++ [])) = [(t₀, u₀)] ++ [(t, u)] := by
    rw [List.append_nil, effects_append, he, heff]
  have hwriting : ¬ t.Reading name := fun hr => by
    rw [Reading, hlast] at hr
    exact hget (congrArg Call.method (Option.some.inj hr))
  refine ⟨hy, ?_⟩
  match a, ha with
  | .ok (), ha =>
    refine .inl ⟨change, rfl, t, u.store, ⟨_, u, heffects, by rw [if_neg hwriting]⟩, ?_⟩
    exact hok _ _ hl ha
  | .error e, ha =>
    rcases herror _ _ ha with ⟨hne, n, rfl⟩ | ⟨hnone, hm, rfl⟩
    · show 0 < disturbances name _
      rw [heffects]
      simp [disturbances, hread, hne]
    · exact .inr ⟨rfl, _, t, u, c, heffects, hlast, hm, hnone⟩

/-- What refuses the replacement of a workload that was found. -/
theorem replace_refused {t : World} {v : Versioned} {found next : Workload} {e : ServiceError}
    (h : v.replace next = .error e) (hfound : t.store.find? name = some found)
    (hkey : next.key = name) (hversion : next.version = found.version) :
    v.find? name ≠ t.store.find? name ∧ (∃ n, e = .conflict n) ∨
      v.find? name = none ∧ e = .unavailable s!"{name} not found" := by
  rcases Versioned.replace_error h with ⟨hn, rfl⟩ | ⟨⟨stored, hs, hv⟩, rfl⟩
  · exact .inr ⟨hkey ▸ hn, by rw [hkey]⟩
  · refine .inl ⟨fun heq => hv ?_, _, rfl⟩
    rw [hkey, heq, hfound] at hs
    rw [hversion, Option.some.inj hs]

theorem addOnce_meddled (hw : w.Reliable) (profile node : String) (cpus : List CpuId) :
    (workloads.addOnce profile node cpus).Traced Meddles
      (fun steps a t => t.Reliable ∧
        AttemptOutcome (workloadName profile) (Spec.added profile node cpus) steps a) w := by
  refine (get_meddled hw _).seq fun before a x ⟨hx, t, u, he, hread, ha, hl⟩ => ?_
  subst ha
  cases hfound : t.store.find? (workloadName profile) with
  | none =>
    have hspec := Versioned.specs_of_not_found hfound
    dsimp only
    split
    case isTrue hch =>
      refine ofWrite_meddled hx he hread rfl (by simp) hl (fun v v' _ hc => ?_) fun v e herr => ?_
      · obtain ⟨hnone, hsets, -⟩ := Versioned.create_ok hc
        have hnone : v.find? (workloadName profile) = none := hnone
        rw [Versioned.specs_of_not_found hnone, Spec.added]
        exact hsets.specs_eq.trans (if_pos hch).symm
      · obtain ⟨hne, rfl⟩ := Versioned.create_error herr
        exact .inl ⟨hfound ▸ hne, _, rfl⟩
    case isFalse hch =>
      refine settled_after_read hx he hread ?_
      rw [hspec, Spec.added]
      exact (if_neg hch).symm
  | some found =>
    have hspec := Versioned.specs_of_find? hfound
    have hkey : found.key = workloadName profile := t.store.named _ _ hfound
    dsimp only
    split
    case isTrue hch =>
      refine ofWrite_meddled hx he hread rfl (by simp) hl (fun v v' hv hr => ?_) fun v e herr => ?_
      · obtain ⟨⟨stored, hst, hver⟩, hsets, -⟩ := Versioned.replace_ok hr
        rw [Update.specs_of_version hv hfound (hkey ▸ hst) hver, ← hkey, Spec.added]
        exact hsets.specs_eq.trans (if_pos hch).symm
      · rcases replace_refused herr hfound hkey rfl with h | ⟨hn, he⟩
        · exact .inl h
        · exact .inr ⟨hn, rfl, he⟩
    case isFalse hch =>
      refine settled_after_read hx he hread ?_
      rw [hspec, Spec.added]
      exact (if_neg hch).symm

theorem removeOnce_meddled (hw : w.Reliable) (profile node : String) (cpus : List CpuId) :
    (workloads.removeOnce profile node cpus).Traced Meddles
      (fun steps a t => t.Reliable ∧
        AttemptOutcome (workloadName profile) (Spec.removed node cpus) steps a) w := by
  refine (get_meddled hw _).seq fun before a x ⟨hx, t, u, he, hread, ha, hl⟩ => ?_
  subst ha
  cases hfound : t.store.find? (workloadName profile) with
  | none =>
    refine settled_after_read hx he hread ?_
    rw [Versioned.specs_of_not_found hfound]
    rfl
  | some found =>
    have hspec := Versioned.specs_of_find? hfound
    have hkey : found.key = workloadName profile := t.store.named _ _ hfound
    dsimp only
    split
    case isTrue hch =>
      refine settled_after_read hx he hread ?_
      rw [hspec, Spec.removed]
      exact (if_neg (by simpa using hch)).symm
    case isFalse hch =>
      have hch : (found.spec.remove node cpus).changed = true := by simpa using hch
      split
      case isTrue hnil =>
        refine ofWrite_meddled hx he hread rfl (by simp) hl (fun v v' hv hd => ?_)
          fun v e herr => ?_
        · obtain ⟨hver, hsets, -⟩ := Versioned.delete_ok hd
          refine (hkey ▸ hsets.specs_eq).trans ?_
          -- it may have gone since it was read; if not, it is the one that was read
          cases hst : v.find? (workloadName profile) with
          | none => rw [Versioned.specs_of_not_found hst]; rfl
          | some stored =>
            obtain rfl := hv.eq_of_version hfound hst (hver stored (hkey.symm ▸ hst))
            rw [Versioned.specs_of_find? hst, Spec.removed]
            exact ((if_pos hch).trans (if_pos hnil)).symm
        · obtain ⟨⟨stored, hst, hver⟩, rfl⟩ := Versioned.delete_error herr
          refine .inl ⟨fun heq => hver ?_, _, rfl⟩
          have hst : v.find? (workloadName profile) = some stored := hkey ▸ hst
          rw [heq, hfound] at hst
          rw [Option.some.inj hst]
      case isFalse hnil =>
        refine ofWrite_meddled hx he hread rfl (by simp) hl (fun v v' hv hr => ?_)
          fun v e herr => ?_
        · obtain ⟨⟨stored, hst, hver⟩, hsets, -⟩ := Versioned.replace_ok hr
          rw [Update.specs_of_version hv hfound (hkey ▸ hst) hver, ← hkey, Spec.removed]
          exact hsets.specs_eq.trans ((if_pos hch).trans (if_neg hnil)).symm
        · rcases replace_refused herr hfound hkey rfl with h | ⟨hn, he⟩
          · exact .inl h
          · exact .inr ⟨hn, rfl, he⟩

/-! ## All attempts -/

/-- An update that may be disturbed once less than it has attempts makes its change, or finds the
workload gone. -/
theorem retryFrom_meddled {attempt : Script World Attempt} {left i : Nat}
    (h : ∀ t : World, t.Reliable → attempt.Traced Meddles
      (fun steps a u => u.Reliable ∧ AttemptOutcome name op steps a) t)
    (hw : w.Reliable) :
    (retryFrom r name attempt left i).Traced Meddles
      (fun steps result _ => disturbances name (effects steps) < left →
        Applied name op steps result ∨ FoundGone name steps result) w := by
  induction left generalizing w i with
  | zero => exact fun hd => absurd hd (Nat.not_lt_zero _)
  | succ left ih =>
    refine (h w hw).seq fun before a t ⟨ht, ha⟩ => ?_
    match a, ha with
    | .settled result, ha =>
      intro _
      rwa [List.append_nil]
    | .contended, ha =>
      have ha : 0 < disturbances name (effects before) := ha
      dsimp only
      split
      case isTrue hleft =>
        intro hd
        rw [List.append_nil] at hd
        omega
      case isFalse =>
        refine fun u hu => (ih (hu.2 ht)).mono fun later result _ hlater hd => ?_
        -- this attempt was disturbed, so the later ones are once less
        have hsum := le_disturbances_append name (effects before) (effects later)
        rw [effects_append] at hd
        exact (hlater (by omega)).imp Applied.append FoundGone.append

/-- Others may write to the store at any moment. Adding and removing come to their end with the
store as it should be if fewer reads of the workload than there are attempts are followed by a
change of it before the next call takes effect, and the store itself makes no call fail: when the
last call takes effect, the node's entry has all the CPUs to be added, or no entry of the node has
any of those to be removed. The one exception is a workload that is deleted between a read and the
replacement of what was read. -/
theorem updates_absorb (r : Retry) (profile node : String) (cpus : List CpuId) (w : World)
    (hw : w.Reliable) :
    (workloads.add r profile node cpus).Traced Meddles
        (fun steps result _ =>
          disturbances (workloadName profile) (effects steps) < r.budget →
            (∃ change, result = .ok change ∧ ∃ t seen,
              EndsWith (workloadName profile) steps t seen ∧
                ∀ cpu ∈ cpus, ∃ s, seen.specs (workloadName profile) = some s ∧
                  cpu ∈ s.cpusOn node) ∨
              FoundGone (workloadName profile) steps result) w ∧
      (workloads.remove r profile node cpus).Traced Meddles
        (fun steps result _ =>
          disturbances (workloadName profile) (effects steps) < r.budget →
            (∃ change, result = .ok change ∧ ∃ t seen,
              EndsWith (workloadName profile) steps t seen ∧
                (Spec.OneEntry (t.store.specs (workloadName profile)) →
                  ∀ cpu ∈ cpus,
                    ¬ Spec.Listed (seen.specs (workloadName profile)) node cpu)) ∨
              FoundGone (workloadName profile) steps result) w := by
  constructor
  · refine (retryFrom_meddled (fun t ht => addOnce_meddled ht profile node cpus) hw).mono
      fun steps result _ h hd => (h hd).imp (fun ⟨change, hr, t, seen, he, hs⟩ => ?_) id
    exact ⟨change, hr, t, seen, he, fun cpu hc => hs ▸ Spec.mem_cpusOn_added hc⟩
  · refine (retryFrom_meddled (fun t ht => removeOnce_meddled ht profile node cpus) hw).mono
      fun steps result _ h hd => (h hd).imp (fun ⟨change, hr, t, seen, he, hs⟩ => ?_) id
    exact ⟨change, hr, t, seen, he, fun hone cpu hc => hs ▸ Spec.not_listed_removed hone hc⟩

/-- A world with a workload for `perf`, which other writers change as they like right after it is
read first. -/
def meddled (peer : List PeerWrite) : World :=
  { store := ({} : Versioned).put ⟨some "perf-workload", none, ⟨"perf", [⟨"n1", [1]⟩]⟩⟩
    faults := [{ method := .getWorkload, peer }] }

/-- Two attempts are enough if another writer merges CPUs once. -/
theorem updates_absorb_merged :
    let w := meddled [.merge "n1" [7]]
    let x := workloads.add ⟨2, 50⟩ "perf" "n1" [4]
    w.Reliable ∧ disturbances "perf-workload" (effects (x.trace w)) = 1 ∧
      ∃ change, (x.run w).value = .ok change ∧ ∃ t seen,
        EndsWith "perf-workload" (x.trace w) t seen ∧
          ∀ cpu ∈ [4], ∃ s, seen.specs "perf-workload" = some s ∧ cpu ∈ s.cpusOn "n1" := by
  intro w x
  have hw : w.Reliable := by decide +kernel
  have hone : disturbances "perf-workload" (effects (x.trace w)) = 1 := by decide +kernel
  have hended := ((updates_absorb ⟨2, 50⟩ "perf" "n1" [4] w hw).1.run Meddles.refl)
  have hbudget : disturbances "perf-workload" (effects (x.trace w)) < 2 := by omega
  exact ⟨hw, hone, (hended hbudget).resolve_right fun h => absurd h.1 (by decide +kernel)⟩

/-- Five attempts are not enough if another writer deletes the workload once: the first of them
fails for good. -/
theorem not_absorbed_deleted :
    let w := meddled [.delete]
    let x := workloads.add ⟨5, 50⟩ "perf" "n1" [4]
    w.Reliable ∧ disturbances "perf-workload" (effects (x.trace w)) = 1 ∧
      (x.run w).value = .error (.unavailable "perf-workload not found") ∧
      (x.run w).state.store.specs "perf-workload" = none := by
  decide +kernel

end World

end PowerGrant
