import PowerGrant.Proofs.World.Alone
import PowerGrant.Proofs.World.Writes

/-!
# Runs without failing calls or other writers

Faults that stand ready may never strike, or make no difference when they do. Here it is the steps
of a run that say what has happened: whether a call was made to fail, and whether another writer has
written.

* `World.Spared`: steps in which no call is made to fail. `World.Undisturbed`: steps in which nobody
  else writes.
* `World.add_leaves`: what adding CPUs leaves in steps in which nobody else writes.
* `World.run_add_again`: adding what is there already only reads.
-/

namespace PowerGrant

/-- A fault that does not make a call fail under this timeout. -/
structure Fault.Spares (limit : Nat) (f : Fault) : Prop where
  error : f.error = none
  conflict : f.conflict = false
  intime : f.delay + f.delayAfter ≤ limit

namespace World

/-- No call that is made in the steps is struck by a fault that makes it fail. -/
def Spared (limit : Nat) (steps : List (World × World)) : Prop :=
  ∀ e ∈ steps, ∀ c ∈ e.1.madeSince e.2, (noted e.1 c).1.Spares limit

/-- Nobody else writes to the store in the steps: it changes only by a write that is under way. -/
def Undisturbed (steps : List (World × World)) : Prop :=
  ∀ e ∈ steps, e.2.store ≠ e.1.store → e.1.Writing

instance (limit : Nat) (f : Fault) : Decidable (f.Spares limit) :=
  decidable_of_iff (f.error = none ∧ f.conflict = false ∧ f.delay + f.delayAfter ≤ limit)
    ⟨fun ⟨he, hc, ht⟩ => ⟨he, hc, ht⟩, fun ⟨he, hc, ht⟩ => ⟨he, hc, ht⟩⟩

instance (limit : Nat) (steps : List (World × World)) : Decidable (Spared limit steps) :=
  inferInstanceAs (Decidable (∀ e ∈ steps, _))

instance : DecidableEq Versioned := fun v v' =>
  decidable_of_iff (v.records = v'.records ∧ v.counter = v'.counter)
    ⟨fun ⟨hr, hc⟩ => by cases v; cases v'; cases hr; cases hc; rfl, fun h => h ▸ ⟨rfl, rfl⟩⟩

instance (w : World) : Decidable w.Writing :=
  decidable_of_iff (w.calls.getLast?.any fun c => c.method.writes) (by simp [Writing, Option.any_eq_true])

instance (steps : List (World × World)) : Decidable (Undisturbed steps) :=
  inferInstanceAs (Decidable (∀ e ∈ steps, _))

/-- What an update of the workload `name` by `op` leaves that began in `w`. It has made its change
if it succeeds, and nothing has changed if it fails or there was nothing to change. -/
structure Leaves (w : World) (name : String) (op : Option Spec → Option Spec)
    (result : Answer WorkloadChange) (t : World) : Prop where
  sets : ∀ change, result = .ok change → w.store.Sets t.store name (op (w.store.specs name))
  same : (∀ change, result = .ok change → change = .unchanged) → t.store = w.store

variable {w : World} {c : Call} {limit : Nat} {steps later : List (World × World)}

theorem Spared.mono (h : Spared limit steps) (hs : later ⊆ steps) : Spared limit later :=
  fun e he => h e (hs he)

/-- What strikes a call that is made in spared steps. -/
theorem Spared.noted (h : Spared limit steps) (hm : (w, (noted w c).2) ∈ steps) :
    (World.noted w c).1.Spares limit :=
  h _ hm c (by simp)

theorem Undisturbed.mono (h : Undisturbed steps) (hs : later ⊆ steps) : Undisturbed later :=
  fun e he => h e (hs he)

/-- In a calm world every call is spared. -/
theorem Calm.spares (h : w.Calm) : (noted w c).1.Spares limit := by
  have hn : (noted w c).1 = { method := c.method } := by
    simp [noted, show w.faults = [] from h]
  rw [hn]
  exact ⟨rfl, rfl, Nat.zero_le _⟩

theorem spared_of_calm (h : ∀ e ∈ steps, e.1.Calm) : Spared limit steps :=
  fun e he _ _ => (h e he).spares

/-- A call that is made under a timeout and spared by its fault ends in time. -/
theorem run_call_of_spares {α : Type} (effect : Fault → World → Answer α × World)
    (h : (noted w c).1.Spares limit) :
    ∃ elapsed ≤ limit, (call c effect).run w =
      ⟨(effect (noted w c).1 (noted w c).2).1, elapsed, (effect (noted w c).1 (noted w c).2).2⟩ := by
  refine ⟨_, ?_, run_call_of_spared h.conflict h.error⟩
  have := h.intime
  split <;> omega

/-- A call under a timeout that is spared by its fault takes effect. -/
theorem value_bounded_of_spared {α : Type} {effect : Fault → World → Answer α × World}
    (h : Spared limit ((bounded limit (call c effect)).trace w)) :
    ((bounded limit (call c effect)).run w).value =
      (effect (noted w c).1 (noted w c).2).1.mapError .failed := by
  obtain ⟨elapsed, hle, hrun⟩ := run_call_of_spares effect
    (h.noted List.mem_cons_self)
  rw [run_bounded_of_le (by rw [hrun]; exact hle), hrun]

/-! ## Updates in steps in which nobody else writes -/

section Update

variable {name profile node : String} {cpus : List CpuId} {r : Retry}
  {op : Option Spec → Option Spec}

/-- Reading a workload gives what is stored and leaves the store as it is. -/
theorem get_undisturbed (w : World) (name : String) :
    (workloads.get name).Traced Eq
      (fun steps a t => Undisturbed steps →
        t.store = w.store ∧ ∀ found, a = .ok found → found = w.store.find? name) w := by
  refine call_traced_among (fun _ _ _ => Eq.trans)
    (· = (noted w ⟨.getWorkload, name, .none⟩).2) (fun _ _ ht he => he ▸ ht) rfl ?_ ?_
  · rintro - e t rfl -
    exact ⟨rfl, fun _ h => nomatch h⟩
  · rintro t u rfl rfl hu
    refine ⟨Classical.byContradiction fun hne => ?_, fun found h => (Except.ok.inj h).symm⟩
    -- a read is under way, so the change would be another's
    obtain ⟨c, hc, hwrites⟩ := hu _ (List.mem_cons_of_mem _ List.mem_cons_self) hne
    have hlast : (⟨.getWorkload, name, .none⟩ : Call) = c := by simpa using hc
    rw [← hlast] at hwrites
    cases hwrites

/-- A write that fails has changed nothing. -/
theorem write_undisturbed (w : World) (c : Call) (f : Versioned → Except ServiceError Versioned) :
    (call c (write f)).Traced Eq
      (fun _ a t => match a with
        | .ok () => f w.store = .ok t.store
        | .error _ => t.store = w.store) w := by
  refine call_traced_among (fun _ _ _ => Eq.trans) (· = (noted w c).2) (fun _ _ ht he => he ▸ ht)
    rfl ?_ ?_
  · rintro - e t rfl
    rfl
  · rintro t u rfl rfl
    unfold write
    cases hs : f (noted w c).2.store with
    | ok store => exact hs
    | error e => rfl

/-- What is left when an attempt has ended: what the update leaves if that is settled, and nothing
has changed otherwise. -/
def TryLeaves (w : World) (name : String) (op : Option Spec → Option Spec) :
    Attempt → World → Prop
  | .settled result, t => w.Leaves name op result t
  | .contended, t => t.store = w.store

/-- An attempt that ends with a write. -/
theorem tryLeaves_write {f : Versioned → Except ServiceError Versioned} {change : WorkloadChange}
    (hch : change ≠ .unchanged)
    (hf : ∀ store, f w.store = .ok store → w.store.Sets store name (op (w.store.specs name)))
    {t : World} (hs : t.store = w.store) :
    ((call c (write f)).bind fun a => .done (.ofWrite change a)).Traced Eq
      (fun _ a u => w.TryLeaves name op a u) t := by
  refine (write_undisturbed t c f).seq fun steps a u ha => ?_
  match a, ha with
  | .ok (), ha =>
    refine ⟨fun _ _ => hf _ (hs ▸ ha), fun h => absurd (h change rfl) hch⟩
  | .error (.conflict _), ha => exact ha.trans hs
  | .error (.unavailable _), ha => exact ⟨fun _ h => (nomatch h), fun _ => ha.trans hs⟩

/-- One attempt to add CPUs. -/
theorem addOnce_undisturbed (w : World) :
    (workloads.addOnce profile node cpus).Traced Eq
      (fun steps a t => Undisturbed steps →
        w.TryLeaves (workloadName profile) (Spec.added profile node cpus) a t) w := by
  refine (get_undisturbed w (workloadName profile)).seq fun steps a t hget => ?_
  by_cases hsteps : Undisturbed steps
  case neg =>
    exact .of_forall fun later _ _ hu => absurd (hu.mono (List.subset_append_left _ _)) hsteps
  obtain ⟨hs, hfound⟩ := hget hsteps
  refine Script.Traced.mono ?_ fun _ _ _ h _ => h
  match a, hfound with
  | .error e, _ => exact ⟨fun _ h => (nomatch h), fun _ => hs⟩
  | .ok found, hfound =>
    obtain rfl := hfound found rfl
    cases hf : w.store.find? (workloadName profile) with
    | none =>
      have hnone : w.store.specs (workloadName profile) = none := Versioned.specs_of_not_found hf
      dsimp only
      split
      case isTrue hch =>
        refine tryLeaves_write (by decide) (fun store hcreate => ?_) hs
        rw [hnone, show Spec.added profile node cpus none = some _ from if_pos hch]
        exact (Versioned.create_ok hcreate).2.1
      case isFalse hch =>
        refine ⟨fun _ _ => hs.symm ▸ Versioned.sets_refl ?_, fun _ => hs⟩
        rw [hnone]
        exact (if_neg hch).symm
    | some found =>
      have hspec : w.store.specs (workloadName profile) = some found.spec :=
        Versioned.specs_of_find? hf
      have hkey : found.key = workloadName profile := w.store.named _ _ hf
      dsimp only
      split
      case isTrue hch =>
        refine tryLeaves_write (by decide) (fun store hreplace => ?_) hs
        rw [hspec, show Spec.added profile node cpus (some found.spec) = some _ from if_pos hch]
        exact hkey ▸ (Versioned.replace_ok hreplace).2.1
      case isFalse hch =>
        refine ⟨fun _ _ => hs.symm ▸ Versioned.sets_refl ?_, fun _ => hs⟩
        rw [hspec]
        exact (if_neg hch).symm

/-- Attempts of which each one leaves what it should. -/
theorem retryFrom_undisturbed {attempt : Script World Attempt} {left i : Nat}
    (h : ∀ w, attempt.Traced Eq
      (fun steps a t => Undisturbed steps → w.TryLeaves name op a t) w) (w : World) :
    (retryFrom r name attempt (left + 1) i).Traced Eq
      (fun steps a t => Undisturbed steps → w.Leaves name op a t) w := by
  induction left generalizing w i with
  | zero =>
    refine (h w).seq fun steps a t ha => ?_
    match a, ha with
    | .settled result, ha => exact fun hu => ha (hu.mono (List.subset_append_left _ _))
    | .contended, ha =>
      exact fun hu => ⟨fun _ h => (nomatch h), fun _ => ha (hu.mono (List.subset_append_left _ _))⟩
  | succ left ih =>
    refine (h w).seq fun steps a t ha => ?_
    match a, ha with
    | .settled result, ha => exact fun hu => ha (hu.mono (List.subset_append_left _ _))
    | .contended, ha =>
      intro u hwait
      obtain rfl := hwait
      refine (ih t).mono fun later result u hlater hu => ?_
      have hs : t.store = w.store := ha (hu.mono (List.subset_append_left _ _))
      obtain ⟨hsets, hsame⟩ := hlater (hu.mono (List.subset_append_right _ _))
      rw [hs] at hsets hsame
      exact ⟨hsets, hsame⟩

/-- What adding CPUs under a timeout leaves, if it ends in time and without an error. -/
theorem add_leaves {change : WorkloadChange}
    (hu : Undisturbed ((bounded limit (workloads.add r profile node cpus)).trace w))
    (h : ((bounded limit (workloads.add r profile node cpus)).run w).value = .ok change) :
    w.Leaves (workloadName profile) (Spec.added profile node cpus) (.ok change)
      ((bounded limit (workloads.add r profile node cpus)).run w).state := by
  have hadd : (workloads.add r profile node cpus).Traced Eq
      (fun steps a t => Undisturbed steps →
        w.Leaves (workloadName profile) (Spec.added profile node cpus) a t) w := by
    rw [WorkloadStore.add, Update.retrying_eq]
    exact retryFrom_undisturbed (fun w => addOnce_undisturbed w) w
  have hbounded : (bounded limit (workloads.add r profile node cpus)).Traced Eq
      (fun steps a t => Undisturbed steps → ∀ change, a = .ok change →
        w.Leaves (workloadName profile) (Spec.added profile node cpus) (.ok change) t) w := by
    refine (hadd.within limit fun _ => rfl).seq fun steps o t ho => ?_
    match o, ho with
    | some (.ok done), ho =>
      intro hu change hc
      obtain rfl := Except.ok.inj hc
      exact ho (hu.mono (List.subset_append_left _ _))
    | some (.error _), _ => exact fun _ _ hc => nomatch hc
    | none, _ => exact fun _ _ hc => nomatch hc
  exact (hbounded.run fun _ => rfl) hu change h

theorem run_get_of_spares
    (h : (noted w ⟨.getWorkload, name, .none⟩).1.Spares limit) :
    ∃ elapsed t, (workloads.get name).run w = ⟨.ok (w.store.find? name), elapsed, t⟩ ∧
      elapsed ≤ limit ∧ t.calls = w.calls ++ [⟨.getWorkload, name, .none⟩] := by
  obtain ⟨elapsed, hle, hrun⟩ := run_call_of_spares _ h
  exact ⟨elapsed, _, hrun, hle, rfl⟩

/-- Adding what is there already reads the workload, and that is all. -/
theorem run_add_again
    (hs : Spared limit ((bounded limit (workloads.add r profile node cpus)).trace w))
    (hu : Undisturbed ((bounded limit (workloads.add r profile node cpus)).trace w))
    (h : Spec.added profile node cpus (w.store.specs (workloadName profile)) =
      w.store.specs (workloadName profile)) :
    ∃ elapsed t, (bounded limit (workloads.add r profile node cpus)).run w =
        ⟨.ok .unchanged, elapsed, t⟩ ∧ t.store = w.store ∧
      t.calls = w.calls ++ [⟨.getWorkload, workloadName profile, .none⟩] := by
  have hmade : (w, (noted w ⟨.getWorkload, workloadName profile, .none⟩).2) ∈
      (bounded limit (workloads.add r profile node cpus)).trace w := by
    rw [WorkloadStore.add, Update.retrying_eq]
    exact List.mem_cons_self
  obtain ⟨elapsed, t, hget, hle, hcalls⟩ := run_get_of_spares (hs.noted hmade)
  have hattempt : (workloads.addOnce profile node cpus).run w =
      ⟨.settled (.ok .unchanged), elapsed, t⟩ := by
    have hch : ¬ (((w.store.specs (workloadName profile)).getD ⟨profile, []⟩).merge node
        cpus).changed = true := fun hch => Spec.changed_merge_iff.1 hch h
    simp only [WorkloadStore.addOnce, Script.bind_eq, Script.run_bind, hget]
    cases hf : w.store.find? (workloadName profile) with
    | none =>
      rw [Versioned.specs_of_not_found hf] at hch
      simp [show ¬ (Spec.merge ⟨profile, []⟩ node cpus).changed = true from hch]
    | some found =>
      rw [Versioned.specs_of_find? hf] at hch
      simp [show ¬ (found.spec.merge node cpus).changed = true from hch]
  have hadd : (workloads.add r profile node cpus).run w = ⟨.ok .unchanged, elapsed, t⟩ := by
    rw [WorkloadStore.add, Update.retrying_eq, retryFrom, Script.run_bind, hattempt]
    rfl
  have hrun : (bounded limit (workloads.add r profile node cpus)).run w =
      ⟨.ok .unchanged, elapsed, t⟩ := by
    rw [bounded, Script.run_bind, Script.run_within_of_le (by rw [hadd]; exact hle), hadd]
    rfl
  refine ⟨elapsed, t, hrun, ?_, hcalls⟩
  have hleft := add_leaves hu (by rw [hrun])
  rw [hrun] at hleft
  exact hleft.same fun change hc => (Except.ok.inj hc).symm

end Update

end World

end PowerGrant
