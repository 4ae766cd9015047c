import PowerGrant.Proofs.Workload.Specs
import PowerGrant.Workload.Store
import Std.Data.String.ToNat

/-!
# What a version is good for

The counter of a store gives each version once. So a workload that still has the version with which
it was read still has the content that was read, whatever happened in between.

* `Versioned.Later`: a store that came from another by writes. `Later.eq_of_version`: what it
  holds under an old version is what the old store held.
* `Versioned.specs`: the specs stored, by name. `Versioned.Sets`: the spec under one name becomes
  another one, and no other spec changes.
* `create_ok`, `replace_ok`, `delete_ok`: the writes that succeed.
-/

namespace PowerGrant

/-- Specs by the name of their workload. -/
abbrev Specs := String → Option Spec

namespace Versioned

/-- The specs stored. -/
def specs (v : Versioned) : Specs := fun name => (v.find? name).map Workload.spec

/-- `v'` holds `s` under a name and else the specs of `v`. -/
def Sets (v v' : Versioned) (name : String) (s : Option Spec) : Prop :=
  ∀ n, v'.specs n = if n = name then s else v.specs n

/-- `v'` came from `v` by writes: what it holds was there before, or has a version given since. -/
structure Later (v v' : Versioned) : Prop where
  counter : v.counter ≤ v'.counter
  held : ∀ name w, v'.find? name = some w →
    v.find? name = some w ∨ ∃ n, v.counter < n ∧ n ≤ v'.counter ∧ w.version = some (toString n)

variable {v v' v'' : Versioned} {w stored : Workload} {name : String} {s : Option Spec}

theorem specs_eq_some {s : Spec} (h : v.specs name = some s) :
    ∃ w, v.find? name = some w ∧ w.spec = s := by
  simpa [specs] using h

theorem specs_of_find? (h : v.find? name = some w) : v.specs name = some w.spec := by
  simp [specs, h]

theorem specs_of_not_found (h : v.find? name = none) : v.specs name = none := by
  simp [specs, h]

/-! ## Later stores -/

theorem toString_injective {m n : Nat} (h : toString m = toString n) : m = n :=
  Nat.repr_injective h

namespace Later

theorem refl (v : Versioned) : v.Later v := ⟨Nat.le_refl _, fun _ _ h => .inl h⟩

theorem trans (h : v.Later v') (h' : v'.Later v'') : v.Later v'' := by
  have hc := h.counter
  have hc' := h'.counter
  refine ⟨by omega, fun name w hw => ?_⟩
  rcases h'.held name w hw with hw | ⟨n, hn, hn', hv⟩
  · rcases h.held name w hw with hw | ⟨n, hn, hn', hv⟩
    · exact .inl hw
    · exact .inr ⟨n, hn, by omega, hv⟩
  · exact .inr ⟨n, by omega, hn', hv⟩

/-- What a later store holds under an old version is what the old store held. -/
theorem eq_of_version (h : v.Later v') (hw : v.find? name = some w)
    (hs : v'.find? name = some stored) (hv : stored.version = w.version) : stored = w := by
  rcases h.held name stored hs with hs | ⟨n, hn, -, hn'⟩
  · exact Option.some.inj (hs.symm.trans hw)
  · obtain ⟨m, hm, hm'⟩ := v.numbered name w hw
    have : n = m := toString_injective (Option.some.inj (hn'.symm.trans (hv.trans hm')))
    omega

theorem put (v : Versioned) (w : Workload) : v.Later (v.put w) := by
  refine ⟨Nat.le_succ _, fun name u hu => ?_⟩
  rw [find?_put] at hu
  split at hu
  · obtain rfl := Option.some.inj hu
    exact .inr ⟨v.counter + 1, Nat.lt_succ_self _, Nat.le_refl _, rfl⟩
  · exact .inl hu

theorem erase (v : Versioned) (name : String) : v.Later (v.erase name) := by
  refine ⟨Nat.le_refl _, fun n u hu => ?_⟩
  rw [find?_erase] at hu
  split at hu
  · cases hu
  · exact .inl hu

theorem mergeInto (v : Versioned) (name node : String) (cpus : List CpuId) :
    v.Later (v.mergeInto name node cpus) := by
  unfold Versioned.mergeInto
  split
  · exact refl v
  · exact put v _

end Later

/-! ## Writes that succeed -/

theorem sets_refl (h : v.specs name = s) : v.Sets v name s := by
  intro n
  split
  · rename_i hn
    rw [hn, h]
  · rfl

theorem Sets.specs_eq (h : v.Sets v' name s) : v'.specs name = s := (h name).trans (if_pos rfl)

theorem sets_put (v : Versioned) (w : Workload) : v.Sets (v.put w) w.key (some w.spec) := by
  intro n
  simp only [specs, find?_put]
  split <;> rfl

theorem sets_erase (v : Versioned) (name : String) : v.Sets (v.erase name) name none := by
  intro n
  simp only [specs, find?_erase]
  split <;> rfl

theorem create_ok (h : v.create w = .ok v') :
    v.find? w.key = none ∧ v.Sets v' w.key (some w.spec) ∧ v.Later v' := by
  unfold create at h
  split at h
  · cases h
  · rename_i hn
    obtain rfl := Except.ok.inj h
    exact ⟨hn, sets_put v w, Later.put v w⟩

theorem replace_ok (h : v.replace w = .ok v') :
    (∃ stored, v.find? w.key = some stored ∧ stored.version = w.version) ∧
      v.Sets v' w.key (some w.spec) ∧ v.Later v' := by
  unfold replace at h
  split at h
  · cases h
  · rename_i stored hs
    split at h
    · rename_i hv
      obtain rfl := Except.ok.inj h
      exact ⟨⟨stored, hs, hv⟩, sets_put v w, Later.put v w⟩
    · cases h

theorem delete_ok (h : v.delete w = .ok v') :
    (∀ stored, v.find? w.key = some stored → stored.version = w.version) ∧
      v.Sets v' w.key none ∧ v.Later v' := by
  unfold delete at h
  split at h
  · rename_i hn
    obtain rfl := Except.ok.inj h
    refine ⟨fun stored hs => ?_, sets_refl (specs_of_not_found hn), Later.refl v⟩
    rw [hn] at hs
    cases hs
  · rename_i stored hs
    split at h
    · rename_i hv
      obtain rfl := Except.ok.inj h
      refine ⟨fun u hu => ?_, sets_erase v _, Later.erase v _⟩
      rwa [← Option.some.inj (hs.symm.trans hu)]
    · cases h

/-! ## Writes that fail -/

/-- What is to be created is there already. -/
theorem create_error {e : ServiceError} (h : v.create w = .error e) :
    v.find? w.key ≠ none ∧ e = .conflict w.key := by
  unfold create at h
  split at h
  · rename_i stored hs
    exact ⟨by simp [hs], (Except.error.inj h).symm⟩
  · cases h

/-- What is to be replaced is gone or has another version. -/
theorem replace_error {e : ServiceError} (h : v.replace w = .error e) :
    v.find? w.key = none ∧ e = .unavailable s!"{w.key} not found" ∨
      (∃ stored, v.find? w.key = some stored ∧ stored.version ≠ w.version) ∧
        e = .conflict w.key := by
  unfold replace at h
  split at h
  · rename_i hn
    exact .inl ⟨hn, (Except.error.inj h).symm⟩
  · rename_i stored hs
    split at h
    · cases h
    · rename_i hv
      exact .inr ⟨⟨stored, hs, hv⟩, (Except.error.inj h).symm⟩

/-- What is to be deleted has another version. -/
theorem delete_error {e : ServiceError} (h : v.delete w = .error e) :
    (∃ stored, v.find? w.key = some stored ∧ stored.version ≠ w.version) ∧
      e = .conflict w.key := by
  unfold delete at h
  split at h
  · cases h
  · rename_i stored hs
    split at h
    · cases h
    · rename_i hv
      exact ⟨⟨stored, hs, hv⟩, (Except.error.inj h).symm⟩

end Versioned

end PowerGrant
