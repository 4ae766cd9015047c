import PowerGrant.Script
import PowerGrant.Table
import PowerGrant.Workload.Spec

/-!
# Workload stores

A workload is stored under its name with a version, which every write changes. A writer gives the
version that it read; the store refuses to replace or delete a workload whose version is another one,
so that no writer undoes what it has not seen.

* `ServiceError`: how a call to a service outside fails.
* `WorkloadStore`: the calls of a store.
* `Versioned`: the plain store, in which a counter gives the versions.
-/

namespace PowerGrant

/-- How a call to a service fails. -/
inductive ServiceError where
  /-- What was to be written has changed since it was read. -/
  | conflict (name : String)
  /-- The service cannot answer, and says why. -/
  | unavailable (reason : String)
  deriving DecidableEq, Repr, Inhabited

/-- The wording of a failed call. -/
def ServiceError.message : ServiceError → String
  | .conflict name => s!"conflicting write to {name}"
  | .unavailable reason => reason

/-- What a call to a service gives. -/
abbrev Answer (α : Type) := Except ServiceError α

/-- A workload as it is read and written. -/
structure Workload where
  /-- The name, which an object from outside may lack. -/
  name : Option String
  /-- The version that was read; none before the first write. -/
  version : Option String := none
  spec : Spec
  deriving DecidableEq, Repr, Inhabited

/-- The name under which a workload is stored. -/
def Workload.key (w : Workload) : String := w.name.getD ""

/-- The calls of a workload store. -/
structure WorkloadStore (σ : Type) where
  get : String → Script σ (Answer (Option Workload))
  /-- Stores a workload under a name that is not taken. -/
  create : Workload → Script σ (Answer Unit)
  /-- Stores a workload in place of the one with its name and version. -/
  replace : Workload → Script σ (Answer Unit)
  /-- Removes the workload with this name and version; one that is gone already is removed. -/
  delete : Workload → Script σ (Answer Unit)

/-- Workloads by name, and the number of writes that gave one a version. -/
structure Versioned where
  records : Table String Workload
  counter : Nat
  /-- Each workload is stored under its own name. -/
  named : ∀ name w, records.find? name = some w → w.key = name
  /-- Each workload has a version that the counter has given. -/
  numbered : ∀ name w, records.find? name = some w →
    ∃ n, n ≤ counter ∧ w.version = some (toString n)

namespace Versioned

/-- The store in which nothing was written yet. -/
def empty : Versioned where
  records := {}
  counter := 0
  named _ _ h := nomatch h
  numbered _ _ h := nomatch h

instance : EmptyCollection Versioned := ⟨empty⟩

instance : Inhabited Versioned := ⟨empty⟩

/-- What is stored under a name. -/
def find? (v : Versioned) (name : String) : Option Workload := v.records.find? name

/-- The store after something else has taken the next version. -/
def tick (v : Versioned) : Versioned where
  records := v.records
  counter := v.counter + 1
  named := v.named
  numbered name w h :=
    let ⟨n, hn, hv⟩ := v.numbered name w h
    ⟨n, Nat.le_succ_of_le hn, hv⟩

/-- The store with `w` under its name and with the next version. -/
def put (v : Versioned) (w : Workload) : Versioned where
  records := v.records.insert w.key { w with version := some (toString (v.counter + 1)) }
  counter := v.counter + 1
  named name u h := by
    rw [Table.find?_insert] at h
    split at h
    · obtain rfl := Option.some.inj h
      exact Eq.symm ‹name = w.key›
    · exact v.named name u h
  numbered name u h := by
    rw [Table.find?_insert] at h
    split at h
    · obtain rfl := Option.some.inj h
      exact ⟨v.counter + 1, Nat.le_refl _, rfl⟩
    · obtain ⟨n, hn, hv⟩ := v.numbered name u h
      exact ⟨n, Nat.le_succ_of_le hn, hv⟩

/-- The store with nothing under a name. -/
def erase (v : Versioned) (name : String) : Versioned where
  records := v.records.erase name
  counter := v.counter
  named k w h := by
    rw [Table.find?_erase] at h
    split at h
    · cases h
    · exact v.named k w h
  numbered k w h := by
    rw [Table.find?_erase] at h
    split at h
    · cases h
    · exact v.numbered k w h

theorem find?_put (v : Versioned) (w : Workload) (name : String) :
    (v.put w).find? name =
      if name = w.key then some { w with version := some (toString (v.counter + 1)) }
      else v.find? name :=
  Table.find?_insert v.records w.key name _

theorem find?_erase (v : Versioned) (key name : String) :
    (v.erase key).find? name = if name = key then none else v.find? name :=
  Table.find?_erase v.records key name

/-- The store with a new workload, unless its name is taken. -/
def create (v : Versioned) (w : Workload) : Except ServiceError Versioned :=
  match v.find? w.key with
  | some _ => .error (.conflict w.key)
  | none => .ok (v.put w)

/-- The store with `w` in place of the workload of that name and version. -/
def replace (v : Versioned) (w : Workload) : Except ServiceError Versioned :=
  match v.find? w.key with
  | none => .error (.unavailable s!"{w.key} not found")
  | some stored => if stored.version = w.version then .ok (v.put w) else .error (.conflict w.key)

/-- The store without the workload of this name and version, of which there may be none. -/
def delete (v : Versioned) (w : Workload) : Except ServiceError Versioned :=
  match v.find? w.key with
  | none => .ok v
  | some stored =>
    if stored.version = w.version then .ok (v.erase w.key) else .error (.conflict w.key)

/-- The store after another writer has merged CPUs into a workload, if that is there. -/
def mergeInto (v : Versioned) (name node : String) (cpus : List CpuId) : Versioned :=
  match v.find? name with
  | none => v
  | some w => v.put { w with spec := (w.spec.merge node cpus).value }

end Versioned

end PowerGrant
