import PowerGrant.Workload.Store

/-!
# Adding to and removing from workloads

`add` and `remove` change the workload of a profile: they read it, change what they read and write it
back with the version that they read. When another writer was faster they wait and start again, with
doubled waits up to the seventh and only so many times.

* `addOnce`, `removeOnce`: one attempt.
* `retrying`: attempts until one is settled.
-/

namespace PowerGrant

/-- What a call did to the stored workload. -/
inductive WorkloadChange where
  | created
  | updated
  /-- The last node's entry went away, and the workload with it. -/
  | deleted
  /-- The workload was already as it should be. -/
  | unchanged
  /-- There was no workload to remove from. -/
  | absent
  deriving DecidableEq, Repr, Inhabited

/-- How often and how fast a conflicting write is tried again. -/
structure Retry where
  /-- The number of attempts; at least one is made. -/
  attempts : Nat
  /-- The wait after the first attempt, in milliseconds. -/
  backoff : Nat
  deriving DecidableEq, Repr, Inhabited

/-- How one attempt ended. -/
inductive Attempt where
  /-- There is nothing more to try. -/
  | settled (result : Answer WorkloadChange)
  /-- Another writer was faster. -/
  | contended
  deriving Inhabited

/-- How an attempt ends with a write: a conflict calls for another attempt. -/
def Attempt.ofWrite (change : WorkloadChange) : Answer Unit → Attempt
  | .ok () => .settled (.ok change)
  | .error (.conflict _) => .contended
  | .error e => .settled (.error e)

namespace Retry

/-- The wait after attempt `i`, counted from 0. -/
def pause (r : Retry) (i : Nat) : Nat := r.backoff * Nat.pow 2 (min i 6)

/-- The number of attempts that are made. -/
def budget (r : Retry) : Nat := max r.attempts 1

end Retry

variable {σ : Type}

/-- Attempts from number `i` on, of which `left` may be made, until one is settled. After the last one
there is no wait. -/
def retryFrom (r : Retry) (name : String) (attempt : Script σ Attempt) :
    (left i : Nat) → Script σ (Answer WorkloadChange)
  | 0, _ => .done (.error (.conflict name))
  | left + 1, i =>
    attempt.bind fun
      | .settled result => .done result
      | .contended =>
        if left = 0 then .done (.error (.conflict name))
        else .wait (r.pause i) (retryFrom r name attempt left (i + 1))

/-- Attempts until one is settled or the budget is used up. -/
def retrying (r : Retry) (name : String) (attempt : Script σ Attempt) :
    Script σ (Answer WorkloadChange) :=
  retryFrom r name attempt r.budget 0

namespace WorkloadStore

/-- One attempt to add `cpus` on `node` to the workload of `profile`. -/
def addOnce (store : WorkloadStore σ) (profile node : String) (cpus : List CpuId) :
    Script σ Attempt := do
  match ← store.get (workloadName profile) with
  | .error e => return .settled (.error e)
  | .ok none =>
    let spec := Spec.merge ⟨profile, []⟩ node cpus
    if spec.changed then
      return .ofWrite .created (← store.create ⟨some (workloadName profile), none, spec.value⟩)
    else return .settled (.ok .unchanged)
  | .ok (some w) =>
    let spec := w.spec.merge node cpus
    if spec.changed then return .ofWrite .updated (← store.replace { w with spec := spec.value })
    else return .settled (.ok .unchanged)

/-- One attempt to remove `cpus` on `node` from the workload of `profile`. -/
def removeOnce (store : WorkloadStore σ) (profile node : String) (cpus : List CpuId) :
    Script σ Attempt := do
  match ← store.get (workloadName profile) with
  | .error e => return .settled (.error e)
  | .ok none => return .settled (.ok .absent)
  | .ok (some w) =>
    let spec := w.spec.remove node cpus
    let next := { w with spec := spec.value }
    if !spec.changed then return .settled (.ok .unchanged)
    else if spec.value.nodes = [] then return .ofWrite .deleted (← store.delete next)
    else return .ofWrite .updated (← store.replace next)

/-- Adds `cpus` on `node` to the workload of `profile`, which is created if there is none. -/
def add (store : WorkloadStore σ) (r : Retry) (profile node : String) (cpus : List CpuId) :
    Script σ (Answer WorkloadChange) :=
  retrying r (workloadName profile) (store.addOnce profile node cpus)

/-- Removes `cpus` on `node` from the workload of `profile`, which is deleted when it is left without
nodes. -/
def remove (store : WorkloadStore σ) (r : Retry) (profile node : String) (cpus : List CpuId) :
    Script σ (Answer WorkloadChange) :=
  retrying r (workloadName profile) (store.removeOnce profile node cpus)

end WorkloadStore

end PowerGrant
