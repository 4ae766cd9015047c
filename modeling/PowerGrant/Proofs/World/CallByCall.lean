import PowerGrant.World.Basic
import PowerGrant.Workload.Aggregator

/-!
# What updates have from their calls

An update of a workload is made of calls about that workload and of waits. What these have, and what
scripts made of such scripts have too, the update has, with all its attempts.

* `World.CallByCall`: a property of that kind. `CallByCall.add`, `CallByCall.remove`: updates have it.
-/

namespace PowerGrant.World

/-- A property that the calls about the workload `name` have, and that scripts made of scripts that have
it have as well. -/
structure CallByCall (name : String) (Has : {α : Type} → Script World α → Prop) : Prop where
  done {α : Type} (a : α) : Has (.done a)
  wait {α : Type} {x : Script World α} (ms : Nat) (h : Has x) : Has (.wait ms x)
  bind {α β : Type} {x : Script World α} {f : α → Script World β} (h : Has x) (hf : ∀ a, Has (f a)) :
    Has (x.bind f)
  /-- A read finds a workload under its own name only. -/
  get_bind {β : Type} {f : Answer (Option Workload) → Script World β} (hnone : Has (f (.ok none)))
    (hsome : ∀ found : Workload, found.key = name → Has (f (.ok (some found))))
    (herror : ∀ e, Has (f (.error e))) : Has ((workloads.get name).bind f)
  create {stored : Workload} (hk : stored.key = name) : Has (workloads.create stored)
  replace {stored : Workload} (hk : stored.key = name) : Has (workloads.replace stored)
  delete {stored : Workload} (hk : stored.key = name) : Has (workloads.delete stored)

namespace CallByCall

variable {Has : {α : Type} → Script World α → Prop} {name profile : String} {r : Retry}

theorem ofWrite (h : CallByCall name Has) {x : Script World (Answer Unit)} {change : WorkloadChange}
    (hx : Has x) : Has (x.bind fun a => .done (Attempt.ofWrite change a)) :=
  h.bind hx fun _ => h.done _

theorem addOnce (h : CallByCall (workloadName profile) Has) (node : String) (cpus : List CpuId) :
    Has (workloads.addOnce profile node cpus) := by
  refine h.get_bind ?_ (fun found hk => ?_) fun e => h.done _
  · dsimp only
    split
    · exact h.ofWrite (h.create rfl)
    · exact h.done _
  · dsimp only
    split
    · exact h.ofWrite (h.replace hk)
    · exact h.done _

theorem removeOnce (h : CallByCall (workloadName profile) Has) (node : String) (cpus : List CpuId) :
    Has (workloads.removeOnce profile node cpus) := by
  refine h.get_bind (h.done _) (fun found hk => ?_) fun e => h.done _
  dsimp only
  split
  · exact h.done _
  · split
    · exact h.ofWrite (h.delete hk)
    · exact h.ofWrite (h.replace hk)

/-- Attempts until one is settled have what one attempt has. -/
theorem retryFrom (h : CallByCall name Has) {attempt : Script World Attempt} (ha : Has attempt)
    (left i : Nat) : Has (retryFrom r name attempt left i) := by
  induction left generalizing i with
  | zero => exact h.done _
  | succ left ih =>
    refine h.bind ha fun a => ?_
    match a with
    | .settled result => exact h.done _
    | .contended =>
      dsimp only
      split
      · exact h.done _
      · exact h.wait _ (ih (i + 1))

theorem add (h : CallByCall (workloadName profile) Has) (r : Retry) (node : String)
    (cpus : List CpuId) : Has (workloads.add r profile node cpus) :=
  h.retryFrom (h.addOnce node cpus) _ _

theorem remove (h : CallByCall (workloadName profile) Has) (r : Retry) (node : String)
    (cpus : List CpuId) : Has (workloads.remove r profile node cpus) :=
  h.retryFrom (h.removeOnce node cpus) _ _

end CallByCall

end PowerGrant.World
