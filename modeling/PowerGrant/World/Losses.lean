import PowerGrant.World.Basic

/-!
# Lost answers

A write to the store may take effect and yet be heard to have failed, because its answer is lost or
because the store fails once it has written. Faults strike before a write takes effect, or make its
answer late; losses strike after it. A call that only reads has no effect, so it makes no difference
when it fails.

* `World.losing`: the workload store of the world with losses.
* `World.servicesOn`: the services of the world with another workload store.
-/

namespace PowerGrant.World

/-- The failure that is heard of a write in place of its success, if any, by the world to which the
write has led. The calls on record there say which write it was. -/
abbrev Losses := World → Option ServiceError

/-- The effect of a write to the store whose answer may be lost. -/
def writeLosing (lost : Losses) (f : Versioned → Except ServiceError Versioned) (fault : Fault)
    (w : World) : Answer Unit × World :=
  let (answer, w) := write f fault w
  (match lost w with
    | some e => answer.bind fun _ => .error e
    | none => answer, w)

/-- The workload store of the world when answers may be lost. -/
def losing (lost : Losses) : WorkloadStore World where
  get := workloads.get
  create workload :=
    call ⟨.createWorkload, workload.key, .record workload⟩ (writeLosing lost (·.create workload))
  replace workload :=
    call ⟨.replaceWorkload, workload.key, .record workload⟩ (writeLosing lost (·.replace workload))
  delete workload :=
    call ⟨.deleteWorkload, workload.key, .record workload⟩ (writeLosing lost (·.delete workload))

/-- The services of the world with `store` as their workload store. -/
def servicesOn (store : WorkloadStore World) : Services World :=
  { services with workloads := store }

/-- Without losses it is the workload store of the world. -/
theorem losing_none : losing (fun _ => none) = workloads := rfl

end PowerGrant.World
