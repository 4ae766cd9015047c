import PowerGrant.Services
import PowerGrant.World.Fault

/-!
# A world of tables

The services outside as tables that are set up by hand, with faults that strike their calls and a
record of the calls made. A call is recorded and its fault taken at once; the rest of it happens after
the fault's wait, so a call that is cut off in that wait has no effect.
-/

namespace PowerGrant

/-- What a recorded call was given beside its key. -/
inductive CallDetail where
  | none
  | address (address : String)
  | record (workload : Workload)
  deriving DecidableEq, Repr, Inhabited

/-- A call that was made. -/
structure Call where
  method : Method
  key : String
  detail : CallDetail := .none
  deriving DecidableEq, Repr, Inhabited

/-- The tables behind the services. -/
structure World where
  /-- Pods by the text of their key. -/
  pods : Table String Pod := {}
  /-- The addresses of nodes that have one of their own. -/
  addresses : Table String String := {}
  /-- Profiles by address and name. -/
  profiles : Table String (Table String Profile) := {}
  /-- CPU lists by pod and container. -/
  cpus : Table String String := {}
  store : Versioned := {}
  faults : List Fault := []
  /-- The calls made, the first in front. -/
  calls : List Call := []
  deriving Inhabited

namespace World

/-- The address of a node's profile service. -/
def addressOf (w : World) (node : String) : String :=
  (w.addresses.find? node).getD s!"https://{node}:5000"

/-- The profile that the service at an address knows by a name. -/
def profileAt (w : World) (address name : String) : Option Profile :=
  (w.profiles.find? address).bind (·.find? name)

/-- The world with a profile under a name at an address, or with none. -/
def setProfile (w : World) (address name : String) (profile : Option Profile) : World :=
  let known := (w.profiles.find? address).getD {}
  let known := match profile with
    | some p => known.insert name p
    | none => known.erase name
  { w with profiles := w.profiles.insert address known }

/-- The world with a pod in it. -/
def putPod (w : World) (pod : Pod) : World :=
  { w with pods := w.pods.insert pod.key.text pod }

/-- The world with a call on record and the fault that strikes it taken. -/
def noted (w : World) (c : Call) : Fault × World :=
  let (fault, faults) := Fault.take c.method c.key w.faults
  (fault.getD { method := c.method },
    { w with faults, calls := w.calls ++ [c] })

/-- A call that takes effect as `effect` says, unless a fault strikes it. -/
def call {α : Type} (c : Call) (effect : Fault → World → Answer α × World) :
    Script World (Answer α) := do
  let fault ← Script.modifyGet (noted · c)
  Script.sleep fault.delay
  if fault.conflict then return .error (.conflict c.key)
  if let some reason := fault.error then return .error (.unavailable reason)
  match ← Script.modifyGet (effect fault) with
  | .error e => return .error e
  | .ok a =>
    Script.sleep fault.delayAfter
    return .ok a

/-- The effect of a write to the store. -/
def write (f : Versioned → Except ServiceError Versioned) (_ : Fault) (w : World) :
    Answer Unit × World :=
  match f w.store with
  | .ok store => (.ok (), { w with store })
  | .error e => (.error e, w)

/-- The workload store of the world. -/
def workloads : WorkloadStore World where
  get name := call ⟨.getWorkload, name, .none⟩ fun fault w =>
    (.ok (w.store.find? name),
      { w with store := fault.peer.foldl (PeerWrite.apply name) w.store })
  create workload := call ⟨.createWorkload, workload.key, .record workload⟩ (write (·.create workload))
  replace workload :=
    call ⟨.replaceWorkload, workload.key, .record workload⟩ (write (·.replace workload))
  delete workload := call ⟨.deleteWorkload, workload.key, .record workload⟩ (write (·.delete workload))

/-- The services of the world. -/
def services : Services World where
  pod key := call ⟨.getPod, key.text, .none⟩ fun _ w => (.ok (w.pods.find? key.text), w)
  address node := call ⟨.resolveNode, node, .none⟩ fun _ w => (.ok (w.addressOf node), w)
  profile name address := call ⟨.getProfile, name, .address address⟩ fun _ w =>
    (.ok (w.profileAt address name), w)
  cpus key container := call ⟨.getCpus, s!"{key.text}/{container}", .none⟩ fun _ w =>
    let place := s!"{key.text}/{container}"
    match w.cpus.find? place with
    | some list => (.ok list, w)
    | none => (.error (.unavailable s!"no CPU assignment for {place}"), w)
  workloads

end World

end PowerGrant
