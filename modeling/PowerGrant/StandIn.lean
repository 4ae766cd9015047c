import PowerGrant.Services

/-!
# Stand-ins

The services in memory, for trying out the controller without a cluster. Each of them can be switched
to failing; the workload store counts its writes and conflicts, and another writer can be arranged to
get in right after the next read of a workload.
-/

namespace PowerGrant

/-- A write of another writer that waits for the next read of a workload. -/
structure PendingMerge where
  name : String
  node : String
  cpus : List CpuId
  deriving DecidableEq, Repr, Inhabited

/-- The state of the stand-ins. -/
structure StandIn where
  store : Versioned := {}
  /-- The creations, replacements and deletions that took effect. -/
  writes : Nat := 0
  conflicts : Nat := 0
  /-- The oldest in front. -/
  pending : List PendingMerge := []
  workloadsFail : Bool := false
  /-- Profiles by address and name. -/
  profiles : Table String (Table String Profile) := {}
  profilesFail : Bool := false
  /-- The wait before every look-up of a profile, in milliseconds. -/
  profileDelay : Nat := 0
  pods : Table PodKey Pod := {}
  podsFail : Bool := false
  nodesFail : Bool := false
  /-- CPU lists by pod and container. -/
  cpus : Table PodKey (Table String String) := {}
  deriving Inhabited

namespace StandIn

/-- The answer of a stand-in that is switched to failing. -/
def injected {α : Type} : Answer α := .error (.unavailable "injected failure")

/-- The address of a node's profile service. -/
def addressOf (node : String) : String := s!"https://{node}:5000"

/-- The state with a profile under a name at an address. -/
def setProfile (s : StandIn) (address name : String) (p : Profile) : StandIn :=
  let known := (s.profiles.find? address).getD {}
  { s with profiles := s.profiles.insert address (known.insert name p) }

/-- The profile that is registered by its name alone. -/
def plainProfile (name : String) : Profile :=
  ⟨some 1, some name, some 2600, some 2800, some name⟩

/-- The state with the CPU list of a container. -/
def setCpus (s : StandIn) (key : PodKey) (container list : String) : StandIn :=
  let known := (s.cpus.find? key).getD {}
  { s with cpus := s.cpus.insert key (known.insert container list) }

/-- The CPU list of a container. -/
def cpusOf (s : StandIn) (key : PodKey) (container : String) : Answer String :=
  match (s.cpus.find? key).bind (·.find? container) with
  | some list => .ok list
  | none => .error (.unavailable s!"no CPU assignment for {key.text}/{container}")

/-- The first pending merge of a workload, and the others. -/
def takePending (name : String) : List PendingMerge → Option PendingMerge × List PendingMerge
  | [] => (none, [])
  | m :: ms =>
    if m.name = name then (some m, ms)
    else
      let (found, rest) := takePending name ms
      (found, m :: rest)

/-- Reads a workload; a merge that waits for this happens right after. -/
def read (name : String) (s : StandIn) : Answer (Option Workload) × StandIn :=
  if s.workloadsFail then (injected, s)
  else
    match takePending name s.pending with
    | (none, _) => (.ok (s.store.find? name), s)
    | (some m, pending) =>
      (.ok (s.store.find? name),
        { s with pending, store := s.store.mergeInto name m.node m.cpus })

/-- A write to the store, which counts unless there was nothing to delete. -/
def write (counts : Bool) (f : Versioned → Except ServiceError Versioned) (s : StandIn) :
    Answer Unit × StandIn :=
  if s.workloadsFail then (injected, s)
  else
    match f s.store with
    | .ok store => (.ok (), { s with store, writes := if counts then s.writes + 1 else s.writes })
    | .error (.conflict name) => (.error (.conflict name), { s with conflicts := s.conflicts + 1 })
    | .error e => (.error e, s)

/-- The workload store. -/
def workloads : WorkloadStore StandIn where
  get name := Script.modifyGet (read name)
  create w := Script.modifyGet (write true (·.create w))
  replace w := Script.modifyGet (write true (·.replace w))
  delete w := Script.modifyGet fun s =>
    write (s.store.find? w.key).isSome (·.delete w) s

/-- Looks a profile up, after the wait. -/
def profile (name address : String) : Script StandIn (Answer (Option Profile)) := do
  Script.sleep (← Script.read StandIn.profileDelay)
  Script.read fun s =>
    if s.profilesFail then injected
    else .ok ((s.profiles.find? address).bind (·.find? name))

/-- The services. -/
def services : Services StandIn where
  pod key := Script.read fun s => if s.podsFail then injected else .ok (s.pods.find? key)
  address node := Script.read fun s => if s.nodesFail then injected else .ok (addressOf node)
  profile
  cpus key container := Script.read fun s => s.cpusOf key container
  workloads

end StandIn

end PowerGrant
