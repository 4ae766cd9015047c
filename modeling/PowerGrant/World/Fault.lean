import PowerGrant.Workload.Store

/-!
# Faults

A fault is a rule about coming calls: which calls it strikes, how many of them it lets pass first, how
many it strikes, and how. Each call is struck by at most one rule, the first that applies.

* `Fault.take`: the rule that strikes a call, and the rules left after it.
-/

namespace PowerGrant

/-- The calls that a fault may strike. -/
inductive Method where
  | getPod
  | resolveNode
  | getProfile
  | getCpus
  | getWorkload
  | createWorkload
  | replaceWorkload
  | deleteWorkload
  deriving DecidableEq, Repr, Inhabited

namespace Method

/-- All calls. -/
def all : List Method :=
  [.getPod, .resolveNode, .getProfile, .getCpus, .getWorkload, .createWorkload, .replaceWorkload,
    .deleteWorkload]

/-- The name of a call. -/
def name : Method → String
  | .getPod => "pods.get"
  | .resolveNode => "nodes.resolve"
  | .getProfile => "profiles.get"
  | .getCpus => "cpus.get"
  | .getWorkload => "workloads.get"
  | .createWorkload => "workloads.create"
  | .replaceWorkload => "workloads.replace"
  | .deleteWorkload => "workloads.delete"

/-- The call of a name. -/
def ofName? (name : String) : Option Method := all.find? fun m => m.name = name

end Method

/-- A write that another writer makes right after a workload was read. -/
inductive PeerWrite where
  /-- Merges CPUs into the workload, if it is there. -/
  | merge (node : String) (cpus : List CpuId)
  | delete
  /-- Stores another workload in its place. -/
  | put (spec : Spec)
  deriving DecidableEq, Repr, Inhabited

/-- The store after a write of another writer to the workload `name`. -/
def PeerWrite.apply (name : String) (store : Versioned) : PeerWrite → Versioned
  | .merge node cpus => store.mergeInto name node cpus
  | .delete => store.erase name
  | .put spec => store.put ⟨some name, none, spec⟩

/-- A rule about coming calls. -/
structure Fault where
  method : Method
  /-- What the call has to be about, if that matters. -/
  key : Option String := none
  /-- How many calls pass unharmed first. -/
  skip : Nat := 0
  /-- How many calls are struck; without a number, all of them. -/
  times : Option Nat := some 1
  /-- The wait before the call takes effect, in milliseconds. -/
  delay : Nat := 0
  /-- The wait after it took effect. -/
  delayAfter : Nat := 0
  /-- The call fails with this reason instead of taking effect. -/
  error : Option String := none
  /-- The call fails with a conflict instead of taking effect. -/
  conflict : Bool := false
  /-- What other writers do after the workload was read. -/
  peer : List PeerWrite := []
  deriving DecidableEq, Repr, Inhabited

namespace Fault

/-- Whether the rule is about a call. -/
def applies (f : Fault) (method : Method) (key : String) : Bool :=
  f.method = method && (f.key.isNone || f.key = some key) && f.times ≠ some 0

/-- The rule after it struck once. -/
def struck (f : Fault) : Fault := { f with times := f.times.map (· - 1) }

/-- The rule that strikes a call, and the rules after the call. -/
def take (method : Method) (key : String) : List Fault → Option Fault × List Fault
  | [] => (none, [])
  | f :: fs =>
    if f.applies method key then
      if f.skip = 0 then (some f, f.struck :: fs)
      else
        let (found, rest) := take method key fs
        (found, { f with skip := f.skip - 1 } :: rest)
    else
      let (found, rest) := take method key fs
      (found, f :: rest)

end Fault

end PowerGrant
