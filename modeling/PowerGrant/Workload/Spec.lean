import PowerGrant.Cpu.List
import PowerGrant.Json.Record

/-!
# Workload specs

A workload lists, for one power profile, the CPUs that run with it on each node. `merge` adds CPUs
to a node's entry and `remove` takes them out; both say whether they changed anything.

* `Spec.WellFormed`: what both keep, namely one entry per node, with at least one CPU, rising.
-/

namespace PowerGrant

/-- The CPUs of one node in a workload. -/
structure NodeEntry where
  node : String
  cpus : List CpuId := []
  deriving DecidableEq, Repr, Inhabited

/-- What a workload says. -/
structure Spec where
  profile : String
  nodes : List NodeEntry := []
  deriving DecidableEq, Repr, Inhabited

/-- Ends the name of every workload. -/
def workloadEnding : String := "-workload"

/-- The name of the workload of a profile. -/
def workloadName (profile : String) : String := profile ++ workloadEnding

/-- A value after an operation, and whether the operation changed it. -/
structure Change (α : Type) where
  value : α
  changed : Bool
  deriving DecidableEq, Repr

namespace NodeEntry

/-- Every entry holds CPUs, in rising order and each once. -/
def WellFormed (e : NodeEntry) : Prop := e.cpus ≠ [] ∧ Rises e.cpus

/-- The entries with `cpus` added to the first one of `node`, or to a new one at the end. -/
def merge (node : String) (cpus : List CpuId) : List NodeEntry → Change (List NodeEntry)
  | [] => ⟨[⟨node, ascending cpus⟩], true⟩
  | e :: es =>
    if e.node = node then
      let union := ascending (e.cpus ++ cpus)
      if union = e.cpus then ⟨e :: es, false⟩ else ⟨{ e with cpus := union } :: es, true⟩
    else
      let rest := merge node cpus es
      ⟨e :: rest.value, rest.changed⟩

/-- The entries with `cpus` taken out of the first one of `node`, which goes away when it is left
empty. -/
def remove (node : String) (cpus : List CpuId) : List NodeEntry → Change (List NodeEntry)
  | [] => ⟨[], false⟩
  | e :: es =>
    if e.node = node then
      let rest := e.cpus.filter fun cpu => !cpus.contains cpu
      if rest = [] then ⟨es, true⟩
      else if rest = e.cpus then ⟨e :: es, false⟩
      else ⟨{ e with cpus := rest } :: es, true⟩
    else
      let rest := remove node cpus es
      ⟨e :: rest.value, rest.changed⟩

/-- The entry as JSON. -/
def toJson (e : NodeEntry) : Json :=
  .object [("nodeName", .text e.node), ("cpuIds", .array (e.cpus.map (.nat ·.toNat)))]

/-- The entry that a JSON value describes. -/
def ofJson? (j : Json) : Option NodeEntry :=
  match Json.slots ["nodeName", "cpuIds"] j with
  | some [node, cpus] => do
    return {
      node := ← Json.required? Json.text? node
      cpus := ← Json.orDefault? [] (Json.listOf? Json.uint32?) cpus }
  | _ => none

end NodeEntry

namespace Spec

/-- No two entries are of the same node, and each is well-formed. -/
def WellFormed (s : Spec) : Prop :=
  (s.nodes.map NodeEntry.node).Nodup ∧ ∀ e ∈ s.nodes, e.WellFormed

/-- The spec with `cpus` added to `node`'s entry, which is made if there is none. Adding nothing
changes nothing. -/
def merge (s : Spec) (node : String) (cpus : List CpuId) : Change Spec :=
  if cpus = [] then ⟨s, false⟩
  else
    let nodes := NodeEntry.merge node cpus s.nodes
    ⟨{ s with nodes := nodes.value }, nodes.changed⟩

/-- The spec with `cpus` taken out of `node`'s entry, which goes away when it is left empty. -/
def remove (s : Spec) (node : String) (cpus : List CpuId) : Change Spec :=
  let nodes := NodeEntry.remove node cpus s.nodes
  ⟨{ s with nodes := nodes.value }, nodes.changed⟩

/-- The CPUs of the first entry of `node`; none if it has no entry. -/
def cpusOn (s : Spec) (node : String) : List CpuId :=
  ((s.nodes.find? fun e => e.node = node).map NodeEntry.cpus).getD []

/-- The spec as JSON. -/
def toJson (s : Spec) : Json :=
  .object [("profileName", .text s.profile), ("nodes", .array (s.nodes.map NodeEntry.toJson))]

/-- The spec that a JSON value describes. -/
def ofJson? (j : Json) : Option Spec :=
  match Json.slots ["profileName", "nodes"] j with
  | some [profile, nodes] => do
    return {
      profile := ← Json.required? Json.text? profile
      nodes := ← Json.orDefault? [] (Json.listOf? NodeEntry.ofJson?) nodes }
  | _ => none

end Spec

end PowerGrant
