import PowerGrant.Grant.Basic
import PowerGrant.PodKey

/-!
# The table of grants

What is recorded for each pod. A grant without a node or without the pod's uid is refused, since it
could not be taken back later.

* `GrantTable.find?_record`: recording changes what is found under that key and under no other.
-/

namespace PowerGrant

/-- The grants recorded, by pod. -/
abbrev GrantTable := Table PodKey Grant

/-- A part that a grant has to have. -/
inductive GrantPart where
  | node
  | uid
  deriving DecidableEq, Repr, Inhabited

/-- The word for a part of a grant. -/
def GrantPart.word : GrantPart → String
  | .node => "node"
  | .uid => "uid"

/-- Why a grant was not recorded. -/
structure IncompleteGrant where
  key : PodKey
  /-- The part that is missing; the node is looked for first. -/
  missing : GrantPart
  deriving DecidableEq, Repr, Inhabited

/-- The wording of a refusal. -/
def IncompleteGrant.message (e : IncompleteGrant) : String :=
  s!"state entry for {e.key.text} has no {e.missing.word}"

namespace GrantTable

/-- The first part that a grant lacks. -/
def missingPart? (g : Grant) : Option GrantPart :=
  if g.node = "" then some .node else if g.uid = "" then some .uid else none

/-- The table with `g` recorded for the pod, in place of what was recorded before. -/
def record (t : GrantTable) (key : PodKey) (g : Grant) : Except IncompleteGrant GrantTable :=
  match missingPart? g with
  | some part => .error ⟨key, part⟩
  | none => .ok (t.insert key g)

/-- The grants of pods on `node`, by key. -/
def onNode (t : GrantTable) (node : String) : List (PodKey × Grant) :=
  t.entries.filter fun e => e.2.node = node

theorem find?_record {t u : GrantTable} {key : PodKey} {g : Grant} (h : record t key g = .ok u)
    (k : PodKey) : u.find? k = if k = key then some g else t.find? k := by
  unfold record at h
  split at h
  · simp at h
  · obtain rfl := Except.ok.inj h
    exact Table.find?_insert t key k g

end GrantTable

end PowerGrant
