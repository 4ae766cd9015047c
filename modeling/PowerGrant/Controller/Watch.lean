import PowerGrant.Cluster.Pods
import PowerGrant.Text.Percent

/-!
# What the controller watches

The pods of one namespace or of all, and of one node or of all. Without a path that can be sent nothing
is watched.
-/

namespace PowerGrant

/-- Which pods are watched. -/
structure Watch where
  ns : Option String := none
  node : Option String := none
  deriving DecidableEq, Repr, Inhabited

namespace Watch

/-- The path of the pods that are listed and watched, if it can be sent. -/
def path? (w : Watch) : Option String :=
  Request.sendable <|
    match w.ns with
    | some ns => Cluster.podsPath ns
    | none => "/api/v1/pods"

/-- The restriction that is asked for, as it stands in the query. -/
def fieldSelector (w : Watch) : Option String :=
  w.node.map fun node => Text.formEncode s!"spec.nodeName={node}"

end Watch

end PowerGrant
