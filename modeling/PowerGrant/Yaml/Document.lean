import PowerGrant.Yaml.Event
import PowerGrant.Yaml.Value

/-!
# From events to values

An alias stands for the node with its anchor. Anchors are numbered: each gets as its number how many names
there were before, so that a name that is given again may share its number with the next new name. An
alias has the number that its name has where it stands, and leads to the last node with this number.

Nodes may not be nested too deeply, aliases may not be followed too often, and no key may occur twice in
a mapping.

* `values?`: the values of the documents of a text.
-/

namespace PowerGrant.Yaml

namespace Document

/-- The anchors of a document as far as it is read. -/
structure Anchors where
  /-- The numbers of names, the last first. -/
  numbers : List (String × Nat) := []
  /-- How many different names there are. -/
  names : Nat := 0
  /-- Where the nodes with a number begin, the last first. -/
  places : List (Nat × Nat) := []
  /-- The numbers of the aliases at their places. -/
  aliases : List (Nat × Nat) := []
  deriving DecidableEq, Repr, Inhabited

/-- The anchors after an event at a place. An alias has to have a name that was given before. -/
def Anchors.next? (a : Anchors) (place : Nat) : Event → Option Anchors
  | .alias name => do
    return { a with aliases := (place, ← a.numbers.lookup name) :: a.aliases }
  | .scalar { anchor := some name, .. } _ _ | .listStart { anchor := some name, .. }
  | .mappingStart { anchor := some name, .. } =>
    some { a with
      numbers := (name, a.names) :: a.numbers
      names := if (a.numbers.lookup name).isSome then a.names else a.names + 1
      places := (a.names, place) :: a.places }
  | _ => some a

/-- The anchors of events that begin at a place. -/
def anchors? : Nat → Anchors → List Event → Option Anchors
  | _, a, [] => some a
  | place, a, e :: es => (a.next? place e).bind fun a => anchors? (place + 1) a es

/-- A document in which aliases are resolved. -/
structure Resolved where
  events : Array Event
  anchors : Anchors

/-- Where an alias at a place leads to. -/
def Resolved.target? (d : Resolved) (place : Nat) : Option Nat :=
  (d.anchors.aliases.lookup place).bind fun number => d.anchors.places.lookup number

/-- A value, the place behind it, and how often aliases have been followed. -/
abbrev Found (α : Type) := α × Nat × Nat

/-- A reader of a node at a place, after aliases have been followed so often. -/
abbrev NodeReader := Nat → Nat → Option (Found Value)

/-- How deep nodes may be nested. -/
def depthLimit : Nat := 128

/-- How often aliases may be followed, for each event. -/
def jumpsPerEvent : Nat := 100

/-- The items of a list from a place on, each read by `node`. -/
def items? (d : Resolved) (node : NodeReader) :
    Nat → List Value → Nat → Nat → Option (Found (List Value))
  | 0, _, _, _ => none
  | fuel + 1, seen, place, jumps =>
    match d.events[place]? with
    | some .listEnd => some (seen.reverse, place + 1, jumps)
    | _ =>
      match node place jumps with
      | some (v, place, jumps) => items? d node fuel (v :: seen) place jumps
      | none => none

/-- The entries of a mapping from a place on; no key may occur twice. -/
def entries? (d : Resolved) (node : NodeReader) :
    Nat → List (Value × Value) → Nat → Nat → Option (Found (List (Value × Value)))
  | 0, _, _, _ => none
  | fuel + 1, seen, place, jumps =>
    match d.events[place]? with
    | some .mappingEnd => some (seen.reverse, place + 1, jumps)
    | _ =>
      match node place jumps with
      | none => none
      | some (k, place, jumps) =>
        if Value.hasKey k seen then none
        else match node place jumps with
          | some (v, place, jumps) => entries? d node fuel ((k, v) :: seen) place jumps
          | none => none

/-- The node at a place that is no alias; `node` reads what is nested in it. -/
def content? (d : Resolved) (node : Option NodeReader) (place jumps : Nat) :
    Option (Found Value) :=
  let fuel := d.events.size + 1
  match d.events[place]?, node with
  | some (.scalar p text plain), _ => do
    return (← Value.withTag? p.tag (← Value.ofScalar? p.tag text plain), place + 1, jumps)
  | some (.listStart p), some node => do
    let (items, place, jumps) ← items? d node fuel [] (place + 1) jumps
    return (← Value.withTag? p.tag (.list items), place, jumps)
  | some (.mappingStart p), some node => do
    let (entries, place, jumps) ← entries? d node fuel [] (place + 1) jumps
    return (← Value.withTag? p.tag (.mapping entries), place, jumps)
  | _, _ => none

/-- The node at a place, in which nodes may be nested so deeply. -/
def node? (d : Resolved) : Nat → Nat → Nat → Option (Found Value)
  | depth, place, jumps =>
    let inner : Option NodeReader :=
      match depth with
      | 0 => none
      | depth + 1 => some (node? d depth)
    match d.events[place]? with
    | some (.alias _) =>
      if jumps < jumpsPerEvent * d.events.size then do
        let target ← d.target? place
        let (v, _, jumps) ← content? d inner target (jumps + 1)
        return (v, place + 1, jumps)
      else none
    | _ => content? d inner place jumps

/-- The value of a document. -/
def value? (es : List Event) : Option Value := do
  let anchors ← anchors? 0 {} es
  return (← node? ⟨es.toArray, anchors⟩ depthLimit 0 0).1

end Document

/-- The values of the documents of a text. -/
def values? (text : String) : Option (List Value) := do
  (← documents? text).mapM Document.value?

end PowerGrant.Yaml
