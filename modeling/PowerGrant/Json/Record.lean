import PowerGrant.Json.Basic

/-!
# Records in JSON

A record is written as an object. It is read from an object, whose members may stand in any order
among others that are ignored, or from an array that gives the fields in the order of their
declaration.

* `slots names j`: what `j` gives for each field, in that order.
* `slot_perm`: the order of an object's members does not matter.
-/

namespace PowerGrant.Json

/-- What the members of an object give for one name: nothing, or one value, but never two. -/
def slot (fields : List (String × Json)) (name : String) : Option (Option Json) :=
  match fields.filter fun f => f.1 = name with
  | [] => some none
  | [f] => some (some f.2)
  | _ => none

/-- What a value gives for each of the fields `names`, in that order. An array may leave out fields
at its end and may not hold more than these. -/
def slots (names : List String) : Json → Option (List (Option Json))
  | .object fields => names.mapM (slot fields)
  | .array items =>
    if items.length ≤ names.length then
      some (items.map some ++ List.replicate (names.length - items.length) none)
    else none
  | _ => none

/-- A field that has to be given. -/
def required? {α : Type} (read? : Json → Option α) (given : Option Json) : Option α :=
  given.bind read?

/-- A field that has a default, for which `null` is no other spelling. -/
def orDefault? {α : Type} (default : α) (read? : Json → Option α) : Option Json → Option α
  | none => some default
  | some j => read? j

/-- Whether a value gives fields that may be missing, each in a form that its test accepts. -/
def fieldsFit (fields : List (String × (Json → Bool))) (j : Json) : Bool :=
  match slots (fields.map Prod.fst) j with
  | some given => (given.zip fields).all fun (value, field) => value.all field.2
  | none => false

/-- The members of an object for the fields that have a value. -/
def present (fields : List (String × Option Json)) : Json :=
  .object (fields.filterMap fun f => f.2.map (f.1, ·))

theorem slot_perm {fs gs : List (String × Json)} (h : fs.Perm gs) (name : String) :
    slot fs name = slot gs name := by
  have hp := h.filter fun f => decide (f.1 = name)
  unfold slot
  generalize fs.filter _ = l at hp
  generalize gs.filter _ = m at hp
  have hl := hp.length_eq
  match l, m, hl with
  | [], [], _ => rfl
  | [f], [g], _ => rw [List.perm_singleton.1 hp]
  | _ :: _ :: _, _ :: _ :: _, _ => rfl

end PowerGrant.Json
