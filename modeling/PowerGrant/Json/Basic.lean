/-!
# JSON values

Objects keep their members in the order in which they were read, repeated names included, because a
record may not give a field twice. Numbers that are no integers keep their literal: nothing here
computes with them.
-/

namespace PowerGrant

/-- A JSON value. -/
inductive Json where
  | null
  | bool (value : Bool)
  | integer (value : Int)
  /-- A number written with a fraction, an exponent or as negative zero. -/
  | real (literal : String)
  | text (value : String)
  /-- A string, or an object with a name, that holds half of a surrogate pair and so is no text. -/
  | broken
  | array (items : List Json)
  | object (fields : List (String × Json))
  deriving Inhabited, Repr

namespace Json

/-- A natural number as JSON. -/
def nat (n : Nat) : Json := .integer n

/-- A text or `null`. -/
def optText (s : Option String) : Json :=
  s.elim .null .text

/-- The members of an object; none for any other value. -/
def members : Json → List (String × Json)
  | .object fields => fields
  | _ => []

/-- The value of the member `name`. Of two members with that name the later one counts, and a member
that is `null` counts as absent. -/
def get? (j : Json) (name : String) : Option Json :=
  match j.members.reverse.lookup name with
  | some .null => none
  | found => found

/-- The items of an array; none for any other value. -/
def items : Json → List Json
  | .array items => items
  | _ => []

/-- The text of a string. -/
def text? : Json → Option String
  | .text s => some s
  | _ => none

/-- The text of the member `name`, if it is a string. -/
def getText? (j : Json) (name : String) : Option String :=
  (j.get? name).bind text?

/-- The text of the member `name`, empty if it is missing. -/
def getText (j : Json) (name : String) : String :=
  (j.getText? name).getD ""

/-- The items of the member `name`, none if it is missing. -/
def getItems (j : Json) (name : String) : List Json :=
  (j.get? name).elim [] items

/-- The truth value of a boolean. -/
def bool? : Json → Option Bool
  | .bool b => some b
  | _ => none

/-- The value of an integer. -/
def integer? : Json → Option Int
  | .integer n => some n
  | _ => none

/-- The value of an integer that is not negative. -/
def nat? : Json → Option Nat
  | .integer (.ofNat n) => some n
  | _ => none

/-- The value of an integer that fits in 32 bits. -/
def uint32? : Json → Option UInt32
  | .integer (.ofNat n) => if n < UInt32.size then some (.ofNat n) else none
  | _ => none

/-- The items of an array, each read by `read?`. -/
def listOf? {α : Type} (read? : Json → Option α) : Json → Option (List α)
  | .array items => items.mapM read?
  | _ => none

/-- The value read by `read?`, or nothing from `null`. -/
def optional? {α : Type} (read? : Json → Option α) : Json → Option (Option α)
  | .null => some none
  | j => (read? j).map some

end Json

end PowerGrant
