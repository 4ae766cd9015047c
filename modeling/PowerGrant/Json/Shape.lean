import PowerGrant.Json.Sound
import PowerGrant.Text.Timestamp

/-!
# Shapes of JSON values

A shape says what a value of a documented object type may look like. A field of a record may be
missing or `null`, and fields that the record does not name are free; items of lists and maps have
to have the shape that is said.
-/

namespace PowerGrant.Json

/-- What a JSON value may look like. -/
inductive Shape where
  /-- Anything, which is skipped. -/
  | any
  /-- Anything that can be kept. -/
  | kept
  | text
  | bool
  /-- An integer of 32 bits with its sign. -/
  | int32
  /-- An integer of 64 bits with its sign. -/
  | int64
  /-- An integer of 32 bits with its sign, or a text. -/
  | int32OrText
  /-- A text that is a point in time. -/
  | time
  /-- A text that is just this one. -/
  | exactly (value : String)
  | list (items : Shape)
  | map (values : Shape)
  | record (fields : List (String × Shape))
  deriving Inhabited

namespace Shape

/-- The shape of the field `name`; a field that is not named is free. -/
def fieldShape (fields : List (String × Shape)) (name : String) : Shape :=
  (fields.lookup name).getD .any

/-- Whether `n` is an integer of so many bits with its sign. -/
def isSigned (bits : Nat) (n : Int) : Bool :=
  -(Nat.pow 2 (bits - 1) : Int) ≤ n && n < Nat.pow 2 (bits - 1)

/-- Whether a value that may be nested so deeply has a shape. -/
def fitsTo : Nat → Shape → Json → Bool
  | _, .any, _ => true
  | depth, .kept, j => j.isSound depth
  | _, .text, .text _ => true
  | _, .bool, .bool _ => true
  | _, .int32, .integer n => isSigned 32 n
  | _, .int64, .integer n => isSigned 64 n
  | _, .int32OrText, .integer n => isSigned 32 n
  | _, .int32OrText, .text _ => true
  | _, .time, .text s => Text.isTimestamp s
  | _, .exactly value, .text s => s = value
  | depth + 1, .list shape, .array items => items.all (fitsTo depth shape)
  | depth + 1, .map shape, .object fields => fields.all fun f => fitsTo depth shape f.2
  | depth + 1, .record shapes, .object fields =>
    fields.all fun f =>
      match fieldShape shapes f.1, f.2 with
      | .exactly value, j => fitsTo depth (.exactly value) j
      | _, .null => true
      | shape, j => fitsTo depth shape j
  | _, _, _ => false

/-- Whether the value of a whole text has a shape. -/
def fits (shape : Shape) (j : Json) : Bool :=
  fitsTo nestingLimit shape j

/-- A record whose fields are all texts. -/
def texts (names : List String) : Shape :=
  .record (names.map (·, .text))

/-- The fields of these names, all of one shape. -/
def fieldsOf (shape : Shape) (names : List String) : List (String × Shape) :=
  names.map (·, shape)

end Shape

end PowerGrant.Json
