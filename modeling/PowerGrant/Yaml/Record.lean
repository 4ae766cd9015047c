import PowerGrant.Yaml.Value

/-!
# Records in YAML

A record is a mapping whose keys are texts; nothing at all is a record without fields. Fields that the
record does not know are ignored, and a field that it knows may not be given twice. Tags do not matter,
except that only a value without one counts as `null`.

* `Value.record?`: the fields of a record.
* `Value.required?`, `Value.optional?`, `Value.orElse?`: the value of a field.
-/

namespace PowerGrant.Yaml.Value

/-- The fields of a record. -/
abbrev Fields := List (String × Value)

/-- The text of a value. -/
def text? (v : Value) : Option String :=
  match v.untag with
  | .text s => some s
  | _ => none

/-- The truth value of a value. -/
def truth? (v : Value) : Option Bool :=
  match v.untag with
  | .bool b => some b
  | _ => none

/-- The items of a list, each read by `read?`; `null` has none. -/
def listOf? {α : Type} (read? : Value → Option α) (v : Value) : Option (List α) :=
  match v.untag with
  | .list items => items.mapM read?
  | .null => some []
  | _ => none

/-- The entries of a mapping with texts as keys, each value read by `read?`; `null` has none. -/
def mapOf? {α : Type} (read? : Value → Option α) (v : Value) : Option (List (String × α)) :=
  match v.untag with
  | .mapping entries => entries.mapM fun (k, v) => do return (← k.text?, ← read? v)
  | .null => some []
  | _ => none

/-- The fields of a record that knows these names. -/
def record? (known : List String) (v : Value) : Option Fields := do
  let fields ← mapOf? some v
  if known.all fun name => (fields.filter (·.1 = name)).length ≤ 1 then return fields else none

/-- The value of a field that has to be given. -/
def required? {α : Type} (read? : Value → Option α) (name : String) (fields : Fields) : Option α :=
  (fields.lookup name).bind read?

/-- The value of a field that may be missing or `null`. -/
def optional? {α : Type} (read? : Value → Option α) (name : String) (fields : Fields) :
    Option (Option α) :=
  match fields.lookup name with
  | none | some .null => some none
  | some v => (read? v).map some

/-- The value of a field that may be missing, but not `null` unless `read?` takes it. -/
def orElse? {α : Type} (default : α) (read? : Value → Option α) (name : String) (fields : Fields) :
    Option α :=
  match fields.lookup name with
  | none => some default
  | some v => read? v

mutual

/-- Whether a value has no tags but on keys, and only texts as keys. -/
def isData : Value → Bool
  | .tagged _ _ => false
  | .list items => areData items
  | .mapping entries => entriesAreData entries
  | _ => true

/-- Whether all items are such values. -/
def areData : List Value → Bool
  | [] => true
  | v :: vs => isData v && areData vs

/-- Whether all entries have a text as key and such a value. -/
def entriesAreData : List (Value × Value) → Bool
  | [] => true
  | (k, v) :: es => k.text?.isSome && isData v && entriesAreData es

end

end PowerGrant.Yaml.Value
