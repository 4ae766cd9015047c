import PowerGrant.Json.Reader
import PowerGrant.Text.Cut

/-!
# YAML values

What the nodes of a document stand for. A plain scalar may be `null`, a truth value, a number or a text;
any other scalar is a text, unless a tag asks for something else. A value may keep a tag of its own.

* `Value.ofPlain?`: the value of a plain scalar.
* `Value.same`: whether two values are the same as keys of a mapping.
-/

namespace PowerGrant.Yaml

/-- A value. -/
inductive Value where
  | null
  | bool (value : Bool)
  | integer (value : Int)
  | real (value : Float)
  | text (value : String)
  | list (items : List Value)
  | mapping (entries : List (Value × Value))
  | tagged (tag : String) (value : Value)
  deriving Inhabited, Repr

namespace Value

/-! ## Plain scalars -/

/-- Whether a text is a word for `null`. -/
def isNull (s : String) : Bool := ["null", "Null", "NULL", "~"].contains s

/-- The truth value that a text is a word for. -/
def bool? (s : String) : Option Bool :=
  if ["true", "True", "TRUE"].contains s then some true
  else if ["false", "False", "FALSE"].contains s then some false
  else none

/-- The number that digits to a base write. -/
def digitsTo? (base : Nat) (cs : List Char) : Option Nat :=
  if cs.isEmpty then none
  else cs.foldlM (fun n c => do
    let d ← Json.hexDigit? c
    if d < base then return n * base + d else none) 0

/-- Whether a text is a number with zeros in front, which does not count as one. -/
def isPadded (cs : List Char) : Bool :=
  let cs := match cs with
    | '-' :: cs | '+' :: cs => cs
    | cs => cs
  match cs with
  | '0' :: d :: ds => (d :: ds).all Char.isDigit
  | _ => false

/-- The number that a text without sign writes. -/
def natural? (cs : List Char) : Option Nat :=
  match cs with
  | '0' :: 'x' :: ds => digitsTo? 16 ds
  | '0' :: 'o' :: ds => digitsTo? 8 ds
  | '0' :: 'b' :: ds => digitsTo? 2 ds
  | ds => if isPadded ds then none else digitsTo? 10 ds

/-- The integer that a text writes. -/
def integer? (cs : List Char) : Option Int :=
  match cs with
  | '-' :: ds => (natural? ds).map fun n => -(n : Int)
  | '+' :: ds => (natural? ds).map Int.ofNat
  | ds => (natural? ds).map Int.ofNat

/-- Digits with at most one point among them and an exponent: all digits as one number, and the power of
ten that it is multiplied by. -/
def decimal? (cs : List Char) : Option (Nat × Int) :=
  let (whole, rest) := Json.spanDigits cs
  let (fraction, rest) := match rest with
    | '.' :: rest => Json.spanDigits rest
    | rest => ([], rest)
  let digits := whole ++ fraction
  let scaled (e : Int) := some (Json.wholeValue digits, e - fraction.length)
  let exponent (sign : Int) (ds : List Char) : Option (Nat × Int) :=
    if ds.isEmpty || !ds.all Char.isDigit then none else scaled (sign * Json.wholeValue ds)
  if digits.isEmpty then none
  else match rest with
    | [] => scaled 0
    | 'e' :: '-' :: ds | 'E' :: '-' :: ds => exponent (-1) ds
    | 'e' :: '+' :: ds | 'E' :: '+' :: ds => exponent 1 ds
    | 'e' :: ds | 'E' :: ds => exponent 1 ds
    | _ => none

/-- No floating-point number but zero is written with so many more places before or behind the point. -/
def placesLimit : Nat := 400

/-- The floating-point number next to a number times a power of ten, if there is one. -/
def nearest? (digits : Nat) (exponent : Int) : Option Float :=
  let places := (Nat.toDigits 10 digits).length
  if digits = 0 || exponent + places < -placesLimit then some 0
  else if (placesLimit : Int) < exponent + places then none
  else
    let x := Float.ofScientific digits (exponent < 0) exponent.natAbs
    if x.isFinite then some x else none

/-- The number that a text writes, if it is no integer or shall be none. -/
def real? (cs : List Char) : Option Float :=
  let infinity : Float := 1 / 0
  let infinite := [".inf", ".Inf", ".INF"].map String.toList
  if [".nan", ".NaN", ".NAN"].contains (String.ofList cs) then some (0 / 0)
  else match cs with
    | '-' :: ds =>
      if infinite.contains ds then some (-infinity)
      else (decimal? ds).bind fun (n, e) => (nearest? n e).map Float.neg
    | '+' :: ds =>
      if infinite.contains ds then some infinity
      else (decimal? ds).bind fun (n, e) => nearest? n e
    | ds =>
      if infinite.contains ds then some infinity
      else (decimal? ds).bind fun (n, e) => nearest? n e

/-- The value of an integer, if it fits in 64 bits, with a sign or without one. -/
def ofInteger? (n : Int) : Option Value :=
  if -(Nat.pow 2 63 : Int) ≤ n ∧ n < Nat.pow 2 64 then some (.integer n) else none

/-- Whether an integer fits in 128 bits, with a sign or without one. -/
def isWide (n : Int) : Bool := -(Nat.pow 2 127 : Int) ≤ n && n < Nat.pow 2 128

/-- The value of a plain scalar. An integer that needs more than 64 bits has none, unless it needs more
than 128 bits: then it is another number, or a text. -/
def ofPlain? (s : String) : Option Value :=
  if s = "" || isNull s then some .null
  else match bool? s with
    | some b => some (.bool b)
    | none =>
      match (integer? s.toList).filter isWide with
      | some n => ofInteger? n
      | none =>
        match if isPadded s.toList then none else real? s.toList with
        | some x => some (.real x)
        | none => some (.text s)

/-! ## Tags -/

/-- The tag of a type that every text knows. -/
def coreTag (type : String) : String := "tag:yaml.org,2002:" ++ type

/-- The value of a scalar with a tag that is not its own: a known type has to fit, and else it is a
text. -/
def ofCore? (tag text : String) : Option Value :=
  if tag = coreTag "bool" then (bool? text).map .bool
  else if tag = coreTag "int" then ((integer? text.toList).filter isWide).bind ofInteger?
  else if tag = coreTag "float" then (real? text.toList).map .real
  else if tag = coreTag "null" then if isNull text then some .null else none
  else some (.text text)

/-- The tag that a value keeps: what follows the exclamation mark. -/
def ownTag? (tag : Option String) : Option String :=
  match tag.map String.toList with
  | some ('!' :: name) => some (String.ofList name)
  | _ => none

/-- The value of a scalar. -/
def ofScalar? (tag : Option String) (text : String) (plain : Bool) : Option Value :=
  let untagged := if plain then ofPlain? text else some (.text text)
  match tag, ownTag? tag with
  | none, _ | _, some _ => untagged
  | some tag, none => ofCore? tag text

/-- The value with its tag, if it keeps one; a tag has to have a name. -/
def withTag? (tag : Option String) (v : Value) : Option Value :=
  match ownTag? tag with
  | some "" => none
  | some name => some (.tagged name v)
  | none => some v

/-- The value without its tags. -/
def untag : Value → Value
  | .tagged _ v => untag v
  | v => v

/-! ## Keys -/

mutual

/-- Whether two values are the same key. Entries of mappings may stand in any order. -/
def same : Value → Value → Bool
  | .null, .null => true
  | .bool a, .bool b => a = b
  | .integer a, .integer b => a = b
  | .real a, .real b => a == b || (a.isNaN && b.isNaN)
  | .text a, .text b => a = b
  | .list as, .list bs => sameItems as bs
  | .mapping as, .mapping bs => as.length = bs.length && entriesIn as bs
  | .tagged s a, .tagged t b => s = t && same a b
  | _, _ => false

/-- Whether two lists have the same items. -/
def sameItems : List Value → List Value → Bool
  | [], [] => true
  | a :: as, b :: bs => same a b && sameItems as bs
  | _, _ => false

/-- Whether all entries are among others. -/
def entriesIn : List (Value × Value) → List (Value × Value) → Bool
  | [], _ => true
  | (k, v) :: es, bs => bs.any (fun e => same k e.1 && same v e.2) && entriesIn es bs

end

/-- Whether a key occurs among entries. -/
def hasKey (k : Value) (entries : List (Value × Value)) : Bool := entries.any fun e => same k e.1

example : integer? "0x1F".toList = some 31 ∧ integer? "007".toList = none ∧
    integer? "-0o7".toList = some (-7) ∧ isWide 18446744073709551616 = true := by decide +kernel

end Value

end PowerGrant.Yaml
