import PowerGrant.Json.Reader

/-!
# Values that can be kept

Where a value is read only to be skipped, anything that follows the grammar will do. A value that is to be
kept whatever it is has to be sound as well: its strings are text, its numbers do not exceed what a
floating-point number of 64 bits can hold, and it is not nested too deeply.

* `Json.isSound`: whether a value is sound, if it may be nested so deeply.
-/

namespace PowerGrant.Json

/-- How deep arrays and objects may be nested in a text. -/
def nestingLimit : Nat := 127

/-- A number as it is read: the digits that count, as a number of 64 bits, and the power of ten that it
is multiplied by. -/
structure Scaled where
  digits : Nat := 0
  exponent : Int := 0
  /-- Whether there were more digits than fit. -/
  full : Bool := false
  deriving DecidableEq, Repr, Inhabited

namespace Scaled

/-- One more digit: before the decimal point a digit that does not fit still counts as a place. -/
def push (fraction : Bool) (x : Scaled) (c : Char) : Scaled :=
  let digits := x.digits * 10 + (Text.digit? c).getD 0
  if x.full || UInt64.size ≤ digits then
    { x with exponent := if fraction then x.exponent else x.exponent + 1, full := true }
  else { x with digits, exponent := if fraction then x.exponent - 1 else x.exponent }

/-- The number that digits before and behind a decimal point write. -/
def ofDigits (whole fraction : List Char) : Scaled :=
  let x := whole.foldl (push false) {}
  fraction.foldl (push true) { x with full := false }

/-- The greatest power of ten that a floating-point number holds. -/
def greatestPower : Int := 308

/-- Whether the number is one that a floating-point number can hold, or comes close to. -/
def inRange (x : Scaled) : Bool :=
  if x.digits = 0 || x.exponent < 0 then true
  else if greatestPower < x.exponent then false
  else (x.digits.toUInt64.toFloat * Float.ofScientific 1 false x.exponent.toNat).isFinite

end Scaled

/-- The greatest exponent that is read as a number. -/
def greatestExponent : Nat := 2147483647

/-- Whether the number that a literal writes is in the range of floating-point numbers. -/
def literalInRange (literal : List Char) : Bool :=
  let cs := literal.dropWhile (· = '-')
  let (whole, cs) := spanDigits cs
  let (fraction, cs) := match cs with
    | '.' :: cs => spanDigits cs
    | cs => ([], cs)
  let x := Scaled.ofDigits whole fraction
  match cs with
  | _ :: '-' :: ds =>
    greatestExponent < wholeValue ds || { x with exponent := x.exponent - wholeValue ds }.inRange
  | _ :: ds =>
    let e := wholeValue (ds.dropWhile (· = '+'))
    if greatestExponent < e then x.digits = 0 else { x with exponent := x.exponent + e }.inRange
  | [] => x.inRange

/-- Whether a value can be kept, if it may be nested so deeply. -/
def isSound : Nat → Json → Bool
  | _, .broken => false
  | _, .real literal => literalInRange literal.toList
  | _, .integer n => (Scaled.ofDigits (toString n.natAbs).toList []).inRange
  | depth + 1, .array items => items.all (isSound depth)
  | depth + 1, .object fields => fields.all fun f => isSound depth f.2
  | 0, .array _ | 0, .object _ => false
  | _, _ => true

end PowerGrant.Json
