import PowerGrant.Text.Blank
import PowerGrant.Text.Cut
import PowerGrant.Text.Numeral

/-!
# Quantities of CPUs

A quantity is a decimal number with an optional scale, such as `2`, `1.5`, `2000m` or `1Ki`.
`wholeCpus` gives the number of CPUs it stands for if that is a whole number: a fraction is never
rounded. The digits without their point, times the numerator of the scale, have to stay below
`2 ^ 128`, and so has the denominator.
-/

namespace PowerGrant

namespace Quantity

/-- A factor by which a suffix multiplies. -/
structure Scale where
  num : Nat
  den : Nat
  deriving DecidableEq, Repr

/-- The scale `base ^ n`. -/
def Scale.power (base n : Nat) : Scale := ⟨Nat.pow base n, 1⟩

/-- The scale by which a power of ten divides. -/
def Scale.tenth (n : Nat) : Scale := ⟨1, Nat.pow 10 n⟩

/-- The suffixes of quantities with their factors. -/
def scales : List (String × Scale) :=
  [("", .power 10 0), ("n", .tenth 9), ("u", .tenth 6), ("m", .tenth 3), ("k", .power 10 3),
    ("M", .power 10 6), ("G", .power 10 9), ("T", .power 10 12), ("P", .power 10 15),
    ("E", .power 10 18), ("Ki", .power 2 10), ("Mi", .power 2 20), ("Gi", .power 2 30),
    ("Ti", .power 2 40), ("Pi", .power 2 50), ("Ei", .power 2 60)]

/-- Whether a character can be part of a quantity's number. -/
def inNumber (c : Char) : Bool :=
  (Text.digit? c).isSome || c = '.'

/-- The number's digits before and after its first point. -/
def parts (number : List Char) : List Char × List Char :=
  (Text.cut? '.' number).getD (number, [])

/-- Products and powers have to stay below this. -/
def limit : Nat := Nat.pow 2 128

/-- `n`, if it stays below the limit. -/
def checked (n : Nat) : Option Nat :=
  if n < limit then some n else none

end Quantity

open Quantity in
/-- The whole number of CPUs that a quantity stands for, if it stands for one below `2 ^ 64`. -/
def wholeCpus (quantity : String) : Option Nat := do
  let cs := Text.trim quantity.toList
  let scale ← scales.lookup (String.ofList (cs.dropWhile inNumber))
  let (whole, fraction) := parts (cs.takeWhile inNumber)
  let digits := whole ++ fraction
  let mantissa ← (Text.readBelow limit digits).toOption
  let places ← checked (Nat.pow 10 fraction.length)
  let num ← checked (mantissa * scale.num)
  let den ← checked (places * scale.den)
  if num % den = 0 ∧ num / den < UInt64.size then some (num / den) else none

end PowerGrant
