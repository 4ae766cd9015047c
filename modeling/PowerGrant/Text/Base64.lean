/-!
# Base 64

The text form of bytes in which four characters stand for three bytes. The last group may stand for
fewer: it is filled up with equals signs, and the bits that then stand for nothing are zero.

* `base64Decode?`: the bytes that a text stands for.
-/

namespace PowerGrant.Text

/-- The six bits that a character stands for. -/
def sextet? (c : Char) : Option Nat :=
  if 'A' ≤ c ∧ c ≤ 'Z' then some (c.toNat - 'A'.toNat)
  else if 'a' ≤ c ∧ c ≤ 'z' then some (c.toNat - 'a'.toNat + 26)
  else if '0' ≤ c ∧ c ≤ '9' then some (c.toNat - '0'.toNat + 52)
  else if c = '+' then some 62
  else if c = '/' then some 63
  else none

/-- The first so many bytes of three that a number of 24 bits stands for, if the others are zero. -/
def tripleBytes? (count n : Nat) : Option (List UInt8) :=
  let bytes := [n / 65536, n / 256, n].map UInt8.ofNat
  if (bytes.drop count).all (· = 0) then some (bytes.take count) else none

/-- The number that four groups of six bits make. -/
def joinSextets (a b c d : Nat) : Nat := ((a * 64 + b) * 64 + c) * 64 + d

/-- The bytes that a text in base 64 stands for. -/
def base64Decode? : List Char → Option (List UInt8)
  | [] => some []
  | [a, b, '=', '='] => do
    tripleBytes? 1 (joinSextets (← sextet? a) (← sextet? b) 0 0)
  | [a, b, c, '='] => do
    tripleBytes? 2 (joinSextets (← sextet? a) (← sextet? b) (← sextet? c) 0)
  | a :: b :: c :: d :: rest => do
    let bytes ← tripleBytes? 3
      (joinSextets (← sextet? a) (← sextet? b) (← sextet? c) (← sextet? d))
    return bytes ++ (← base64Decode? rest)
  | _ => none

example : base64Decode? "aGk=".toList = some ['h'.toUInt8, 'i'.toUInt8] ∧
    base64Decode? "aGl=".toList = none ∧ base64Decode? "aGk".toList = none := by decide

end PowerGrant.Text
