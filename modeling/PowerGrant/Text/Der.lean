/-!
# Encoded objects

Certificates and keys are kept as bytes in which each object has a mark for its kind, its length and its
content, which may consist of objects itself. A length is written in as few bytes as possible.

* `object?`: the content of the object of a kind that comes first, and what follows it.
* `sole?`: the content of an object with nothing behind it.
-/

namespace PowerGrant.Text.Der

/-! ## Marks of kinds -/

/-- The mark of truth values. -/
def truthMark : UInt8 := 0x01

/-- The mark of integers. -/
def integerMark : UInt8 := 0x02

/-- The mark of bits. -/
def bitsMark : UInt8 := 0x03

/-- The mark of bytes. -/
def bytesMark : UInt8 := 0x04

/-- The mark of names of things. -/
def nameMark : UInt8 := 0x06

/-- The mark of objects that consist of others. -/
def sequenceMark : UInt8 := 0x30

/-- The mark of the part with a number, where some parts may be left out. -/
def partMark (n : UInt8) : UInt8 := 0xA0 + n

/-! ## Objects -/

/-- Contents have less bytes. -/
def sizeLimit : Nat := 65535

/-- The number that bytes write. -/
def number (bs : List UInt8) : Nat := bs.foldl (fun n b => n * 256 + b.toNat) 0

/-- A length, and what follows it. -/
def length? : List UInt8 → Option (Nat × List UInt8)
  | b :: bs =>
    if b < 0x80 then some (b.toNat, bs)
    else
      let width := b.toNat - 0x80
      let n := number (bs.take width)
      if width = 1 && 0x80 ≤ n || width = 2 && 0x100 ≤ n && n < sizeLimit then some (n, bs.drop width)
      else none
  | [] => none

/-- The content of the object of a kind that comes first, and what follows it. -/
def object? (mark : UInt8) : List UInt8 → Option (List UInt8 × List UInt8)
  | m :: bs =>
    if m = mark then
      match length? bs with
      | some (n, bs) => if n ≤ bs.length then some (bs.take n, bs.drop n) else none
      | none => none
    else none
  | [] => none

/-- The content of an object of a kind, if there is nothing behind it. -/
def sole? (mark : UInt8) (bs : List UInt8) : Option (List UInt8) :=
  match object? mark bs with
  | some (content, []) => some content
  | _ => none

/-- The contents of objects of these kinds, and what follows them. -/
def objects? : List UInt8 → List UInt8 → Option (List (List UInt8) × List UInt8)
  | [], bs => some ([], bs)
  | mark :: marks, bs => do
    let (content, bs) ← object? mark bs
    let (contents, bs) ← objects? marks bs
    return (content :: contents, bs)

/-- The contents of as many objects of a kind as there are, if there is nothing else. -/
def allOf? (mark : UInt8) (bs : List UInt8) : Option (List (List UInt8)) :=
  go bs.length bs
where
  /-- The contents from a place on, of which there are at most so many. -/
  go : Nat → List UInt8 → Option (List (List UInt8))
  | _, [] => some []
  | 0, _ :: _ => none
  | fuel + 1, bs => do
    let (content, bs) ← object? mark bs
    return content :: (← go fuel bs)

/-- The content of the object of a kind that may come first, and what follows it. -/
def optional (mark : UInt8) (bs : List UInt8) : Option (List UInt8) × List UInt8 :=
  match object? mark bs with
  | some (content, bs) => (some content, bs)
  | none => (none, bs)

/-! ## Contents -/

/-- The number that the content of an integer writes, in as few bytes as possible, unless it is
negative. -/
def natural? : List UInt8 → Option Nat
  | [] => none
  | [b] => if b < 0x80 then some b.toNat else none
  | 0 :: b :: bs => if b < 0x80 then none else some (number (b :: bs))
  | b :: bs => if b < 0x80 then some (number (b :: bs)) else none

/-- The bytes of bits that fill their last byte. -/
def wholeBits? : List UInt8 → Option (List UInt8)
  | 0 :: bs => some bs
  | _ => none

example : object? integerMark [0x02, 0x01, 0x05, 0x09] = some ([0x05], [0x09]) ∧
    object? integerMark [0x02, 0x81, 0x01, 0x05] = none ∧ sole? integerMark [0x02, 0x01] = none ∧
    natural? [0x00, 0x80] = some 128 ∧ natural? [0x00, 0x7F] = none := by decide

end PowerGrant.Text.Der
