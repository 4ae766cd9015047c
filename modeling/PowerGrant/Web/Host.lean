import PowerGrant.Text.Cut
import PowerGrant.Web.HostName

/-!
# Hosts

A host is an address of 32 bits, an address of 128 bits between brackets, or a name. A name whose last
part is a number has to be an address of 32 bits: up to four numbers between dots, each decimal, octal
behind a `0` or hexadecimal behind `0x`, of which the last one fills all the bytes that are left.

* `Host.ofChars?`: the host that a text writes.
* `Host.lookUp?`: the address of the host with a name.
* `Host.ip?`: the address of a host as it is written before a port.
-/

namespace PowerGrant.Web

/-- A host. -/
inductive Host where
  | v4 (value : Nat)
  | v6 (pieces : List Nat)
  | name (text : List Char)
  deriving DecidableEq, Repr, Inhabited

namespace Host

/-! ## Addresses of 32 bits -/

/-- The value of digits to a base. -/
def digitsTo? (base : Nat) (cs : List Char) : Option Nat :=
  cs.foldlM (fun n c => do
    let d ← Json.hexDigit? c
    if d < base then return n * base + d else none) 0

/-- The number that a part of an address writes. -/
def number? : List Char → Option Nat
  | [] => none
  | '0' :: 'x' :: cs => digitsTo? 16 cs
  | '0' :: c :: cs => digitsTo? 8 (c :: cs)
  | cs => digitsTo? 10 cs

/-- The parts of a name; a dot at its end does not count. -/
def parts (cs : List Char) : List (List Char) :=
  let ps := Text.pieces '.' cs
  if 1 < ps.length && ps.getLast? = some [] then ps.dropLast else ps

/-- Whether the last part of a name is a number, though perhaps one that cannot be read. -/
def endsInNumber (cs : List Char) : Bool :=
  match (parts cs).getLast? with
  | some last => (!last.isEmpty && last.all Char.isDigit) || (number? last).isSome
  | none => false

/-- The address that numbers make: each but the last is a byte, and the last one is what is left. -/
def v4OfNumbers? (ns : List Nat) : Option Nat :=
  match ns.reverse with
  | [] => none
  | last :: bytes =>
    if bytes.length ≤ 3 && bytes.all (· < 256) && last < Nat.pow 256 (4 - bytes.length) then
      some (ns.dropLast.foldl (fun n b => n * 256 + b) 0 * Nat.pow 256 (4 - bytes.length) + last)
    else none

/-- The address of 32 bits that a text writes. -/
def v4? (cs : List Char) : Option Nat :=
  ((parts cs).mapM number?).bind v4OfNumbers?

/-- The bytes of an address of 32 bits. -/
def v4Bytes (n : Nat) : List Nat :=
  [n / 16777216 % 256, n / 65536 % 256, n / 256 % 256, n % 256]

/-- An address of 32 bits as four numbers between dots. -/
def v4Text (n : Nat) : String := ".".intercalate ((v4Bytes n).map toString)

/-! ## Addresses of 128 bits -/

/-- A byte in decimal digits, without zeros in front. -/
def byte? (cs : List Char) : Option Nat :=
  match cs with
  | [] => none
  | '0' :: _ :: _ => none
  | cs => (digitsTo? 10 cs).filter (· < 256)

/-- The pieces of 16 bits that a group writes; the last group may be an address of 32 bits. -/
def group? (last : Bool) (cs : List Char) : Option (List Nat) :=
  if last && cs.contains '.' then
    match (Text.pieces '.' cs).mapM byte? with
    | some [a, b, c, d] => some [a * 256 + b, c * 256 + d]
    | _ => none
  else if cs.isEmpty || 4 < cs.length then none
  else (digitsTo? 16 cs).map ([·])

/-- The pieces of groups between colons; none without any text. -/
def groups? (last : Bool) (cs : List Char) : Option (List Nat) :=
  if cs.isEmpty then some []
  else
    let gs := Text.pieces ':' cs
    (gs.zipIdx.mapM fun (g, i) => group? (last && i + 1 = gs.length) g).map List.flatten

/-- The address of 128 bits that a text writes; two colons stand for as many zeros as are missing. -/
def v6? (cs : List Char) : Option (List Nat) :=
  match Text.cutText? [':', ':'] cs with
  | none => (groups? true cs).filter fun ps => ps.length = 8
  | some (before, after) => do
    let before ← groups? false before
    let after ← groups? true after
    let given := before.length + after.length
    if given ≤ 7 then return before ++ List.replicate (8 - given) 0 ++ after else none

/-- The first of the longest runs of zeros: where it begins and how long it is. -/
def zeroRun (ps : List Nat) : Nat × Nat :=
  (List.range ps.length).foldl (fun best i =>
    let run := ((ps.drop i).takeWhile (· = 0)).length
    if best.2 < run then (i, run) else best) (0, 0)

/-- A piece in hexadecimal digits. -/
def pieceText (n : Nat) : String := String.ofList (Nat.toDigits 16 n)

/-- An address of 128 bits; a run of zeros is left out, and the last part of one that stands for an
address of 32 bits is written like that. -/
def v6Text (ps : List Nat) : String :=
  match ps with
  | [0, 0, 0, 0, 0, 0xFFFF, high, low] => s!"::ffff:{v4Text (high * 65536 + low)}"
  | ps =>
    let text (qs : List Nat) : String := ":".intercalate (qs.map pieceText)
    match zeroRun ps with
    | (start, length) =>
      if length < 2 then text ps
      else s!"{text (ps.take start)}::{text (ps.drop (start + length))}"

/-! ## Hosts -/

/-- The host that a text writes. -/
def ofChars? (cs : List Char) : Option Host :=
  match cs with
  | '[' :: rest =>
    if rest.getLast? = some ']' then (v6? rest.dropLast).map .v6 else none
  | cs => do
    let name ← HostName.fold? cs
    if endsInNumber name then return .v4 (← v4? name) else return .name name

/-- The name of the host that everybody is to himself. -/
def ownName : List Char := "localhost".toList

/-- The address of the host that everybody is to himself. -/
def ownAddress : Nat := 0x7F000001

/-- The host itself, as it is written before a port. -/
def text : Host → String
  | .v4 n => v4Text n
  | .v6 ps => s!"[{v6Text ps}]"
  | .name text => String.ofList text

/-- The address of the host with a name, which may be an address in any form. The only other name that is
known is the own one. -/
def lookUp? (cs : List Char) : Option Host :=
  match cs.map Char.toLower with
  | '[' :: rest => ofChars? ('[' :: rest)
  | cs =>
    if cs = ownName then some (.v4 ownAddress)
    else if cs.getLast? = some '.' then none
    else (v4? cs).map .v4

/-- The address of a host, as it is written before a port. -/
def ip? : Host → Option String
  | .name text => (lookUp? text).map Host.text
  | host => some host.text

example : v4? "127.1".toList = some ownAddress ∧ v4? "0x7f.0.0.1".toList = some ownAddress ∧
    v4? "0177.0.0.1.".toList = some ownAddress ∧ v4? "256.1.1.1".toList = none := by decide +kernel

example : (v6? "::1".toList).map v6Text = some "::1" ∧
    (v6? "1:0:0:2:0:0:0:3".toList).map v6Text = some "1:0:0:2::3" ∧
    v6? "1::2::3".toList = none ∧ v6? ":1".toList = none := by decide +kernel

end Host

end PowerGrant.Web
