import PowerGrant.Text.Der

/-!
# Private keys

A private key consists of the numbers of its algorithm, which may stand on their own or behind the name of
the algorithm. Of the curves that keys may be on, three are known.

* `PrivateKey.isUsable`: whether bytes are a private key that can sign.
-/

namespace PowerGrant.PrivateKey

open Text.Der

/-! ## Keys of two primes -/

/-- How many bits a number has. -/
def bitCount (n : Nat) : Nat := if n = 0 then 0 else n.log2 + 1

/-- Whether numbers are a key of two primes: the modulus is their product and neither too small nor too
large, the exponents are odd, and the last number inverts the smaller prime. -/
def isPrimePair (modulus exponent secret p q inverse : Nat) : Bool :=
  let half := bitCount p
  modulus = p * q && q < p && half = bitCount q && half % 512 = 0 &&
    2047 ≤ bitCount modulus && bitCount modulus ≤ 4096 &&
    65537 ≤ exponent && bitCount exponent ≤ 33 && exponent % 2 = 1 && secret % 2 = 1 &&
    secret < modulus && inverse * q % p = 1

/-- Whether a content is the numbers of such a key. -/
def isPrimePairContent (bs : List UInt8) : Bool :=
  match objects? (List.replicate 9 integerMark) bs with
  | some (numbers, []) =>
    match numbers.mapM natural? with
    | some [0, n, e, d, p, q, _, _, inverse] => isPrimePair n e d p q inverse
    | _ => false
  | _ => false

/-! ## Keys on curves -/

/-- A curve for signatures. -/
structure Curve where
  /-- Its name, as an object. -/
  name : List UInt8
  /-- How many bytes a number on it has. -/
  size : Nat
  deriving DecidableEq, Repr, Inhabited

/-- The curve with numbers of 256 bits. -/
def curve256 : Curve := ⟨[0x06, 0x08, 0x2A, 0x86, 0x48, 0xCE, 0x3D, 0x03, 0x01, 0x07], 32⟩

/-- The curve with numbers of 384 bits. -/
def curve384 : Curve := ⟨[0x06, 0x05, 0x2B, 0x81, 0x04, 0x00, 0x22], 48⟩

/-- The curves that are known. -/
def curves : List Curve := [curve256, curve384]

/-- Whether a content is a key on a curve, with its public point. -/
def isCurveContent (c : Curve) (bs : List UInt8) : Bool :=
  match objects? [integerMark, bytesMark] bs with
  | some ([[1], secret], bs) =>
    let (name, bs) := optional (partMark 0) bs
    let point := ((sole? (partMark 1) bs).bind (sole? bitsMark)).bind wholeBits?
    secret.length = c.size && secret.any (· ≠ 0) && name.all (· = c.name) &&
      point.any fun p => p.head? = some 4 && p.length = 2 * c.size + 1
  | _ => false

/-! ## Keys behind the names of their algorithms -/

/-- The algorithm of two primes, as the content that names it. -/
def primePairAlgorithm : List UInt8 :=
  [0x06, 0x09, 0x2A, 0x86, 0x48, 0x86, 0xF7, 0x0D, 0x01, 0x01, 0x01, 0x05, 0x00]

/-- The name of the algorithm on curves, before the name of the curve. -/
def curveAlgorithm : List UInt8 := [0x06, 0x07, 0x2A, 0x86, 0x48, 0xCE, 0x3D, 0x02, 0x01]

/-- The name of the algorithm on a curve of its own. -/
def edwardsAlgorithm : List UInt8 := [0x06, 0x03, 0x2B, 0x65, 0x70]

/-- How many bytes a key of that algorithm has. -/
def edwardsSize : Nat := 32

/-- Whether a content is a key of a named algorithm. -/
def isNamedContent (algorithm bs : List UInt8) : Bool :=
  let inner := sole? sequenceMark bs
  if algorithm = primePairAlgorithm then inner.any isPrimePairContent
  else if algorithm = edwardsAlgorithm then (sole? bytesMark bs).any (·.length = edwardsSize)
  else (curves.find? fun c => algorithm = curveAlgorithm ++ c.name).any fun c =>
    inner.any (isCurveContent c)

/-- Whether a content is a key behind the name of its algorithm; it may say more. -/
def isNamed (bs : List UInt8) : Bool :=
  match objects? [integerMark, sequenceMark, bytesMark] bs with
  | some ([[0], algorithm, key], bs) =>
    (optional (partMark 0) bs).2.isEmpty && isNamedContent algorithm key
  | _ => false

/-- Whether bytes are a private key that can sign. -/
def isUsable (bs : List UInt8) : Bool :=
  (sole? sequenceMark bs).any fun content =>
    isPrimePairContent content || curves.any (isCurveContent · content) || isNamed content

end PowerGrant.PrivateKey
