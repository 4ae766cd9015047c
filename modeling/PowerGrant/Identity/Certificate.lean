import PowerGrant.Text.Der

/-!
# Certificates

A certificate states who holds a key, who vouches for that and how long it is valid, and the statement is
signed. Newer ones have extensions; one that is critical has to be understood.

* `Certificate.isAnchor`: whether bytes are a certificate whose holder can be trusted to vouch for others.
  That does not depend on who signed it.
-/

namespace PowerGrant.Certificate

open Text.Der

/-! ## Extensions -/

/-- An extension. -/
structure Extension where
  name : List UInt8
  critical : Bool
  value : List UInt8
  deriving DecidableEq, Repr, Inhabited

namespace Extension

/-- The truth value of a content. -/
def truth? : List UInt8 → Option Bool
  | [0xFF] => some true
  | [0x00] => some false
  | _ => none

/-- The extension that a content describes; it is not critical unless it says so. -/
def ofContent? (bs : List UInt8) : Option Extension := do
  let (name, bs) ← object? nameMark bs
  let (critical, bs) := optional truthMark bs
  return ⟨name, ← critical.elim (some false) truth?, ← sole? bytesMark bs⟩

/-- The name of the extension with a number among the common ones. -/
def common (n : UInt8) : List UInt8 := [0x55, 0x1D, n]

/-- The extension that tells what the key may be used for. -/
def usage : List UInt8 := common 15

/-- The extensions that are understood: the usage of the key, other names, whether the holder may vouch
for others and for which names, where lists of withdrawn certificates are, and purposes. -/
def understood : List (List UInt8) := usage :: [17, 19, 30, 31, 37].map common

/-- Whether an extension is understood. -/
def isUnderstood (e : Extension) : Bool := understood.contains e.name

/-- Whether an extension does no harm: one that is understood has the form that it should have, and
another one is not critical. -/
def isHarmless (e : Extension) : Bool :=
  if e.isUnderstood then e.name = usage || (sole? sequenceMark e.value).isSome else !e.critical

end Extension

/-- Whether a content is a list of extensions that do no harm, with none that is understood given
twice. -/
def extensionsFit (bs : List UInt8) : Bool :=
  match ((sole? sequenceMark bs).bind (allOf? sequenceMark)).bind (·.mapM Extension.ofContent?) with
  | some es =>
    !es.isEmpty && es.all Extension.isHarmless &&
      ((es.filter Extension.isUnderstood).map Extension.name).Nodup
  | none => false

/-! ## Statements -/

/-- A statement: the algorithm that signs it, and what follows the holder's key. -/
structure Statement where
  algorithm : List UInt8
  rest : List UInt8
  deriving DecidableEq, Repr, Inhabited

/-- The statement in a content behind its version: its number, the algorithm, who vouches, how long it is
valid, the holder and the holder's key. -/
def Statement.ofContent? (bs : List UInt8) : Option Statement :=
  match objects? (integerMark :: List.replicate 5 sequenceMark) bs with
  | some ([_, algorithm, _, _, _, _], rest) => some ⟨algorithm, rest⟩
  | _ => none

/-- The number for the version that has extensions. -/
def extendedVersion : Nat := 2

/-- Whether a content is a statement that is signed with an algorithm. Only the oldest version is not
named; the one with extensions says how it is signed. -/
def isStatement (algorithm bs : List UInt8) : Bool :=
  match object? (partMark 0) bs with
  | none => (Statement.ofContent? bs).any (·.rest.isEmpty)
  | some (version, bs) =>
    (sole? integerMark version).bind natural? = some extendedVersion &&
      (Statement.ofContent? bs).any fun s =>
        s.algorithm = algorithm && (s.rest.isEmpty || (sole? (partMark 3) s.rest).any extensionsFit)

/-- Whether bytes are a certificate whose holder can be trusted to vouch for others. -/
def isAnchor (bs : List UInt8) : Bool :=
  match ((sole? sequenceMark bs).bind (objects? [sequenceMark, sequenceMark, bitsMark])) with
  | some ([statement, algorithm, signature], []) =>
    (wholeBits? signature).isSome && isStatement algorithm statement
  | _ => false

end PowerGrant.Certificate
