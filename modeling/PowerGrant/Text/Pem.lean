import PowerGrant.Text.Base64
import PowerGrant.Text.Blank
import PowerGrant.Text.Cut

/-!
# Sections of keys and certificates

Keys and certificates are kept in text as sections: a line that says what begins, the bytes in base 64,
and a line that says what ends. What stands between sections does not count, nor does one that does not
end.

* `pemSections?`: the sections of a text, if all of them are in order.
-/

namespace PowerGrant.Text

/-- A section. -/
structure PemSection where
  label : List Char
  bytes : List UInt8
  deriving DecidableEq, Repr, Inhabited

namespace PemSection

/-- What stands before a section begins. -/
def opening : List Char := "-----BEGIN ".toList

/-- What stands before a section ends. -/
def closing : List Char := "-----END ".toList

/-- What stands behind a label. -/
def dashes : List Char := "-----".toList

/-- Whether a character counts as a blank around the bytes. -/
def isGap (c : Char) : Bool := c = ' ' || c = '\t' || c = '\n' || c = '\r'

/-- The label of what begins, what stands in it, the label of what ends, and what follows. -/
def split? (cs : List Char) : Option (List Char × List Char × List Char × List Char) := do
  let (_, cs) ← cutText? opening cs
  let (first, cs) ← cutText? dashes cs
  let (body, cs) ← cutText? closing (cs.dropWhile isGap)
  let (last, cs) ← cutText? dashes cs
  return (first, body, last, cs)

/-- The bytes that stand in a section, behind an empty line if it has headers: each of these has a
colon. -/
def bytes? (body : List Char) : Option (List UInt8) :=
  let body := body.filter (· ≠ '\r')
  let (headers, data) := (cutText? ['\n', '\n'] body).getD ([], body)
  let lines := (pieces '\n' headers).filter (!·.isEmpty)
  if lines.all (·.contains ':') then base64Decode? ((pieces '\n' data).flatMap trimEnd) else none

end PemSection

/-- The sections from a place on, of which there are at most so many. -/
def pemSectionsFrom? : Nat → List Char → Option (List PemSection)
  | 0, _ => some []
  | fuel + 1, cs =>
    match PemSection.split? cs with
    | none => some []
    | some (first, body, last, rest) => do
      if first.isEmpty || first ≠ last then none
      return ⟨first, ← PemSection.bytes? body⟩ :: (← pemSectionsFrom? fuel rest)

/-- The sections of a text, if all of them are in order. -/
def pemSections? (cs : List Char) : Option (List PemSection) := pemSectionsFrom? cs.length cs

end PowerGrant.Text
