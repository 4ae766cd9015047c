import PowerGrant.Text.Pem

/-!
# Sections line by line

A stricter reading of sections of keys and certificates: what begins or ends one is at the start of a
line, and what begins has to end. Sections with labels that are not asked for are read, but do not count.

* `pemLines?`: the sections with given labels, if all sections are in order.
-/

namespace PowerGrant.Text

namespace PemLines

/-- Whether a character ends a line. -/
def isLineEnd (c : Char) : Bool := c = '\n' || c = '\r'

/-- The lines of a text, each with its end. -/
def ofChars : List Char → List (List Char)
  | [] => []
  | c :: cs =>
    if isLineEnd c then [c] :: ofChars cs
    else match ofChars cs with
      | [] => [[c]]
      | line :: lines => (c :: line) :: lines

/-- Whether a character does not count at the end of a line. -/
def isPadding (c : Char) : Bool := isLineEnd c || c = ' '

/-- The line without what does not count at its end. -/
def content (line : List Char) : List Char := (line.reverse.dropWhile isPadding).reverse

/-- The label of the section that a line begins, with five dashes at its end. -/
def label? (line : List Char) : Option (List Char) :=
  let tail := line.reverse.takeWhile fun c => c = '-' || isPadding c
  let dashes := tail.reverse.dropWhile (· ≠ '-')
  if dashes.count '-' = 5 then
    some ((line.take (line.length - dashes.length)).drop PemSection.opening.length)
  else none

/-- The bytes of a text in base 64 that need not be filled up. -/
def bytes? (data : List Char) : Option (List UInt8) :=
  base64Decode? (data ++ List.replicate ((4 - data.length % 4) % 4) '=')

/-- How far lines are read. -/
structure Reading where
  /-- The label of the section that has begun. -/
  label : Option (List Char) := none
  /-- What its lines hold so far. -/
  data : List Char := []
  /-- The sections so far, the last first. -/
  sections : List PemSection := []
  deriving DecidableEq, Repr, Inhabited

/-- Reads one more line; sections with other labels than these do not count. -/
def Reading.step? (labels : List (List Char)) (r : Reading) (line : List Char) : Option Reading :=
  if PemSection.opening.isPrefixOf line then (label? line).map fun label => { r with label }
  else match r.label with
    | none => some r
    | some label =>
      if (PemSection.closing ++ label ++ PemSection.dashes).isPrefixOf line then do
        let bytes ← bytes? r.data
        let sections := if labels.contains label then ⟨label, bytes⟩ :: r.sections else r.sections
        return { sections }
      else some { r with data := r.data ++ content line }

end PemLines

/-- The sections of a text that have one of these labels, if all sections are in order. -/
def pemLines? (labels : List (List Char)) (cs : List Char) : Option (List PemSection) :=
  match (PemLines.ofChars cs).foldlM (PemLines.Reading.step? labels) {} with
  | some { label := none, sections, .. } => some sections.reverse
  | _ => none

namespace PemLines

example : pemLines? ["A".toList] "x\n-----BEGIN A-----\naGk\n-----END A-----\n".toList =
    some [⟨"A".toList, [0x68, 0x69]⟩] := by decide +kernel

example : pemLines? ["A".toList] "-----BEGIN A-----\naGk=\n".toList = none ∧
    pemLines? ["A".toList] "-----BEGIN B-----\naGk=\n-----END B-----\n".toList = some [] := by
  decide +kernel

end PemLines

end PowerGrant.Text
