import PowerGrant.Text.Percent
import PowerGrant.Yaml.Cursor

/-!
# Tokens of YAML

The smallest parts of a YAML text that mean something, and the reading of the short ones: directives,
anchors and tags.

* `Token`: the tokens.
* `readDirective?`, `readAnchor?`, `readTag?`: the token at a cursor, behind its first character in the
  case of an anchor, and the place behind it.
-/

namespace PowerGrant.Yaml

/-- A part of a text. -/
inductive Token where
  /-- The version of the language. -/
  | version (major minor : Nat)
  /-- What a handle of tags stands for. -/
  | handle (name stem : String)
  | documentStart
  | documentEnd
  /-- The start of a list whose items are lines. -/
  | listStart
  /-- The start of a mapping whose entries are lines. -/
  | mappingStart
  /-- The end of such a list or mapping. -/
  | blockEnd
  | openList
  | closeList
  | openMapping
  | closeMapping
  /-- A dash before an item. -/
  | item
  | comma
  | key
  | value
  | alias (name : String)
  | anchor (name : String)
  | tag (handle suffix : String)
  | scalar (text : String) (plain : Bool)
  deriving DecidableEq, Repr, Inhabited

/-! ## Anchors -/

/-- Whether an anchor may end before this text. -/
def endsAnchor (cs : List Char) : Bool :=
  atGap cs || cs.head?.any ("?:,]\x7d%@\x60".toList.contains ·)

/-- The name of an anchor, and the place behind it. -/
def readAnchor? (c : Cursor) : Option (String × Cursor) :=
  let (name, c) := c.spanWhile inName
  if name.isEmpty || !endsAnchor c.rest then none else some (String.ofList name, c)

/-! ## Tags -/

/-- Whether a character may stand in a tag, outside of angle brackets or between them. -/
def inTag (bracketed : Bool) (c : Char) : Bool :=
  inName c || ";/?:@&=+$.%!~*'()".toList.contains c || (bracketed && ",[]".toList.contains c)

/-- The handle of a tag and the place behind it: an exclamation mark, or a name between two of them. What
begins like a handle but is none is read, too. -/
def readHandle? (c : Cursor) : Option (List Char × Cursor) :=
  match c.rest with
  | '!' :: _ =>
    let (name, c) := (c.skip 1).spanWhile inName
    match c.rest with
    | '!' :: _ => some ('!' :: name ++ ['!'], c.skip 1)
    | _ => some ('!' :: name, c)
  | _ => none

/-- Whether every percent sign is followed by two digits. -/
def escapesAreWhole : List Char → Bool
  | '%' :: a :: b :: cs =>
    (Json.hexDigit? a).isSome && (Json.hexDigit? b).isSome && escapesAreWhole cs
  | '%' :: _ => false
  | _ :: cs => escapesAreWhole cs
  | [] => true

/-- The text of a tag in which escapes are read. -/
def tagText? (cs : List Char) : Option String :=
  if escapesAreWhole cs then String.fromUTF8? ⟨(Text.percentDecode cs).toArray⟩ else none

/-- The rest of a tag, of which `head` has been read, and the place behind it. -/
def readTagRest? (bracketed : Bool) (head : List Char) (c : Cursor) : Option (String × Cursor) := do
  let (cs, c) := c.spanWhile (inTag bracketed)
  if head.isEmpty && cs.isEmpty then none
  else return (String.ofList (head.drop 1) ++ (← tagText? cs), c)

/-- The handle and the suffix of a tag, and the place behind it. A lone exclamation mark is a suffix
without a handle, and so is a whole tag in angle brackets. -/
def readTagParts? (c : Cursor) : Option ((String × String) × Cursor) :=
  match c.rest with
  | '!' :: '<' :: _ => do
    let (suffix, c) ← readTagRest? true [] (c.skip 2)
    match c.rest with
    | '>' :: _ => return (("", suffix), c.skip 1)
    | _ => none
  | _ => do
    let (handle, c) ← readHandle? c
    if 1 < handle.length && handle.getLast? = some '!' then
      let (suffix, c) ← readTagRest? false [] c
      return ((String.ofList handle, suffix), c)
    else
      let (suffix, c) ← readTagRest? false handle c
      if suffix = "" then return (("", "!"), c) else return (("!", suffix), c)

/-- The tag at a cursor, and the place behind it. -/
def readTag? (bracketed : Bool) (c : Cursor) : Option (Token × Cursor) := do
  let ((handle, suffix), c) ← readTagParts? c
  if atGap c.rest || (bracketed && c.rest.head? = some ',') then return (.tag handle suffix, c)
  else none

/-! ## Directives -/

/-- The greatest number of digits in a version. -/
def versionDigits : Nat := 9

/-- A number of a version, and the place behind it. -/
def readVersion? (c : Cursor) : Option (Nat × Cursor) :=
  let (ds, c) := c.spanWhile Char.isDigit
  if ds.isEmpty || versionDigits < ds.length then none else some (Json.wholeValue ds, c)

/-- The directive behind a percent sign, and the place behind its line. -/
def readDirective? (c : Cursor) : Option (Token × Cursor) := do
  let (name, c) := c.spanWhile inName
  if !atGap c.rest then none
  let c := c.skipWhile isSpace
  match String.ofList name with
  | "YAML" =>
    let (major, c) ← readVersion? c
    if c.rest.head? ≠ some '.' then none
    let (minor, c) ← readVersion? (c.skip 1)
    return (.version major minor, ← c.endLine?)
  | "TAG" =>
    let (handle, c) ← readHandle? c
    if handle ≠ ['!'] && handle.getLast? ≠ some '!' then none
    if !c.rest.head?.any isSpace then none
    let (stem, c) ← readTagRest? true [] (c.skipWhile isSpace)
    if !atGap c.rest then none
    return (.handle (String.ofList handle) stem, ← c.endLine?)
  | _ => none

example : (readTag? false ⟨"!e!x%21 a".toList, 0, 0, 0⟩).map Prod.fst = some (.tag "!e!" "x!") ∧
    (readTag? false ⟨"!x a".toList, 0, 0, 0⟩).map Prod.fst = some (.tag "!" "x") ∧
    (readTag? false ⟨"! a".toList, 0, 0, 0⟩).map Prod.fst = some (.tag "" "!") := by decide +kernel

end PowerGrant.Yaml
