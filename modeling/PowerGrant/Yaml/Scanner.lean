import PowerGrant.Yaml.Scalar
import PowerGrant.Yaml.Token

/-!
# From YAML text to tokens

The tokens of a text in their order. What is nested by indentation gets tokens for its start and its
end: a line that begins further to the right than the lists and mappings around it starts one, and a line
that begins further to the left ends them.

A key is only known as one when the colon behind it is read. Until then its place is kept in mind, and
the token for it, and the start of its mapping, are put in later. A key has to stand on one line with its
colon, with not too much between them.

* `Scan`: how far a text is read.
* `tokens?`: the tokens of a text.
-/

namespace PowerGrant.Yaml

/-- The place of what may be a key. -/
structure KeyPlace where
  /-- How many tokens stand before it. -/
  number : Nat
  /-- Where it begins. -/
  start : Cursor
  /-- Whether it has to be a key, because it stands where an entry of a mapping has to begin. -/
  required : Bool
  deriving DecidableEq, Repr, Inhabited

/-- How far a text is read. -/
structure Scan where
  cursor : Cursor
  /-- The tokens so far, the last first. -/
  tokens : List Token := []
  /-- The columns of the lists and mappings that lines are nested in, the inmost first. -/
  columns : List Nat := []
  /-- What may be a key within the inmost brackets. -/
  key : Option KeyPlace := none
  /-- What may be a key outside of them, one for each pair of brackets. -/
  outerKeys : List (Option KeyPlace) := []
  /-- Whether a key may begin here. -/
  keyAllowed : Bool := true
  deriving Inhabited

namespace Scan

/-- Whether a bracket is open. -/
def bracketed (s : Scan) : Bool := !s.outerKeys.isEmpty

/-- Puts a token behind the others. -/
def push (s : Scan) (t : Token) : Scan := { s with tokens := t :: s.tokens }

/-- Puts a token behind so many others. -/
def insert (s : Scan) (number : Nat) (t : Token) : Scan :=
  { s with tokens := s.tokens.insertIdx (s.tokens.length - number) t }

/-- Reads a token of so many characters. -/
def take (s : Scan) (n : Nat) (t : Token) : Scan := { s with cursor := s.cursor.skip n }.push t

/-! ## Nesting by indentation -/

/-- Starts a list or a mapping at a column, if that is further to the right than what is around. -/
def nest (s : Scan) (column number : Nat) (t : Token) : Scan :=
  if s.bracketed || !s.columns.head?.all (· < column) then s
  else { s.insert number t with columns := column :: s.columns }

/-- Starts a list or a mapping here, if what is around begins further to the left. -/
def nestHere (s : Scan) (t : Token) : Scan := s.nest s.cursor.column s.tokens.length t

/-- Ends the lists and mappings of which a test on their columns tells that they end. -/
def unnest (s : Scan) (ends : Nat → Bool) : Scan :=
  if s.bracketed then s
  else
    { s with
      tokens := List.replicate (s.columns.takeWhile ends).length .blockEnd ++ s.tokens
      columns := s.columns.dropWhile ends }

/-! ## What may be a key -/

/-- The greatest distance between the start of a key and its colon. -/
def keyLength : Nat := 1024

/-- What may be a key, unless it is too far from a cursor; what has to be one may not be. -/
def recent? (c : Cursor) : Option KeyPlace → Option (Option KeyPlace)
  | some k =>
    if k.start.line < c.line || k.start.index + keyLength < c.index then
      if k.required then none else some none
    else some (some k)
  | none => some none

/-- Gives up what is too far away to be a key. -/
def dropStale? (s : Scan) : Option Scan := do
  return { s with
    key := ← recent? s.cursor s.key
    outerKeys := ← s.outerKeys.mapM (recent? s.cursor) }

/-- Gives up what may be a key; what has to be one may not be given up. -/
def dropKey? (s : Scan) : Option Scan :=
  if s.key.any KeyPlace.required then none else some { s with key := none }

/-- Keeps in mind that a key may begin here. -/
def markKey? (s : Scan) : Option Scan :=
  if s.keyAllowed then do
    let s ← s.dropKey?
    let required := !s.bracketed && s.columns.head? = some s.cursor.column
    return { s with key := some ⟨s.tokens.length, s.cursor, required⟩ }
  else some s

/-! ## Blanks and comments -/

/-- Goes on to the next place where something stands. Tabs are no indentation, and a mark for the order of
bytes may stand at the start of a line. -/
def skipGap : Nat → Scan → Scan
  | 0, s => s
  | fuel + 1, s =>
    let c := s.cursor
    let c := if c.column = 0 && c.rest.head? = some '\uFEFF' then c.skip 1 else c
    let tabs := s.bracketed || !s.keyAllowed
    let c := (c.skipWhile fun b => b = ' ' || (tabs && b = '\t')).skipComment
    if c.rest.head?.any isBreak then
      skipGap fuel { s with cursor := c.readBreak.2, keyAllowed := !s.bracketed || s.keyAllowed }
    else { s with cursor := c }

/-! ## Tokens -/

/-- The end of the text. -/
def finish? (s : Scan) : Option Scan := (s.unnest fun _ => true).dropKey?

/-- Ends all that is open by indentation; a key may not begin. -/
def closeAll? (s : Scan) : Option Scan := do
  return { ← s.finish? with keyAllowed := false }

/-- A directive. -/
def directive? (s : Scan) : Option Scan := do
  let s ← s.closeAll?
  let (t, cursor) ← readDirective? (s.cursor.skip 1)
  return { s with cursor }.push t

/-- The start or the end of a document. -/
def mark? (s : Scan) (t : Token) : Option Scan := do
  return (← s.closeAll?).take 3 t

/-- An opening bracket. -/
def openBracket? (s : Scan) (t : Token) : Option Scan := do
  let s ← s.markKey?
  return { s with key := none, outerKeys := s.key :: s.outerKeys, keyAllowed := true }.take 1 t

/-- A closing bracket. -/
def closeBracket? (s : Scan) (t : Token) : Option Scan := do
  let s ← s.dropKey?
  let s := match s.outerKeys with
    | key :: outerKeys => { s with key, outerKeys }
    | [] => s
  return { s with keyAllowed := false }.take 1 t

/-- A comma between brackets. -/
def comma? (s : Scan) : Option Scan := do
  return { ← s.dropKey? with keyAllowed := true }.take 1 .comma

/-- A dash before an item. -/
def item? (s : Scan) : Option Scan := do
  if !s.bracketed && !s.keyAllowed then none
  return { ← (s.nestHere .listStart).dropKey? with keyAllowed := true }.take 1 .item

/-- A question mark before a key. -/
def key? (s : Scan) : Option Scan := do
  if !s.bracketed && !s.keyAllowed then none
  return { ← (s.nestHere .mappingStart).dropKey? with keyAllowed := !s.bracketed }.take 1 .key

/-- A colon before a value: what may have been a key is one. -/
def value? (s : Scan) : Option Scan :=
  match s.key with
  | some k =>
    let s := (s.insert k.number .key).nest k.start.column k.number .mappingStart
    some ({ s with key := none, keyAllowed := false }.take 1 .value)
  | none =>
    if !s.bracketed && !s.keyAllowed then none
    else some ({ s.nestHere .mappingStart with keyAllowed := !s.bracketed }.take 1 .value)

/-- An anchor or an alias. -/
def anchor? (s : Scan) (t : String → Token) : Option Scan := do
  let s ← s.markKey?
  let (name, cursor) ← readAnchor? (s.cursor.skip 1)
  return { s with cursor, keyAllowed := false }.push (t name)

/-- A tag. -/
def tag? (s : Scan) : Option Scan := do
  let s ← s.markKey?
  let (t, cursor) ← readTag? s.bracketed s.cursor
  return { s with cursor, keyAllowed := false }.push t

/-- A block of lines. -/
def block? (s : Scan) (folded : Bool) : Option Scan := do
  let s ← s.dropKey?
  let (text, cursor) ← readBlock? folded s.columns.head? (s.cursor.skip 1)
  return { s with cursor, keyAllowed := true }.push (.scalar (String.ofList text) false)

/-- A scalar in quotes. -/
def quoted? (s : Scan) (double : Bool) : Option Scan := do
  let s ← s.markKey?
  let (text, cursor) ← readQuoted? double (s.cursor.skip 1)
  return { s with cursor, keyAllowed := false }.push (.scalar (String.ofList text) false)

/-- A plain scalar; a key may begin on a line after it. -/
def plain? (s : Scan) : Option Scan := do
  let s ← s.markKey?
  let indent := s.columns.head?.elim 0 (· + 1)
  let (text, keyAllowed, cursor) ← readPlain? s.bracketed indent s.cursor
  return { s with cursor, keyAllowed }.push (.scalar (String.ofList text) true)

/-- Reads the token at a place where something stands. -/
def token? (s : Scan) : Option Scan :=
  let c := s.cursor
  match c.rest with
  | [] => none
  | first :: rest =>
    if c.column = 0 && first = '%' then s.directive?
    else if c.atMark '-' then s.mark? .documentStart
    else if c.atMark '.' then s.mark? .documentEnd
    else if first = '[' then s.openBracket? .openList
    else if first = '\x7b' then s.openBracket? .openMapping
    else if first = ']' then s.closeBracket? .closeList
    else if first = '\x7d' then s.closeBracket? .closeMapping
    else if first = ',' then s.comma?
    else if first = '-' && atGap rest then s.item?
    else if first = '?' && (s.bracketed || atGap rest) then s.key?
    else if first = ':' && (s.bracketed || atGap rest) then s.value?
    else if first = '*' then s.anchor? .alias
    else if first = '&' then s.anchor? .anchor
    else if first = '!' then s.tag?
    else if first = '|' && !s.bracketed then s.block? false
    else if first = '>' && !s.bracketed then s.block? true
    else if first = '\'' then s.quoted? false
    else if first = '"' then s.quoted? true
    else if plainBegins s.bracketed c.rest then s.plain?
    else none

/-- Reads all tokens. -/
def run? : Nat → Scan → Option (List Token)
  | 0, _ => none
  | fuel + 1, s => do
    let s ← (s.skipGap (s.cursor.rest.length + 1)).dropStale?
    let s := s.unnest (s.cursor.column < ·)
    if s.cursor.rest.isEmpty then return (← s.finish?).tokens.reverse
    else run? fuel (← s.token?)

end Scan

/-- The tokens of a text. -/
def tokens? (text : String) : Option (List Token) :=
  let cs := text.toList
  if cs.all isAllowed then Scan.run? (cs.length + 1) { cursor := { rest := cs } } else none

example : tokens? "a: [b, c]\n" = some [.mappingStart, .key, .scalar "a" true, .value, .openList,
    .scalar "b" true, .comma, .scalar "c" true, .closeList, .blockEnd] := by decide +kernel

example : tokens? "- a\n- b: 1\n  c: 2\n" = some [.listStart, .item, .scalar "a" true, .item,
    .mappingStart, .key, .scalar "b" true, .value, .scalar "1" true, .key, .scalar "c" true, .value,
    .scalar "2" true, .blockEnd, .blockEnd] := by decide +kernel

end PowerGrant.Yaml
