import PowerGrant.Json.Reader
import PowerGrant.Yaml.Cursor

/-!
# The text of YAML scalars

A scalar that is quoted, or plain, may go on over several lines, which are folded: a line break stands
for a space, and so many line breaks for one less. A break that only some texts know stays as it is. A
block of lines behind a bar keeps its line breaks, and one behind an angle bracket is folded where lines
are not indented further.

* `readQuoted?`: the text of a scalar behind its opening quote, and the place behind the closing one.
* `readPlain?`: the text of a plain scalar, and the place behind it.
* `readBlock?`: the text of a block of lines behind the sign before it, and the place behind it.

The readers pass on one less of their first argument with each line, or with each stretch of a line.
-/

namespace PowerGrant.Yaml

/-! ## Gaps -/

/-- What stands between two stretches of a scalar: blanks of one line, or line breaks. -/
structure Gap where
  blanks : List Char := []
  /-- Whether a line has ended. -/
  broken : Bool := false
  /-- The first line break, unless it was escaped. -/
  first : List Char := []
  /-- The line breaks after it. -/
  later : List Char := []
  deriving DecidableEq, Repr, Inhabited

namespace Gap

/-- The text that a gap stands for. -/
def text (g : Gap) : List Char :=
  if !g.broken then g.blanks
  else if g.first = ['\n'] then if g.later.isEmpty then [' '] else g.later
  else g.first ++ g.later

/-- The gap after one more line break. -/
def push (g : Gap) (brk : List Char) : Gap :=
  if g.broken then { g with later := g.later ++ brk } else { broken := true, first := brk }

/-- The gap that goes on at a place, and the place behind it. Tabs before the column `indent` of a line
are none of it. -/
def read? (indent : Nat) : Nat → Gap → Cursor → Option (Gap × Cursor)
  | 0, g, c => some (g, c)
  | fuel + 1, g, c =>
    match c.rest with
    | b :: _ =>
      if isSpace b then
        if g.broken && b = '\t' && c.column < indent then none
        else read? indent fuel (if g.broken then g else { g with blanks := g.blanks ++ [b] }) (c.skip 1)
      else if isBreak b then
        let (brk, c) := c.readBreak
        read? indent fuel (g.push brk) c
      else some (g, c)
    | [] => some (g, c)

end Gap

/-! ## Quotes -/

/-- The character that a backslash and another character stand for. -/
def shortEscape? : Char → Option Char
  | '0' => some (Char.ofNat 0)
  | 'a' => some (Char.ofNat 7)
  | 'b' => some (Char.ofNat 8)
  | 't' | '\t' => some '\t'
  | 'n' => some '\n'
  | 'v' => some (Char.ofNat 11)
  | 'f' => some (Char.ofNat 12)
  | 'r' => some '\r'
  | 'e' => some (Char.ofNat 27)
  | ' ' => some ' '
  | '"' => some '"'
  | '/' => some '/'
  | '\\' => some '\\'
  | 'N' => some (Char.ofNat 0x85)
  | '_' => some (Char.ofNat 0xA0)
  | 'L' => some (Char.ofNat 0x2028)
  | 'P' => some (Char.ofNat 0x2029)
  | _ => none

/-- How many hexadecimal digits a character is written with. -/
def longEscape? : Char → Option Nat
  | 'x' => some 2
  | 'u' => some 4
  | 'U' => some 8
  | _ => none

/-- The character whose number so many hexadecimal digits write. -/
def charOfHex? (width : Nat) (ds : List Char) : Option Char := do
  if ds.length ≠ width then none
  let n ← ds.foldlM (fun n d => (Json.hexDigit? d).map (n * 16 + ·)) 0
  if n.isValidChar then some (Char.ofNat n) else none

/-- The characters up to a gap or the closing quote, and the place behind them. After an escaped line
break the gap has begun. -/
def readStretch? (double : Bool) : Nat → List Char → Cursor → Option (List Char × Bool × Cursor)
  | 0, _, _ => none
  | fuel + 1, seen, c =>
    match c.rest with
    | '\'' :: '\'' :: _ =>
      if double then readStretch? double fuel ('\'' :: seen) (c.skip 1)
      else readStretch? double fuel ('\'' :: seen) (c.skip 2)
    | '\\' :: e :: rest =>
      if !double then readStretch? double fuel ('\\' :: seen) (c.skip 1)
      else if isBreak e then some (seen.reverse, true, (c.skip 1).readBreak.2)
      else match longEscape? e with
        | some width => do
          let char ← charOfHex? width (rest.take width)
          readStretch? double fuel (char :: seen) (c.skip (2 + width))
        | none => do
          readStretch? double fuel ((← shortEscape? e) :: seen) (c.skip 2)
    | b :: _ =>
      if isSpace b || isBreak b || b = (if double then '"' else '\'') then
        some (seen.reverse, false, c)
      else if double && b = '\\' then none
      else readStretch? double fuel (b :: seen) (c.skip 1)
    | [] => none

/-- The text of a quoted scalar of which `seen` has been read, and the place behind its closing quote. It
may not hold the marks that begin or end a document. -/
def readQuotedFrom? (double : Bool) : Nat → List Char → Cursor → Option (List Char × Cursor)
  | 0, _, _ => none
  | fuel + 1, seen, c => do
    if c.atDocument then none
    let (stretch, escaped, c) ← readStretch? double (c.rest.length + 1) [] c
    let seen := seen ++ stretch
    if !escaped && c.rest.head? = some (if double then '"' else '\'') then
      return (seen, c.skip 1)
    else
      let (gap, c) ← Gap.read? 0 c.rest.length { broken := escaped } c
      readQuotedFrom? double fuel (seen ++ gap.text) c

/-- The text of a scalar behind its opening quote, and the place behind the closing one. -/
def readQuoted? (double : Bool) (c : Cursor) : Option (List Char × Cursor) :=
  readQuotedFrom? double (c.rest.length + 1) [] c

/-! ## Plain scalars -/

/-- Whether a plain scalar may begin here. -/
def plainBegins (bracketed : Bool) : List Char → Bool
  | [] => false
  | c :: cs =>
    if c = '-' then !atGap cs
    else if c = '?' || c = ':' then !bracketed && !atGap cs
    else !(isSpace c || isBreak c || isBracketSign c || "#&*!|>'\"%@\x60".toList.contains c)

/-- Whether a plain scalar ends before this text. -/
def plainEnds (bracketed : Bool) : List Char → Bool
  | [] => true
  | c :: cs => isSpace c || isBreak c || (c = ':' && atGap cs) || (bracketed && isBracketSign c)

/-- Whether a colon stands where it can neither end a key nor belong to a text. -/
def colonMisplaced (bracketed : Bool) : List Char → Bool
  | ':' :: c :: _ => bracketed && (c = '?' || isBracketSign c)
  | _ => false

/-- The characters of a plain scalar up to a gap or its end, and the place behind them. -/
def readPlainStretch? (bracketed : Bool) : Nat → List Char → Cursor → Option (List Char × Cursor)
  | 0, _, _ => none
  | fuel + 1, seen, c =>
    if colonMisplaced bracketed c.rest then none
    else if plainEnds bracketed c.rest then some (seen.reverse, c)
    else match c.rest with
      | b :: _ => readPlainStretch? bracketed fuel (b :: seen) (c.skip 1)
      | [] => none

/-- The text of a plain scalar of which `seen` and the gap after it have been read, and the place where
the reading ends, which is behind the gap that follows the scalar. The result also tells whether that
gap is broken. -/
def readPlainFrom? (bracketed : Bool) (indent : Nat) :
    Nat → List Char → Gap → Cursor → Option (List Char × Bool × Cursor)
  | 0, _, _, _ => none
  | fuel + 1, seen, gap, c =>
    if c.atDocument || c.rest.head? = some '#' then some (seen, gap.broken, c)
    else do
      let (stretch, c) ← readPlainStretch? bracketed (c.rest.length + 1) [] c
      let (seen, gap) := if stretch.isEmpty then (seen, gap) else (seen ++ gap.text ++ stretch, {})
      if !c.rest.head?.any (fun b => isSpace b || isBreak b) then return (seen, gap.broken, c)
      let (gap, c) ← Gap.read? indent c.rest.length gap c
      if !bracketed && c.column < indent then return (seen, gap.broken, c)
      readPlainFrom? bracketed indent fuel seen gap c

/-- The text of a plain scalar, whether the gap behind it is broken, and the place behind that gap. -/
def readPlain? (bracketed : Bool) (indent : Nat) (c : Cursor) : Option (List Char × Bool × Cursor) :=
  readPlainFrom? bracketed indent (c.rest.length + 1) [] {} c

/-! ## Blocks of lines -/

/-- What happens to the line breaks at the end of a block. -/
inductive Chomping where
  /-- None of them is kept. -/
  | strip
  /-- The first one is kept. -/
  | clip
  /-- All of them are kept. -/
  | keep
  deriving DecidableEq, Repr, Inhabited

/-- The sign for what happens to line breaks. -/
def chomping? : Char → Option Chomping
  | '-' => some .strip
  | '+' => some .keep
  | _ => none

/-- What follows the sign of a block: what happens to its line breaks, and how far it is indented, in
either order. -/
def readBlockHead? (c : Cursor) : Option (Chomping × Option Nat × Cursor) := do
  let width (c : Cursor) : Option (Option Nat × Cursor) :=
    match c.rest with
    | d :: _ =>
      if d = '0' then none
      else if d.isDigit then some (some (d.toNat - '0'.toNat), c.skip 1)
      else some (none, c)
    | [] => some (none, c)
  let chomping (c : Cursor) : Option Chomping × Cursor :=
    match c.rest.head?.bind chomping? with
    | some chomping => (some chomping, c.skip 1)
    | none => (none, c)
  let (first, c) := chomping c
  let (given, c) ← width c
  let (second, c) := if first.isNone && given.isSome then chomping c else (none, c)
  return ((first.or second).getD .clip, given, ← c.endLine?)

/-- The blank lines before a line of a block, as their line breaks, the column that they reach at most,
and the place behind the indentation of that line. A column of 0 is not known yet; a tab is no
indentation. -/
def readBlankLines? (indent : Nat) :
    Nat → List Char → Nat → Cursor → Option (List Char × Nat × Cursor)
  | 0, _, _, _ => none
  | fuel + 1, seen, reached, c =>
    let spaces := (c.rest.takeWhile (· = ' ')).length
    let c := c.skip (if indent = 0 then spaces else min spaces (indent - c.column))
    let reached := max reached c.column
    if (indent = 0 || c.column < indent) && c.rest.head? = some '\t' then none
    else if c.rest.head?.any isBreak then
      let (brk, c) := c.readBreak
      readBlankLines? indent fuel (seen ++ brk) reached c
    else some (seen, reached, c)

/-- The lines of a block from a place on: `seen` is its text so far, `last` the line break before,
`later` those of the blank lines after it, and `deep` tells whether the line before began with a blank.
The result is the text, its last line break and those after it, and the place behind them. -/
def readLines? (folded : Bool) (indent : Nat) : Nat → List Char → List Char → List Char → Bool → Cursor →
    Option (List Char × List Char × List Char × Cursor)
  | 0, _, _, _, _, _ => none
  | fuel + 1, seen, last, later, deep, c =>
    if c.column = indent && !c.rest.isEmpty then do
      let deeper := c.rest.head?.any isSpace
      let joint :=
        if folded && last = ['\n'] && !deep && !deeper then if later.isEmpty then [' '] else later
        else last ++ later
      let (line, c) := c.spanWhile (!isBreak ·)
      let (last, c) := c.readBreak
      let (later, _, c) ← readBlankLines? indent (c.rest.length + 1) [] 0 c
      readLines? folded indent fuel (seen ++ joint ++ line) last later deeper c
    else some (seen, last, later, c)

/-- The text of a block of lines behind the sign before it, and the place behind it. The lines around it
are indented up to the column `outer`, if there are any. -/
def readBlock? (folded : Bool) (outer : Option Nat) (c : Cursor) : Option (List Char × Cursor) := do
  let (chomping, given, c) ← readBlockHead? c
  let indent := given.elim 0 (outer.getD 0 + ·)
  let (later, reached, c) ← readBlankLines? indent (c.rest.length + 1) [] 0 c
  let indent := if indent = 0 then max (max reached (outer.elim 0 (· + 1))) 1 else indent
  let (text, last, later, c) ← readLines? folded indent (c.rest.length + 1) [] [] later false c
  return match chomping with
    | .strip => (text, c)
    | .clip => (text ++ last, c)
    | .keep => (text ++ last ++ later, c)

example : (readQuoted? true ⟨"a\\\n  b \n\n c\\x41\"".toList, 0, 0, 1⟩).map (String.ofList ·.1) =
    some "ab\ncA" := by decide +kernel

example : (readBlock? true none ⟨"-\n a\n b\n\n  c\n d\n".toList, 0, 0, 1⟩).map (String.ofList ·.1) =
    some "a b\n\n c\nd" := by decide +kernel

end PowerGrant.Yaml
