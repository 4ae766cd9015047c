/-!
# Places in a YAML text

A cursor is a place in a text with what follows it. Lines end with a line feed, a carriage return, both
of them, or one of the breaks of Unicode.

* `Cursor.spanWhile`: the characters of a kind that follow on the line, and the place behind them.
* `Cursor.readBreak`: the line break that follows, as it is kept in a text.
-/

namespace PowerGrant.Yaml

/-- Whether a character may stand in a text. -/
def isAllowed (c : Char) : Bool :=
  let n := c.toNat
  n = 9 || n = 10 || n = 13 || (0x20 ≤ n && n ≤ 0x7E) || n = 0x85 || (0xA0 ≤ n && n ≤ 0xD7FF) ||
    (0xE000 ≤ n && n ≤ 0xFFFD) || 0x10000 ≤ n

/-- Whether a character ends a line. -/
def isBreak (c : Char) : Bool :=
  c = '\n' || c = '\r' || c.toNat = 0x85 || c.toNat = 0x2028 || c.toNat = 0x2029

/-- Whether a character is a blank within a line. -/
def isSpace (c : Char) : Bool := c = ' ' || c = '\t'

/-- Whether a blank, the end of a line or the end of the text is next. -/
def atGap : List Char → Bool
  | [] => true
  | c :: _ => isSpace c || isBreak c

/-- Whether the end of a line or the end of the text is next. -/
def atLineEnd : List Char → Bool
  | [] => true
  | c :: _ => isBreak c

/-- Whether a character has a meaning of its own within brackets. -/
def isBracketSign (c : Char) : Bool := ",[]\x7b\x7d".toList.contains c

/-- Whether a character may stand in the name of an anchor, a directive or a tag's handle. -/
def inName (c : Char) : Bool := c.isAlphanum || c = '_' || c = '-'

/-- A place in a text. -/
structure Cursor where
  rest : List Char
  /-- How many characters stand before it. -/
  index : Nat := 0
  /-- How many lines stand before it. -/
  line : Nat := 0
  /-- How many characters stand before it on its line. -/
  column : Nat := 0
  deriving DecidableEq, Repr, Inhabited

namespace Cursor

/-- The place behind so many characters of the same line. -/
def skip (c : Cursor) (n : Nat) : Cursor :=
  { c with rest := c.rest.drop n, index := c.index + n, column := c.column + n }

/-- The characters of a kind that follow, and the place behind them. -/
def spanWhile (c : Cursor) (kind : Char → Bool) : List Char × Cursor :=
  let found := c.rest.takeWhile kind
  (found, c.skip found.length)

/-- The place behind the characters of a kind. -/
def skipWhile (c : Cursor) (kind : Char → Bool) : Cursor := (c.spanWhile kind).2

/-- The start of the next line, so many characters from here. -/
def nextLine (c : Cursor) (n : Nat) : Cursor :=
  { rest := c.rest.drop n, index := c.index + n, line := c.line + 1, column := 0 }

/-- The line break that follows, and the place behind it. Breaks that other texts know as well are kept
as a line feed. Where no break follows nothing is read. -/
def readBreak (c : Cursor) : List Char × Cursor :=
  match c.rest with
  | '\r' :: '\n' :: _ => (['\n'], c.nextLine 2)
  | b :: _ =>
    if b = '\n' || b = '\r' || b.toNat = 0x85 then (['\n'], c.nextLine 1)
    else if isBreak b then ([b], c.nextLine 1)
    else ([], c)
  | [] => ([], c)

/-- The place behind the comment that begins here, if one does, up to the end of the line. -/
def skipComment (c : Cursor) : Cursor :=
  if c.rest.head? = some '#' then c.skipWhile (!isBreak ·) else c

/-- The place behind blanks, a comment and the end of the line, if there is nothing else. -/
def endLine? (c : Cursor) : Option Cursor :=
  let c := (c.skipWhile isSpace).skipComment
  if atLineEnd c.rest then some c.readBreak.2 else none

/-- Whether three such characters stand alone at the start of a line. -/
def atMark (c : Cursor) (m : Char) : Bool :=
  c.column = 0 && [m, m, m].isPrefixOf c.rest && atGap (c.rest.drop 3)

/-- Whether a document begins or ends here. -/
def atDocument (c : Cursor) : Bool := c.atMark '-' || c.atMark '.'

end Cursor

end PowerGrant.Yaml
