import PowerGrant.Text.Alphanumeric

/-!
# Patterns

A filter may ask that a field's value match a pattern: a regular expression with groups, sets of
characters, repetition and escapes. No line here has a field to match, so all that counts about a pattern
is whether it is one.

A pattern is read one character at a time; `Pattern.isWellFormed` says that the reading succeeds and
ends with every group and set closed. A repetition with a count ends with a brace, which closes a list
of fields, so no such repetition occurs.
-/

namespace PowerGrant.Log

namespace Pattern

/-- What a pattern's next character belongs to. -/
inductive Mode where
  /-- The pattern itself; tells whether there is something to repeat. -/
  | body (repeatable : Bool)
  /-- What follows a backslash. -/
  | escape
  /-- The hexadecimal digits of a character, so many of which are missing, with their value so far. -/
  | code (missing value : Nat)
  /-- The letter of a property of characters. -/
  | property
  /-- What follows the start of a group. -/
  | opened
  /-- What follows the question mark there. -/
  | asked
  /-- What follows a `P` there. -/
  | namedByP
  /-- The name of a group, as far as it was read, backwards. -/
  | name (read : List Char)
  /-- The flags of a group, as far as they were read, backwards. -/
  | flags (read : List Char)
  /-- The start of a set: before any member, or behind dashes only. -/
  | setStart (negated dashes : Bool)
  /-- The members of a set: the character before this one, if a range may start with it. -/
  | members (last : Option Nat)
  /-- What follows the dash of a range, or of a set's end. -/
  | range (low : Nat)
  /-- An operator between sets of which one character was read. -/
  | operator (c : Char)
  deriving DecidableEq, Repr, Inhabited

/-- How far a pattern is read. -/
structure State where
  mode : Mode := .body false
  /-- How many groups are open. -/
  groups : Nat := 0
  /-- How many sets are open. -/
  sets : Nat := 0
  /-- Where a range is read, its lower end. -/
  low : Option Nat := none
  /-- The names of groups. -/
  names : List (List Char) := []
  deriving DecidableEq, Repr, Inhabited

/-- The letters of the properties that have one-letter names. -/
def propertyLetters : List Char := ['L', 'M', 'N', 'P', 'S', 'Z', 'C']

/-- The letters of flags. -/
def flagLetters : List Char := ['i', 'm', 's', 'U', 'u', 'R', 'x', '-']

/-- Whether a character may stand in the name of a group, first in it or not. -/
def inName (first : Bool) (c : Char) : Bool :=
  c = '_' || Text.isAlphanumeric c && !(first && c.isDigit) ||
    !first && ['.', '[', ']'].contains c

/-- The value of a hexadecimal digit. -/
def hexValue? (c : Char) : Option Nat :=
  if c.isDigit then some (c.toNat - '0'.toNat)
  else if 'a' ≤ c ∧ c ≤ 'f' then some (c.toNat - 'a'.toNat + 10)
  else if 'A' ≤ c ∧ c ≤ 'F' then some (c.toNat - 'A'.toNat + 10)
  else none

/-- The character that a letter behind a backslash stands for. -/
def controls : List (Char × Nat) :=
  [('a', 7), ('f', 12), ('t', 9), ('n', 10), ('r', 13), ('v', 11)]

/-- The letters that stand for classes of characters behind a backslash. -/
def classLetters : List Char := ['d', 'D', 's', 'S', 'w', 'W']

namespace State

/-- After one character, which is in a set if one is open. -/
def literal (s : State) (value : Nat) : Option State :=
  if s.sets = 0 then some { s with mode := .body true, low := none }
  else match s.low with
    | none => some { s with mode := .members (some value) }
    | some low => if low ≤ value then some { s with mode := .members none, low := none } else none

/-- After a class of characters, which may not end a range. -/
def classDone (s : State) : Option State :=
  if s.sets = 0 then some { s with mode := .body true }
  else if s.low.isNone then some { s with mode := .members none } else none

/-- After the bracket that closes a set. -/
def closeSet (s : State) : State :=
  { s with
    sets := s.sets - 1
    mode := if s.sets ≤ 1 then .body true else .members none }

/-- After the bracket that opens a set. -/
def openSet (s : State) : State :=
  { s with mode := .setStart false false, sets := s.sets + 1 }

/-- After a character that may start a member of a set. -/
def member (s : State) (c : Char) : Option State :=
  match c with
  | ']' => some s.closeSet
  | '[' => some s.openSet
  | '\\' => some { s with mode := .escape }
  | '&' | '~' => some { s with mode := .operator c }
  | '-' => some { s with mode := .operator c }
  | c => s.literal c.toNat

/-- After the parenthesis or colon that ends flags: they say something, each at most once, and a minus
sign is followed by what it turns off. -/
def endFlags (s : State) (read : List Char) (group : Bool) : Option State :=
  if read.head? = some '-' || !read.Nodup || (read.isEmpty && !group) then none
  else some { s with mode := .body false, groups := if group then s.groups + 1 else s.groups }

/-- After a character outside of sets. -/
def bodyStep (s : State) (repeatable : Bool) (c : Char) : Option State :=
  match c with
  | '(' => some { s with mode := .opened }
  | ')' =>
    if s.groups = 0 then none
    else some { s with mode := .body true, groups := s.groups - 1 }
  | '[' => some s.openSet
  | '|' => some { s with mode := .body false }
  | '*' | '+' | '?' => if repeatable then some s else none
  | '\x7b' => none
  | '\\' => some { s with mode := .escape }
  | _ => some { s with mode := .body true }

/-- After a character behind a backslash. -/
def escapeStep (s : State) (c : Char) : Option State :=
  if classLetters.contains c then s.classDone
  else if ['p', 'P'].contains c then some { s with mode := .property }
  else if c = 'x' then some { s with mode := .code 2 0 }
  else if c = 'u' then some { s with mode := .code 4 0 }
  else if c = 'U' then some { s with mode := .code 8 0 }
  else match controls.lookup c with
    | some value => s.literal value
    | none =>
      if ['A', 'z'].contains c && s.sets = 0 then some { s with mode := .body true }
      else if c.toNat < 128 && !c.isAlphanum && !(['<', '>'].contains c) then s.literal c.toNat
      else none

/-- After one more character. -/
def step (s : State) (c : Char) : Option State :=
  match s.mode with
  | .body repeatable => s.bodyStep repeatable c
  | .escape => s.escapeStep c
  | .code missing value => do
    let value := 16 * value + (← hexValue? c)
    if 1 < missing then return { s with mode := .code (missing - 1) value }
    else if value.isValidChar then s.literal value else none
  | .property => if propertyLetters.contains c then s.classDone else none
  | .opened =>
    if c = '?' then some { s with mode := .asked }
    else { s with mode := .body false, groups := s.groups + 1 }.bodyStep false c
  | .asked =>
    match c with
    | 'P' => some { s with mode := .namedByP }
    | '<' => some { s with mode := .name [] }
    | ':' => s.endFlags [] true
    | ')' => s.endFlags [] false
    | c => if flagLetters.contains c then some { s with mode := .flags [c] } else none
  | .namedByP => if c = '<' then some { s with mode := .name [] } else none
  | .name read =>
    if c = '>' then
      if read.isEmpty || s.names.contains read then none
      else some { s with mode := .body false, groups := s.groups + 1, names := read :: s.names }
    else if inName read.isEmpty c then some { s with mode := .name (c :: read) } else none
  | .flags read =>
    match c with
    | ':' => s.endFlags read true
    | ')' => s.endFlags read false
    | c => if flagLetters.contains c then some { s with mode := .flags (c :: read) } else none
  | .setStart negated dashes =>
    match c with
    | '^' =>
      if negated || dashes then s.literal c.toNat
      else some { s with mode := .setStart true false }
    | '-' => some { s with mode := .setStart negated true }
    | ']' => if dashes then some s.closeSet else s.literal c.toNat
    | c => s.member c
  | .members none => s.member c
  | .members (some low) =>
    if c = '-' then some { s with mode := .range low } else s.member c
  | .range low =>
    match c with
    | ']' => some s.closeSet
    | '-' => some { s with mode := .members none }
    | '\\' => some { s with mode := .escape, low := some low }
    | c => { s with low := some low }.literal c.toNat
  | .operator first =>
    if c = first then some { s with mode := .members none }
    else if first ≠ '-' && c = '-' then some { s with mode := .range first.toNat }
    else { s with mode := .members none }.member c

end State

/-- Whether a text is a pattern. -/
def isWellFormed (cs : List Char) : Bool :=
  match cs.foldlM State.step {} with
  | some { mode := .body _, groups := 0, .. } => true
  | _ => false

end Pattern

end PowerGrant.Log
