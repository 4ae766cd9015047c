import PowerGrant.Log.Level
import PowerGrant.Log.Pattern
import PowerGrant.Text.Blank
import PowerGrant.Text.Cut

/-!
# Directives of a log filter

A directive tells up to which level lines pass. It may be about a target, the part of the program that a
line is about; about a span, between brackets; and about a field, between braces within the brackets,
with a pattern that its value has to match:

`target[span{field=pattern}]=level`

A directive with a word for a level alone is about all lines, and one without a level lets all lines
pass. A directive that names a span or asks for a pattern is about no line, since none here belongs to a
span; but it counts as a directive.

A directive is found in a text without the blanks around it, but the places of its parts are counted in
the text with them.
-/

namespace PowerGrant.Log

/-- A field that a directive is about. -/
structure Field where
  name : List Char
  /-- Whether its value has to match a pattern. -/
  valued : Bool := false
  deriving DecidableEq, Repr, Inhabited

/-- A directive of a filter. -/
structure Directive where
  /-- The head of the targets it is about; all, if there is none. -/
  target : Option (List Char) := none
  span : Option (List Char) := none
  field : Option Field := none
  /-- Up to which level lines pass. -/
  level : Level := .trace
  deriving DecidableEq, Repr, Inhabited

namespace Field

/-- Whether a text is a number with a plus sign in front, which alone would be no pattern. -/
def isPlusNumber (cs : List Char) : Bool :=
  match cs with
  | '+' :: cs =>
    let unsigned := fun cs : List Char => !cs.isEmpty && cs.all Char.isDigit
    let exponent := fun cs : List Char =>
      match cs with
      | '+' :: cs | '-' :: cs => unsigned cs
      | cs => unsigned cs
    let significand := cs.takeWhile fun c => c.isDigit || c = '.'
    let rest := cs.dropWhile fun c => c.isDigit || c = '.'
    (["inf", "infinity", "nan"].map String.toList).contains (cs.map Char.toLower) ||
      (significand.any Char.isDigit && significand.count '.' ≤ 1 &&
        match rest with
        | [] => true
        | e :: rest => (e = 'e' || e = 'E') && exponent rest)
  | _ => false

/-- The field that a text names, with the pattern behind an equals sign if there is one; it ends at the
next equals sign. -/
def ofChars? (cs : List Char) : Option Field :=
  match Text.pieces '=' cs with
  | [name] => some { name }
  | name :: value :: _ =>
    if isPlusNumber value || Pattern.isWellFormed value then some { name, valued := true } else none
  | [] => none

end Field

namespace Directive

/-- Which part of a directive the next character belongs to, with the place where that part begins. -/
inductive Part where
  /-- Nothing is read yet. -/
  | start
  /-- A level or a target. -/
  | word
  | span (start : Nat)
  | field (start : Nat)
  /-- The field is complete. -/
  | fieldEnd
  /-- What is between brackets is complete. -/
  | spanEnd
  | level (start : Nat)
  deriving DecidableEq, Repr, Inhabited

/-- The characters whose bytes lie in `text` from one place up to another, if characters begin there. -/
def slice? (start stop : Nat) (text : List Char) : Option (List Char) :=
  let at? (n : Nat) : Option Nat :=
    (List.range (text.length + 1)).find? fun k => (String.ofList (text.take k)).utf8ByteSize = n
  match at? start, at? stop with
  | some a, some b => some ((text.drop a).take (b - a))
  | _, _ => none

/-- Whether a directive may begin with a character. -/
def mayBegin (c : Char) : Bool :=
  c = '-' || c = ':' || c = '_' || Text.isAlphanumeric c

/-- A directive as far as it is read, and the part of it that is being read. -/
structure Reading where
  part : Part := .start
  directive : Directive := {}

/-- Reads one more character, at a place of the text. -/
def Reading.step? (text : List Char) (place : Nat) (c : Char) (r : Reading) : Option Reading :=
  let d := r.directive
  match r.part, c with
  | .start, '[' => some { r with part := .span (place + 1) }
  | .start, c => if mayBegin c then some { r with part := .word } else none
  | .word, '=' => do
    return ⟨.level (place + 1), { d with target := some (← slice? 0 place text) }⟩
  | .word, '[' => do
    return ⟨.span (place + 1), { d with target := some (← slice? 0 place text) }⟩
  | .word, _ => some r
  | .span start, ']' => do
    return ⟨.spanEnd, { d with span := some (← slice? start place text) }⟩
  | .span start, '\x7b' => do
    let span ← slice? start place text
    return ⟨.field (place + 1), { d with span := if span.isEmpty then none else some span }⟩
  | .span _, _ => some r
  | .field start, '\x7d' => do
    let field ← slice? start place text
    if field.isEmpty then none
    else return ⟨.fieldEnd, { d with field := some (← Field.ofChars? field) }⟩
  | .field _, _ => some r
  | .fieldEnd, ']' => some { r with part := .spanEnd }
  | .spanEnd, '=' => some { r with part := .level (place + 1) }
  | .level _, _ => some r
  | _, _ => none

/-- The directive that was read when the text ends, if it may end there. -/
def Reading.finish? (text : List Char) (r : Reading) : Option Directive :=
  let d := r.directive
  match r.part with
  | .word =>
    match Level.ofChars? text with
    | some level => some { d with level }
    | none => some { d with target := some text }
  | .level start => do
    let level ← slice? start (String.ofList text).utf8ByteSize text
    if level.isEmpty then some d else return { d with level := ← Level.ofChars? level }
  | .spanEnd => some d
  | _ => none

/-- Reads characters that begin at a place of the text. -/
def read? (text : List Char) (place : Nat) (r : Reading) : List Char → Option Directive
  | [] => r.finish? text
  | c :: cs => do read? text (place + c.utf8Size) (← r.step? text place c) cs

/-- The directive that a text writes. -/
def ofChars? (text : List Char) : Option Directive :=
  read? text 0 {} (Text.trim text)

/-- Whether the directive is about a line. -/
def applies (d : Directive) (l : Line) : Bool :=
  d.span.isNone && d.target.all (·.isPrefixOf l.target.toList) &&
    d.field.all fun f => !f.valued && (l.fields.map String.toList).contains f.name

/-- How specific the directive is: first by the length of its target, then by whether it is about a
field. -/
def weight (d : Directive) : Nat × Nat :=
  (d.target.elim 0 fun target => (String.ofList target).utf8ByteSize + 1,
    if d.field.isSome then 1 else 0)

/-- Whether a directive is less specific than another. -/
def isLess (d e : Directive) : Bool :=
  d.weight.1 < e.weight.1 || (d.weight.1 = e.weight.1 && d.weight.2 < e.weight.2)

end Directive

end PowerGrant.Log
