import PowerGrant.Json.Basic
import PowerGrant.Text.Numeral

/-!
# Reading JSON

`Json.ofText?` reads one value with nothing but blanks around it. Strings may not hold control
characters, and an escape may name half of a surrogate pair only next to its other half: a string
that breaks this is read as `Json.broken`, which no record accepts.

The readers of values, items and members call each other. A call passes on one less of its first
argument, which starts above what any text of that length needs.
-/

namespace PowerGrant.Json

/-- The text without the blanks in front of it. -/
def skipBlanks (cs : List Char) : List Char :=
  cs.dropWhile fun c => c = ' ' || c = '\n' || c = '\t' || c = '\r'

/-- The value of a hexadecimal digit. -/
def hexDigit? (c : Char) : Option Nat :=
  if '0' ≤ c ∧ c ≤ '9' then some (c.toNat - '0'.toNat)
  else if 'a' ≤ c ∧ c ≤ 'f' then some (c.toNat - 'a'.toNat + 10)
  else if 'A' ≤ c ∧ c ≤ 'F' then some (c.toNat - 'A'.toNat + 10)
  else none

/-- The number that four hexadecimal digits stand for. -/
def hex4? (a b c d : Char) : Option Nat := do
  return (((← hexDigit? a) * 16 + (← hexDigit? b)) * 16 + (← hexDigit? c)) * 16 + (← hexDigit? d)

/-- The code point that a backslash and `c` stand for. -/
def shortEscape? : Char → Option Nat
  | '"' => some 0x22
  | '\\' => some 0x5C
  | '/' => some 0x2F
  | 'b' => some 8
  | 'f' => some 12
  | 'n' => some 10
  | 'r' => some 13
  | 't' => some 9
  | _ => none

/-- The code points of a string up to its closing quote, and what follows it. Escapes may add halves
of surrogate pairs; `seen` holds the code points so far, the last first. -/
def readUnits (seen : List Nat) : List Char → Option (List Nat × List Char)
  | '"' :: rest => some (seen.reverse, rest)
  | '\\' :: 'u' :: a :: b :: c :: d :: rest =>
    match hex4? a b c d with
    | some unit => readUnits (unit :: seen) rest
    | none => none
  | '\\' :: c :: rest =>
    match shortEscape? c with
    | some unit => readUnits (unit :: seen) rest
    | none => none
  | c :: rest => if c.toNat < 0x20 then none else readUnits (c.toNat :: seen) rest
  | [] => none

/-- Whether a code point is the first half of a surrogate pair. -/
def isHigh (n : Nat) : Bool := 0xD800 ≤ n && n < 0xDC00

/-- Whether a code point is the second half of a surrogate pair. -/
def isLow (n : Nat) : Bool := 0xDC00 ≤ n && n < 0xE000

/-- The text of code points in which surrogates occur in pairs; `seen` holds the characters so far,
the last first. -/
def joinPairs (seen : List Char) : List Nat → Option String
  | [] => some (String.ofList seen.reverse)
  | high :: low :: rest =>
    if isHigh high then
      if isLow low then
        joinPairs (Char.ofNat (0x10000 + (high - 0xD800) * 0x400 + (low - 0xDC00)) :: seen) rest
      else none
    else if isLow high then none
    else joinPairs (Char.ofNat high :: seen) (low :: rest)
  | [last] => if isHigh last || isLow last then none else joinPairs (Char.ofNat last :: seen) []

/-- The digits at the head of a text, and what follows them. -/
def spanDigits (cs : List Char) : List Char × List Char :=
  cs.span fun c => (Text.digit? c).isSome

/-- The digits of a whole number, which start with `0` only if that is all, and what follows. -/
def readWhole (cs : List Char) : Option (List Char × List Char) :=
  match spanDigits cs with
  | ([], _) => none
  | ('0' :: _ :: _, _) => none
  | found => some found

/-- The fraction at the head of a text, empty if there is none, and what follows. -/
def readFraction : List Char → Option (List Char × List Char)
  | '.' :: rest =>
    match spanDigits rest with
    | ([], _) => none
    | (ds, rest) => some ('.' :: ds, rest)
  | rest => some ([], rest)

/-- The digits of an exponent, and what follows. -/
def readExponentDigits (mark : List Char) (cs : List Char) : Option (List Char × List Char) :=
  match spanDigits cs with
  | ([], _) => none
  | (ds, rest) => some (mark ++ ds, rest)

/-- The exponent at the head of a text, empty if there is none, and what follows. -/
def readExponent : List Char → Option (List Char × List Char)
  | 'e' :: '+' :: rest | 'E' :: '+' :: rest => readExponentDigits ['e', '+'] rest
  | 'e' :: '-' :: rest | 'E' :: '-' :: rest => readExponentDigits ['e', '-'] rest
  | 'e' :: rest | 'E' :: rest => readExponentDigits ['e'] rest
  | rest => some ([], rest)

/-- The value of digits. -/
def wholeValue (ds : List Char) : Nat :=
  ds.foldl (fun n d => n * 10 + (Text.digit? d).getD 0) 0

/-- The number at the head of a text, without its sign, and what follows. -/
def readNumber (negative : Bool) (cs : List Char) : Option (Json × List Char) := do
  let (whole, rest) ← readWhole cs
  let (fraction, rest) ← readFraction rest
  let (exponent, rest) ← readExponent rest
  let n := wholeValue whole
  if fraction.isEmpty && exponent.isEmpty && !(negative && n == 0) then
    return (.integer (if negative then -n else n), rest)
  else
    let sign := if negative then ['-'] else []
    return (.real (String.ofList (sign ++ whole ++ fraction ++ exponent)), rest)

/-- The string whose opening quote has been read, and what follows it. -/
def readString (cs : List Char) : Option (Option String × List Char) :=
  (readUnits [] cs).map fun (units, rest) => (joinPairs [] units, rest)

/-- The object with these members, if each of them has a text for a name. -/
def ofMembers (fields : List (Option String × Json)) : Json :=
  match fields.mapM fun f => f.1.map (·, f.2) with
  | some fields => .object fields
  | none => .broken

mutual

/-- The value at the head of a text, and what follows it. -/
def readValue : Nat → List Char → Option (Json × List Char)
  | 0, _ => none
  | fuel + 1, cs =>
    match skipBlanks cs with
    | '"' :: rest => (readString rest).map fun (s, rest) => (s.elim .broken .text, rest)
    | '[' :: rest =>
      match skipBlanks rest with
      | ']' :: rest => some (.array [], rest)
      | rest => (readItems fuel rest).map fun (items, rest) => (.array items, rest)
    | '{' :: rest =>
      match skipBlanks rest with
      | '}' :: rest => some (.object [], rest)
      | rest => (readMembers fuel rest).map fun (fields, rest) => (ofMembers fields, rest)
    | 'n' :: 'u' :: 'l' :: 'l' :: rest => some (.null, rest)
    | 't' :: 'r' :: 'u' :: 'e' :: rest => some (.bool true, rest)
    | 'f' :: 'a' :: 'l' :: 's' :: 'e' :: rest => some (.bool false, rest)
    | '-' :: rest => readNumber true rest
    | rest => readNumber false rest

/-- The items of an array up to its closing bracket, at least one, and what follows. -/
def readItems : Nat → List Char → Option (List Json × List Char)
  | 0, _ => none
  | fuel + 1, cs =>
    match readValue fuel cs with
    | none => none
    | some (v, rest) =>
      match skipBlanks rest with
      | ',' :: rest => (readItems fuel rest).map fun (vs, rest) => (v :: vs, rest)
      | ']' :: rest => some ([v], rest)
      | _ => none

/-- The members of an object up to its closing brace, at least one, and what follows. -/
def readMembers : Nat → List Char → Option (List (Option String × Json) × List Char)
  | 0, _ => none
  | fuel + 1, cs =>
    match skipBlanks cs with
    | '"' :: rest =>
      match readString rest with
      | none => none
      | some (name, rest) =>
        match skipBlanks rest with
        | ':' :: rest =>
          match readValue fuel rest with
          | none => none
          | some (v, rest) =>
            match skipBlanks rest with
            | ',' :: rest =>
              (readMembers fuel rest).map fun (fields, rest) => ((name, v) :: fields, rest)
            | '}' :: rest => some ([(name, v)], rest)
            | _ => none
        | _ => none
    | _ => none

end

/-- The JSON value that a text writes, with blanks around it allowed. -/
def ofText? (s : String) : Option Json :=
  let cs := s.toList
  match readValue (2 * cs.length + 2) cs with
  | some (v, rest) => if (skipBlanks rest).isEmpty then some v else none
  | none => none

end PowerGrant.Json
