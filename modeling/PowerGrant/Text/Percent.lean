import PowerGrant.Json.Reader

/-!
# Percent encoding

Bytes that may not stand in an address are written as a percent sign and two hexadecimal digits.

* `percentEncode`: the characters of a text that need it, written by the bytes of their UTF-8 form.
* `percentDecode`: the bytes that a text with such escapes stands for.
* `formEncode`: a text as a value in a form, where a space is a plus sign.
-/

namespace PowerGrant.Text

/-- A byte as a percent sign and two digits. -/
def percentByte (b : UInt8) : List Char :=
  ['%', (Nat.digitChar (b.toNat / 16)).toUpper, (Nat.digitChar (b.toNat % 16)).toUpper]

/-- A character by the bytes of its UTF-8 form. -/
def percentChar (c : Char) : List Char :=
  (String.ofList [c]).toUTF8.toList.flatMap percentByte

/-- The text in which the characters outside `plain` are written by their bytes. -/
def percentEncode (plain : Char → Bool) (cs : List Char) : List Char :=
  cs.flatMap fun c => if plain c then [c] else percentChar c

/-- Whether a character stands for itself in a form. -/
def isPlainInForm (c : Char) : Bool := c.isAlphanum || ['*', '-', '.', '_'].contains c

/-- A text as a value in a form. -/
def formEncode (s : String) : String :=
  String.ofList <| s.toList.flatMap fun c =>
    if c = ' ' then ['+'] else if isPlainInForm c then [c] else percentChar c

/-- The bytes that a text stands for; a percent sign without two digits stands for itself. -/
def percentDecode : List Char → List UInt8
  | '%' :: a :: b :: cs =>
    match Json.hexDigit? a, Json.hexDigit? b with
    | some high, some low => UInt8.ofNat (16 * high + low) :: percentDecode cs
    | _, _ => '%'.toUInt8 :: percentDecode (a :: b :: cs)
  | c :: cs => (String.ofList [c]).toUTF8.toList ++ percentDecode cs
  | [] => []
termination_by cs => cs.length

end PowerGrant.Text
