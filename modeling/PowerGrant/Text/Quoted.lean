import PowerGrant.Text.Printable

/-!
# Quoted text

Text between double quotes, in which a quote, a backslash and whatever could not be seen are written
as escapes, and lists of such texts between square brackets.
-/

namespace PowerGrant.Text

/-- The code point of `c` in lower-case hexadecimal digits. -/
def hexDigits (c : Char) : List Char :=
  Nat.toDigits 16 c.toNat

/-- How quoted text writes one character. -/
def escaped (c : Char) : List Char :=
  if c = '\x00' then ['\\', '0']
  else if c = '\t' then ['\\', 't']
  else if c = '\n' then ['\\', 'n']
  else if c = '\r' then ['\\', 'r']
  else if c = '"' then ['\\', '"']
  else if c = '\\' then ['\\', '\\']
  else if isPrintable c then [c]
  else '\\' :: 'u' :: '\x7b' :: (hexDigits c ++ ['\x7d'])

/-- The text between double quotes. -/
def quoted (s : String) : String :=
  String.ofList ('"' :: (s.toList.flatMap escaped ++ ['"']))

/-- The texts, each quoted, between square brackets. -/
def quotedList (ss : List String) : String :=
  "[" ++ ", ".intercalate (ss.map quoted) ++ "]"

end PowerGrant.Text
