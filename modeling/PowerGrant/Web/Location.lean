import PowerGrant.Web.Host

/-!
# Locations on the web

Where a service lies, as a text that is read leniently: blanks around it and line breaks within do not
count, a backslash is as good as a slash, there may be any number of slashes before the host, and what a
user needs to get in may stand before it. A path is made plain: a part of one dot goes, and a part of two
dots takes the one before with it. Characters that may not stand in a request are escaped.

* `Location.ofText?`: the location that a text writes.
-/

namespace PowerGrant.Web

/-- A location on the web. -/
structure Location where
  /-- Whether the connection is to be encrypted. -/
  secure : Bool
  host : Host
  port : Nat
  /-- What is asked for: a path with a query. -/
  target : String
  deriving DecidableEq, Repr, Inhabited

namespace Location

/-- Whether a character does not count at the ends of a text. -/
def isEdge (c : Char) : Bool := c.toNat ≤ 0x20

/-- The text without what does not count. -/
def clean (cs : List Char) : List Char :=
  (((cs.dropWhile isEdge).reverse.dropWhile isEdge).reverse).filter
    fun c => c ≠ '\t' && c ≠ '\n' && c ≠ '\r'

/-- The scheme of a text in small letters, and what follows its colon. -/
def scheme? (cs : List Char) : Option (String × List Char) :=
  match Text.cut? ':' cs with
  | some (c :: scheme, rest) =>
    if c.isAlpha && scheme.all (fun c => c.isAlphanum || c = '+' || c = '-' || c = '.') then
      some (String.ofList ((c :: scheme).map Char.toLower), rest)
    else none
  | _ => none

/-- Whether a character is a slash, or as good as one. -/
def isSlash (c : Char) : Bool := c = '/' || c = '\\'

/-- Whether a character ends what stands between the slashes and the path. -/
def endsAuthority (c : Char) : Bool := isSlash c || c = '?' || c = '#'

/-- What follows the last `@`. -/
def afterUser (authority : List Char) : List Char :=
  (authority.reverse.takeWhile (· ≠ '@')).reverse

/-- The host of an authority, and what follows it: the first colon outside of brackets ends it. -/
def spanHost (bracketed : Bool) : List Char → List Char × List Char
  | [] => ([], [])
  | c :: cs =>
    if c = ':' && !bracketed then ([], c :: cs)
    else
      let (host, rest) := spanHost (if c = '[' then true else if c = ']' then false else bracketed) cs
      (c :: host, rest)

/-- The port of locations that does not have to be given. -/
def standardPort (secure : Bool) : Nat := if secure then 443 else 80

/-- The port behind a host, which may be left out. -/
def port? (standard : Nat) : List Char → Option Nat
  | [] | [':'] => some standard
  | ':' :: ds => if ds.all Char.isDigit then (Host.digitsTo? 10 ds).filter (· < UInt16.size) else none
  | _ => none

/-! ## Paths -/

/-- Whether a character stands for itself in a path. -/
def inPath (c : Char) : Bool :=
  0x20 < c.toNat && c.toNat < 0x7F && !"\"#<>?`\x7b\x7d".toList.contains c

/-- Whether a character stands for itself in a query. -/
def inQuery (c : Char) : Bool :=
  0x20 < c.toNat && c.toNat < 0x7F && !"\"#<>'".toList.contains c

/-- The part of a path with its dots, which may be escaped. -/
def dots : List Char → List Char
  | '%' :: '2' :: e :: cs => if e = 'e' || e = 'E' then '.' :: dots cs else '%' :: '2' :: dots (e :: cs)
  | c :: cs => c :: dots cs
  | [] => []
termination_by cs => cs.length

/-- Whether a part of a path is a letter with a colon or a bar: two dots do not take it away. -/
def isDrive : List Char → Bool
  | [c, mark] => c.isAlpha && (mark = ':' || mark = '|')
  | _ => false

/-- The plain parts of a path: `kept` holds those so far, the last first. -/
def plainParts (kept : List (List Char)) : List (List Char) → List (List Char)
  | [] => kept.reverse
  | p :: ps =>
    let step :=
      if dots p = ['.'] then kept
      else if dots p = ['.', '.'] then
        if kept.head?.any isDrive then kept else kept.tail
      else p :: kept
    if ps.isEmpty && (dots p = ['.'] || dots p = ['.', '.']) then ([] :: step).reverse
    else plainParts step ps

/-- The path that a text writes, made plain and escaped; it begins with a slash. -/
def path (cs : List Char) : List Char :=
  let cs := cs.map fun c => if c = '\\' then '/' else c
  let cs := match cs with
    | '/' :: cs => cs
    | cs => cs
  let ps := (Text.pieces '/' cs).map (Text.percentEncode inPath)
  (plainParts [] ps).flatMap ('/' :: ·)

/-- What is asked for: the path and, behind a question mark, the query; a fragment does not count. -/
def targetOf (cs : List Char) : List Char :=
  let cs := cs.takeWhile (· ≠ '#')
  let head := path (cs.takeWhile (· ≠ '?'))
  match cs.dropWhile (· ≠ '?') with
  | _ :: query => head ++ '?' :: Text.percentEncode inQuery query
  | [] => head

/-- The location that a text writes. -/
def ofText? (text : String) : Option Location := do
  let (scheme, rest) ← scheme? (clean text.toList)
  if scheme ≠ "http" && scheme ≠ "https" then none
  else
    let rest := rest.dropWhile isSlash
    let (host, port) := spanHost false (afterUser (rest.takeWhile (!endsAuthority ·)))
    let secure := scheme = "https"
    return {
      secure
      host := ← Host.ofChars? host
      port := ← port? (standardPort secure) port
      target := String.ofList (targetOf (rest.dropWhile (!endsAuthority ·))) }

/-- The location as a text, without what a user needs to get in. -/
def text (l : Location) : String :=
  let scheme := if l.secure then "https" else "http"
  let port := if l.port = standardPort l.secure then "" else s!":{l.port}"
  s!"{scheme}://{l.host.text}{port}{l.target}"

/-- The address and the port that a location is reached at, if its host is known. -/
def socket? (l : Location) : Option String :=
  l.host.ip?.map fun ip => s!"{ip}:{l.port}"

example : (ofText? "http://u@127.1:81\\a/./%2E%2e/b c?d#e").map (fun l => (l.socket?, l.target)) =
    some (some "127.0.0.1:81", "/b%20c?d") := by decide +kernel

end Location

end PowerGrant.Web
