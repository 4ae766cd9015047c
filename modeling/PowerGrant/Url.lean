import PowerGrant.Http
import PowerGrant.Text.Cut

/-!
# Addresses of web services

The address of a service is a scheme, an authority (host, port and what a user needs to get in) and a
path. The authority alone and the path alone are addresses, too.

* `Url.isValid`: whether a text is an address.
-/

namespace PowerGrant.Url

/-- The greatest length of an address, in bytes. -/
def maxLength : Nat := 65534

/-- The greatest length of a scheme. -/
def maxScheme : Nat := 64

/-- Whether a character may occur in a scheme. -/
def inScheme (c : Char) : Bool := c.isAlphanum || "+-.~".toList.contains c

/-- Whether a character may occur in an authority as it is. -/
def inAuthority (c : Char) : Bool := c.isAlphanum || "!$&'()*+,-.:;=@[]_~".toList.contains c

/-- Whether a character ends an authority. -/
def endsAuthority (c : Char) : Bool := c = '/' || c = '?' || c = '#'

/-- What has been seen of an authority. -/
structure Seen where
  /-- The colons since the user's part or the brackets ended. -/
  colons : Nat := 0
  opened : Bool := false
  closed : Bool := false
  /-- Whether there is an escape since the user's part or the brackets ended. -/
  escape : Bool := false
  last : Option Char := none
  deriving DecidableEq, Repr, Inhabited

namespace Seen

/-- What has been seen after one more character; nothing if it cannot stand there. -/
def next (seen : Seen) (c : Char) : Option Seen :=
  let seen := { seen with last := some c }
  if c = ':' then
    if seen.colons < 8 then some { seen with colons := seen.colons + 1 } else none
  else if c = '[' then
    if seen.escape || seen.opened then none else some { seen with opened := true }
  else if c = ']' then
    if seen.opened && !seen.closed then
      some { seen with closed := true, colons := 0, escape := false }
    else none
  else if c = '@' then some { seen with colons := 0, escape := false }
  else if c = '%' then some { seen with escape := true }
  else if inAuthority c then some seen
  else none

/-- Whether the authority may end here: its brackets are closed, at most one colon is left for the
port, and a host follows the user. -/
def mayEnd (seen : Seen) : Bool :=
  seen.opened = seen.closed && seen.colons ≤ 1 && seen.last ≠ some '@' && !seen.escape

end Seen

/-- Whether a text is an authority. -/
def isAuthority (cs : List Char) : Bool :=
  (cs.foldlM Seen.next {}).any Seen.mayEnd

/-- The scheme of an address and what follows it, if it has a scheme. -/
def scheme? (cs : List Char) : Option (List Char × List Char) :=
  match Text.cutText? [':', '/', '/'] cs with
  | some (scheme, rest) => if scheme.all inScheme then some (scheme, rest) else none
  | none => none

/-- What the authority at the head of a text is, and what follows it. -/
def spanAuthority (cs : List Char) : List Char × List Char := cs.span (!endsAuthority ·)

/-- Whether a text is an address. -/
def isValid (text : String) : Bool :=
  let cs := text.toList
  text.utf8ByteSize ≤ maxLength &&
    match cs with
    | [] => false
    | ['*'] => true
    | '/' :: _ => (Request.sendable text).isSome
    | _ =>
      match scheme? cs with
      | some (scheme, rest) =>
        let (authority, path) := spanAuthority rest
        scheme.length ≤ maxScheme && !authority.isEmpty && isAuthority authority &&
          (Request.sendable (String.ofList path)).isSome
      | none => !cs.any endsAuthority && isAuthority cs

end PowerGrant.Url
