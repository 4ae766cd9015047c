import PowerGrant.Text.Blank
import PowerGrant.Url
import PowerGrant.Web.Location

/-!
# Proxies

Requests may go to a proxy instead of the service that they are for. Which one that is, and for which
services there is none, is said by variables of the environment: hosts without a proxy are listed by
their addresses, by blocks of addresses or by names, which stand for names below them, too.

* `Proxies.ofEnv`: what the environment says about proxies.
* `Proxies.forHost?`: the proxy for requests to a host.
-/

namespace PowerGrant.Web

/-! ## Authorities -/

/-- The host and the port of an authority, of which the port may be left out; what a user needs to get in
does not count. -/
def hostAndPort? (standard : Nat) (authority : List Char) : Option (List Char × Nat) :=
  let (host, rest) := Location.spanHost false (Location.afterUser authority)
  match rest with
  | [] => some (host, standard)
  | _ :: digits =>
    match Text.readBelow UInt16.size digits with
    | .ok port => some (host, port)
    | .error _ => none

/-! ## Blocks of addresses -/

/-- A block of addresses: those whose first bits are the same. -/
structure Block where
  /-- How many bits an address has. -/
  width : Nat
  /-- How many bits are the same. -/
  length : Nat
  /-- An address in the block. -/
  value : Nat
  deriving DecidableEq, Repr, Inhabited

namespace Block

/-- The number of an address of 128 bits. -/
def ofPieces (ps : List Nat) : Nat := ps.foldl (fun n p => n * 65536 + p) 0

/-- The block of one address. -/
def ofAddress? (cs : List Char) : Option Block :=
  match (Text.pieces '.' cs).mapM Host.byte? with
  | some [a, b, c, d] => some ⟨32, 32, ((a * 256 + b) * 256 + c) * 256 + d⟩
  | _ => (Host.v6? cs).map fun ps => ⟨128, 128, ofPieces ps⟩

/-- The block that a text writes: an address, with the number of bits that count behind a slash unless
all do. -/
def ofChars? (cs : List Char) : Option Block :=
  match Text.cut? '/' cs with
  | none => ofAddress? cs
  | some (address, bits) => do
    let block ← ofAddress? address
    let length ← Host.byte? bits
    if length ≤ block.width then return { block with length } else none

/-- The block of a host that is an address. -/
def ofHost? : Host → Option Block
  | .v4 n => some ⟨32, 32, n⟩
  | .v6 ps => some ⟨128, 128, ofPieces ps⟩
  | .name _ => none

/-- Whether an address is in the block. -/
def contains (b address : Block) : Bool :=
  let shift := Nat.pow 2 (b.width - b.length)
  b.width = address.width && b.value / shift = address.value / shift

end Block

/-! ## Proxies -/

/-- A proxy. -/
structure Proxy where
  /-- Whether the connection to it is to be plain. -/
  plain : Bool
  host : List Char
  port : Nat
  deriving DecidableEq, Repr, Inhabited

namespace Proxy

/-- The schemes of proxies, and the port of each. -/
def schemes : List (String × Nat) :=
  [("http", 80), ("https", 443), ("socks4", 1080), ("socks4a", 1080), ("socks5", 1080),
    ("socks5h", 1080)]

/-- The proxy that a text names; without a scheme it is a plain one. -/
def ofText? (text : String) : Option Proxy := do
  if !Url.isValid text then none
  let (scheme, rest) := (Url.scheme? text.toList).getD ("http".toList, text.toList)
  let port ← schemes.lookup (String.ofList (scheme.map Char.toLower))
  let authority := (Url.spanAuthority rest).1
  if authority.isEmpty || authority = ['*'] then none
  let (host, port) ← hostAndPort? port authority
  return ⟨scheme.map Char.toLower = "http".toList, host, port⟩

/-- The address and the port at which a plain proxy is reached, if its host is known. -/
def socket? (p : Proxy) : Option String :=
  if p.plain then ((Host.lookUp? p.host).bind Host.ip?).map fun ip => s!"{ip}:{p.port}" else none

end Proxy

/-- What is said about proxies. -/
structure Proxies where
  /-- The proxy for plain requests. -/
  proxy : Option Proxy := none
  /-- The addresses of hosts without a proxy. -/
  blocks : List Block := []
  /-- The names of hosts without a proxy. -/
  names : List (List Char) := []
  deriving DecidableEq, Repr, Inhabited

namespace Proxies

/-- The value of the first variable that is set. -/
def first (env : String → Option String) (names : List String) : String :=
  (names.findSome? env).getD ""

/-- The variable that tells that a program answers requests itself; then variables say nothing about
proxies, since they may come from the requests. -/
def requestVariable : String := "REQUEST_METHOD"

/-- What the environment says about proxies. -/
def ofEnv (env : String → Option String) : Proxies :=
  if (env requestVariable).isSome then {}
  else
    let entries := ((Text.pieces ',' (first env ["NO_PROXY", "no_proxy"]).toList).map Text.trim).filter
      (!·.isEmpty)
    { proxy := (Proxy.ofText? (first env ["HTTP_PROXY", "http_proxy"])).or
        (Proxy.ofText? (first env ["ALL_PROXY", "all_proxy"]))
      blocks := entries.filterMap Block.ofChars?
      names := entries.filter fun e => (Block.ofChars? e).isNone }

/-- Whether a name stands for a host's name: for itself, for those below it, or for all. -/
def covers (name host : List Char) : Bool :=
  let name := name.map Char.toLower
  name = ['*'] || name = host || name = '.' :: host ||
    (if name.head? = some '.' then name else '.' :: name).isSuffixOf host

/-- The proxy for plain requests to a host. -/
def forHost? (p : Proxies) (host : Host) : Option Proxy :=
  let exempt := match host, Block.ofHost? host with
    | _, some address => p.blocks.any (·.contains address)
    | .name text, none => p.names.any (covers · text)
    | _, none => false
  if exempt then none else p.proxy

example : (Proxy.ofText? "http://u:p@127.1:3128/x").bind Proxy.socket? = some "127.0.0.1:3128" ∧
    (Proxy.ofText? "10.0.0.9").bind Proxy.socket? = some "10.0.0.9:80" ∧
    Proxy.ofText? "ftp://h" = none ∧ Proxy.ofText? "/x" = none := by decide +kernel

example : covers ".a.b".toList "c.a.b".toList ∧ covers "a.b".toList "c.a.b".toList ∧
    covers ".A.b".toList "a.b".toList ∧ ¬ covers "a.b".toList "xa.b".toList ∧
    ((Block.ofChars? "10.0.0.0/8".toList).any fun b =>
      (Block.ofAddress? "10.1.2.3".toList).any b.contains) := by decide +kernel

end Proxies

end PowerGrant.Web
