import PowerGrant.Json.Basic

/-!
# Requests and responses

What is sent to a web service and what comes back. A body counts only as the JSON value that it
writes, if it writes one.
-/

namespace PowerGrant

/-- What a request asks a server to do. -/
inductive HttpMethod where
  | get
  | post
  | put
  | delete
  deriving DecidableEq, Repr, Inhabited

/-- The word for a method. -/
def HttpMethod.word : HttpMethod → String
  | .get => "GET"
  | .post => "POST"
  | .put => "PUT"
  | .delete => "DELETE"

/-- A request to a server. -/
structure Request where
  method : HttpMethod
  path : String
  body : Option Json := none
  deriving Inhabited

/-- A response of a server. -/
structure Response where
  status : Nat
  /-- The value that the body writes; none if it writes no JSON value. -/
  body : Option Json
  deriving Inhabited

namespace Response

/-- Whether a status is one that nothing else follows. -/
def isFinal (r : Response) : Bool :=
  r.status = 101 || (200 ≤ r.status && r.status < 1000)

/-- The value that the body writes, where a response with this status has a body. -/
def content (r : Response) : Option Json :=
  if r.status = 204 || r.status = 304 then none else r.body

end Response

namespace Request

/-- Whether a byte may stand in the path of a request as it is. -/
def inPath (c : Char) : Bool :=
  let n := c.toNat
  n == 0x21 || n == 0x22 || (0x24 ≤ n && n ≤ 0x3B) || n == 0x3D || (0x40 ≤ n && n ≤ 0x5F) ||
    (0x61 ≤ n && n ≤ 0x7E)

/-- Whether a byte may stand in the query of a request as it is. -/
def inQuery (c : Char) : Bool :=
  let n := c.toNat
  n == 0x21 || (0x24 ≤ n && n ≤ 0x3B) || n == 0x3D || (0x3F ≤ n && n ≤ 0x7E)

/-- The path of a target, which ends where a query or a fragment begins, and the query. -/
def split (target : List Char) : List Char × List Char :=
  let sent := target.takeWhile (· ≠ '#')
  (sent.takeWhile (· ≠ '?'), (sent.dropWhile (· ≠ '?')).drop 1)

/-- The path of a target that can be sent; nothing if a character of it would have to be escaped. -/
def sendable (target : String) : Option String :=
  let (path, query) := split target.toList
  if path.all inPath && query.all inQuery then some (String.ofList path) else none

end Request

end PowerGrant
