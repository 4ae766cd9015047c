import PowerGrant.Kubeconfig.Access
import PowerGrant.Web.Proxy

/-!
# The way to the API server

The API server of a rehearsal listens at one address. The address of the server in a kubeconfig leads to
it or to nobody; its path, without slashes at its end, stands before the path of every request. No request
is sent if the user's credentials cannot stand in it.

* `Entrance.ofAccess?`: the path in front of every request, if the API server is reached at all.
-/

namespace PowerGrant.Entrance

/-- The port at which the API server listens, on the own host. -/
def port : Nat := 6443

/-- The path in front of every request to a server, if that is the API server. -/
def path? (server : String) : Option String := do
  let (scheme, rest) ← Url.scheme? server.toList
  let (authority, rest) := Url.spanAuthority rest
  let (host, port) ← Web.hostAndPort? 80 authority
  if scheme.map Char.toLower = "http".toList && port = Entrance.port &&
      Web.Host.lookUp? host = some (.v4 Web.Host.ownAddress) then
    let path := rest.takeWhile fun c => c ≠ '?' && c ≠ '#'
    return String.ofList (path.reverse.dropWhile (· = '/')).reverse
  else none

/-- The path in front of every request, if the API server is reached with this access. -/
def ofAccess? (a : Access) : Option String :=
  if a.credentials.fitHeader then path? a.server else none

example : path? "http://u:p@127.1:6443/a//?b" = some "/a" ∧ path? "http://localhost:6443" = some "" ∧
    path? "https://127.0.0.1:6443" = none ∧ path? "http://127.0.0.1" = none := by decide +kernel

end PowerGrant.Entrance
