import PowerGrant.Identity.Certificate
import PowerGrant.Kubeconfig.Credentials
import PowerGrant.Url

/-!
# Access to a cluster

From a kubeconfig to what is needed to turn to the API server: its address and the user's credentials.
Files that the kubeconfig names lie beside it, unless their paths start at the root.

* `Access.ofKubeconfig`: the access that a kubeconfig gives, or what is wrong with it.
-/

namespace PowerGrant

/-- Why there is no access to a cluster. -/
inductive AccessError where
  /-- No kubeconfig is given, and none lies in its usual place. -/
  | noKubeconfig
  /-- The kubeconfig cannot be read. -/
  | unreadable (path : String)
  /-- The kubeconfig does not lead to a cluster. -/
  | invalid (path : String)
  /-- The user's credentials cannot be had, or certificates cannot be used. -/
  | noCredentials
  deriving DecidableEq, Repr, Inhabited

namespace AccessError

/-- What went wrong, in words. -/
def reason : AccessError → String
  | .noKubeconfig => "no in-cluster or default kubeconfig available"
  | .unreadable path => s!"cannot read kubeconfig {path}"
  | .invalid path => s!"invalid kubeconfig {path}"
  | .noCredentials => "cannot create client"

/-- The wording of the failure. -/
def message (e : AccessError) : String :=
  s!"Failed to initialize Kubernetes client: Failed to connect to Kubernetes API: {e.reason}"

end AccessError

/-- What is needed to turn to a cluster. -/
structure Access where
  server : String
  credentials : Credentials
  deriving DecidableEq, Repr, Inhabited

namespace Access

variable {m : Type → Type} [Monad m]

/-- The variables that name a proxy, in the order in which they count. -/
def proxyVariables : List String := ["HTTP_PROXY", "http_proxy", "HTTPS_PROXY", "https_proxy"]

/-- The proxy for a cluster: its own, or else the one that the environment names. -/
def proxy? (s : Surroundings m) (c : ClusterEntry) : Option String :=
  (c.proxy :: proxyVariables.map s.env).findSome? fun p => p.filter (· ≠ "")

/-- The certificates of the authority that vouches for a cluster's server, as bytes; none if what is
given cannot be had. -/
def authority? (s : Surroundings m) (path : String) (c : ClusterEntry) :
    m (Option (List (List UInt8))) := do
  match ← c.authority.content s path with
  | none => return some []
  | some content =>
    return (content.bind Text.pemSections?).map fun sections =>
      (sections.filter (·.label = Identity.certificateLabel)).map (·.bytes)

/-- The address of a cluster's server and the certificates for it, if what is said about the cluster is
in order. -/
def server? (s : Surroundings m) (path : String) (c : ClusterEntry) :
    m (Option (String × List (List UInt8))) := do
  let authority ← authority? s path c
  return do
    let server ← c.server
    if (proxy? s c).all Url.isValid && Url.isValid server then return (server, ← authority) else none

/-- The access that the kubeconfig at a path gives. -/
def ofKubeconfig (s : Surroundings m) (path : String) : m (Except AccessError Access) := do
  match (← s.read path).bind Kubeconfig.ofText? with
  | none => return .error (.unreadable path)
  | some k =>
    match k.current? with
    | none => return .error (.invalid path)
    | some (cluster, user) =>
      match ← server? s path cluster, ← Credentials.ofUser? s path user with
      | none, _ => return .error (.invalid path)
      | some _, none => return .error .noCredentials
      | some (server, certificates), some credentials =>
        if certificates.all Certificate.isAnchor && canAct user &&
            (← canShowIdentity s path user credentials) then
          return .ok ⟨server, credentials⟩
        else return .error .noCredentials

/-- The variable that names the home directory. -/
def homeVariable : String := "HOME"

/-- The access that the given kubeconfig gives, or else the one in its usual place at home. -/
def find (s : Surroundings m) (given : Option String) : m (Except AccessError Access) := do
  match given, s.env homeVariable with
  | some path, _ => ofKubeconfig s path
  | none, some home =>
    match ← ofKubeconfig s s!"{home}/.kube/config" with
    | .error .noCredentials => return .error .noCredentials
    | .error _ => return .error .noKubeconfig
    | .ok access => return .ok access
  | none, none => return .error .noKubeconfig

end Access

end PowerGrant
