import PowerGrant.Cluster.Server
import PowerGrant.Daemon.Entrance
import PowerGrant.Daemon.Transport

/-!
# Peers in memory

An API server, profile services and node agents that a daemon can talk to without a network. What it
asks them is kept on record. Who is not among the peers cannot be reached, and nobody speaks TLS.
-/

namespace PowerGrant

/-- Something that the daemon asked one of its peers. -/
inductive Exchange where
  /-- A request to the API server. -/
  | cluster (request : Request)
  /-- A profile service was asked for something. -/
  | profiles (target : String)
  /-- A node's agent was asked for its pods. -/
  | agent
  deriving Inhabited

/-- The peers of a daemon. -/
structure Peers where
  server : ApiServer := {}
  /-- The path in front of every request to the API server; without one it is not reached. -/
  entrance : Option String := some ""
  /-- The proxies between the daemon and profile services. -/
  proxies : Web.Proxies := {}
  /-- What the profile service at an address and port gives. -/
  profileServices : Table String Response := {}
  /-- The pods that the agent behind a socket lists. -/
  agents : Table String (List ListedPod) := {}
  /-- What they were asked, in order. -/
  record : List Exchange := []
  deriving Inhabited

namespace Peers

/-- The peers after one of them was asked something. -/
def asked (p : Peers) (e : Exchange) : Peers := { p with record := p.record ++ [e] }

/-- Sends a request to the API server, if it is reached. -/
def request (r : Request) (p : Peers) : Option Response × Peers :=
  match p.entrance with
  | some entrance =>
    let r := { r with path := entrance ++ r.path }
    let (response, server) := p.server.answer r
    (some response, { p.asked (.cluster r) with server })
  | none => (none, p)

/-- Where a request for a location goes, and what is asked for there: a proxy is told the whole location. -/
def route? (p : Peers) (location : Web.Location) : Option (String × String) :=
  if location.secure then none
  else match p.proxies.forHost? location.host with
    | some proxy => proxy.socket?.map (·, location.text)
    | none => location.socket?.map (·, location.target)

/-- What an address gives; only a profile service among the peers gives something. -/
def fetch (url : String) (p : Peers) : Option Response × Peers :=
  let found := do
    let (socket, target) ← p.route? (← Web.Location.ofText? url)
    return (target, ← p.profileServices.find? socket)
  match found with
  | some (target, response) => (some response, p.asked (.profiles target))
  | none => (none, p)

/-- What the agent behind a socket answers. -/
def listPods (socket : String) (p : Peers) : NodeAgent.Reply × Peers :=
  match p.agents.find? socket with
  | some pods => (.listing pods, p.asked .agent)
  | none => (.unreachable, p)

/-- The ways to the peers. -/
def transport : Transport Peers where
  api r := Script.modifyGet (request r)
  fetch url := Script.modifyGet (fetch url)
  listPods socket := Script.modifyGet (listPods socket)

/-- What a request to the API server is about, whatever it stands behind. -/
def target (p : Peers) (r : Request) : Target :=
  Target.ofPath (String.ofList (r.path.toList.drop ((p.entrance.getD "").length)))

/-- How often the API server was asked for a pod. -/
def podReads (p : Peers) : Nat :=
  p.record.countP fun
    | .cluster r =>
      match r.method, p.target r with
      | .get, .pod _ => true
      | _, _ => false
    | _ => false

/-- How often the API server was asked to change something. -/
def writes (p : Peers) : Nat :=
  p.record.countP fun
    | .cluster r => r.method ≠ .get
    | _ => false

end Peers

end PowerGrant
