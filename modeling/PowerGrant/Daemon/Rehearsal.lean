import PowerGrant.Daemon.Peers

/-!
# Rehearsals

A daemon is tried out among peers in memory. The pods that are there at the start are reported to it,
then changes come in stages. A stage lasts until the daemon has asked for as many pods, and for as many
changes of the cluster, as it is expected to; after a while it is given up. After the last stage the
daemon is stopped: what has begun is finished, and nothing else begins.
-/

namespace PowerGrant

/-- A stage of a rehearsal. -/
structure Rehearsal.Stage where
  /-- The changes at its start. -/
  changes : List ClusterChange := []
  /-- How many requests for a pod end it. -/
  reads : Nat := 0
  /-- How many requests to change something end it, together with the reads. -/
  writes : Nat := 0
  deriving Inhabited

/-- How a rehearsal went. -/
structure Rehearsal where
  /-- Whether no stage was given up. -/
  settled : Bool
  /-- The peers at the end. -/
  peers : Peers
  deriving Inhabited

namespace Rehearsal

/-- How long a stage may last, in milliseconds. -/
def patience : Nat := 30000

/-- The loop after the watch has reported a pod, if the API server is reached and the pod can be read. -/
def report (l : Loop Peers) (change : Pod → PodChange) (pod : Json) : Loop Peers :=
  match l.site.world.entrance, Pod.ofJson? pod with
  | some _, some pod => l.observe (change pod)
  | _, _ => l

/-- The loop after a change of the cluster, which is reported at once. -/
def observe (l : Loop Peers) (c : ClusterChange) : Loop Peers :=
  let server := l.site.world.server.change c
  let l := { l with site := { l.site with world := { l.site.world with server } } }
  match c with
  | .applied pod => report l .applied pod
  | .deleted pod => report l .deleted pod

/-- The loop once the peers are as expected, if they are before `moment`. -/
def runUntil (o : DaemonOptions) (expected : Peers → Bool) (moment : Nat) :
    Nat → Loop Peers → Loop Peers
  | 0, l => l
  | fuel + 1, l =>
    if expected l.site.world then l
    else
      match Peers.transport.step o moment l with
      | some l => runUntil o expected moment fuel l
      | none => l

/-- The loop after a stage, and whether the stage came to its end. -/
def stage (o : DaemonOptions) (l : Loop Peers) (s : Stage) : Loop Peers × Bool :=
  let before := l.site.world
  let expected (p : Peers) : Bool :=
    before.podReads + s.reads ≤ p.podReads && before.writes + s.writes ≤ p.writes
  let l := s.changes.foldl observe l
  let fuel := 2 * (patience + 1) * (l.due.size + l.running.length + 1)
  let l := runUntil o expected (l.now + patience) fuel l
  (l, expected l.site.world)

/-- The loop after stages, and whether all of them came to their end. -/
def stages (o : DaemonOptions) (l : Loop Peers) : List Stage → Loop Peers × Bool
  | [] => (l, true)
  | s :: ss =>
    let (l, ended) := stage o l s
    let (l, rest) := stages o l ss
    (l, ended && rest)

/-- A rehearsal of a daemon among peers to whom these pods are known at the start. -/
def run (o : DaemonOptions) (peers : Peers) (listed : List Json) (ss : List Stage) : Rehearsal :=
  let start : Loop Peers := { site := ⟨{}, peers⟩ }
  let (l, settled) := stages o (listed.foldl (report · .applied) start) ss
  ⟨settled, l.finish.world⟩

end Rehearsal

end PowerGrant
