import PowerGrant.Controller.Loop
import PowerGrant.World.Basic

/-!
# The controller in a world of tables

The controller loop on a world whose pods change at given times. Each change takes effect in the world
at the moment at which the watch reports it.
-/

namespace PowerGrant

/-- A world with the rejections that were reported, the first in front. -/
structure WatchedWorld where
  world : World := {}
  rejections : List Rejection := []
  deriving Inhabited

namespace WatchedWorld

/-- The services of the world. -/
def services : Services WatchedWorld :=
  World.services.onPart WatchedWorld.world fun world w => { w with world }

/-- Keeps a rejection. -/
def report (r : Rejection) : Script (Site WatchedWorld) Unit :=
  (Script.update fun (w : WatchedWorld) => { w with rejections := w.rejections ++ [r] }).onWorld

/-- The world after a change of its pods. -/
def change (w : WatchedWorld) : PodChange → WatchedWorld
  | .applied pod => { w with world := w.world.putPod pod }
  | .deleted pod => { w with world := { w.world with pods := w.world.pods.erase pod.key.text } }

/-- The loop after a change that is made and reported at once. -/
def observe (l : Loop WatchedWorld) (c : PodChange) : Loop WatchedWorld :=
  { l with site := { l.site with world := l.site.world.change c } }.observe c

/-- The loop after changes that happen at these times, in order, up to the moment at which it is
stopped. Reconciles that have begun are ended. -/
def runUntil (config : ReconcileConfig) (stop : Nat) (l : Loop WatchedWorld) :
    List (Nat × PodChange) → Loop WatchedWorld
  | [] =>
    let l := l.runBefore services config report stop
    { l with site := l.finish, running := [] }
  | (time, c) :: changes =>
    if time < stop then
      runUntil config stop (observe (l.runBefore services config report time) c) changes
    else
      runUntil config stop l changes

/-- A run of the controller in a world in which some pods are there at the start and others change
later. -/
def run (config : ReconcileConfig) (world : World) (listed : List Pod)
    (changes : List (Nat × PodChange)) (stop : Nat) : Loop WatchedWorld :=
  let start : Loop WatchedWorld := { site := ⟨{}, { world }⟩ }
  runUntil config stop (listed.foldl (fun l pod => observe l (.applied pod)) start) changes

end WatchedWorld

end PowerGrant
