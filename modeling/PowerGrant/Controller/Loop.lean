import PowerGrant.Controller.Rejection
import PowerGrant.Reconcile.Basic

/-!
# The controller loop

The controller watches pods and reconciles each of them when it is listed, added or changed, and again
some time after a reconcile that may succeed later. At most one reconcile per pod runs at a time and at
most one is due: of two requests the earlier counts. A pod that is gone when its reconcile is due is
left out.

The loop is a machine that is driven through time. Reconciles of different pods run side by side, each
up to its next wait at a time. Times are in milliseconds from the start.

* `Loop.step`: the next thing that happens by itself.
* `Loop.runBefore`: all that happens before a moment.
-/

namespace PowerGrant

/-- The wait before a pod that is not running yet is looked at again. -/
def notReadyDelay : Nat := 5000

/-- The wait before a reconcile that failed in passing is tried again. -/
def transientDelay : Nat := 15000

/-- When a reconcile that ended like this is to be repeated. -/
def Result.repeatAfter : Result → Option Nat
  | .error (.notReady _ _) => some notReadyDelay
  | .error (.transient _) => some transientDelay
  | _ => none

/-- A change that the watch on pods reports. -/
inductive PodChange where
  /-- The pod was added or changed. -/
  | applied (pod : Pod)
  | deleted (pod : Pod)
  deriving Inhabited

/-- A reconcile that waits for something. -/
structure Running (σ : Type) where
  key : PodKey
  /-- The pod as it was known when the reconcile began. -/
  pod : Pod
  wake : Nat
  rest : Script (Site σ) Result

/-- What the loop knows. -/
structure Loop (σ : Type) where
  now : Nat := 0
  /-- The pods as the watch reports them. -/
  known : Table PodKey Pod := {}
  /-- When the next reconcile of a pod is due. -/
  due : Table PodKey Nat := {}
  running : List (Running σ) := []
  site : Site σ
  /-- The reconciles begun, with their times, the last in front. -/
  begun : List (Nat × PodKey) := []

/-- What may happen next by itself. -/
inductive Happening (σ : Type) where
  /-- A reconcile goes on. -/
  | wakes (r : Running σ) (others : List (Running σ))
  /-- A reconcile is due. -/
  | begins (time : Nat) (key : PodKey)

namespace Loop

variable {σ : Type}

/-- What reports a rejected pod. -/
abbrev Report (σ : Type) := Rejection → Script (Site σ) Unit

/-- The loop with a reconcile of `key` due at `time`, unless one is due earlier. -/
def schedule (l : Loop σ) (key : PodKey) (time : Nat) : Loop σ :=
  match l.due.find? key with
  | some earlier => if earlier ≤ time then l else { l with due := l.due.insert key time }
  | none => { l with due := l.due.insert key time }

/-- The loop after the watch has reported a change. -/
def observe (l : Loop σ) : PodChange → Loop σ
  | .applied pod => { l with known := l.known.insert pod.key pod }.schedule pod.key l.now
  | .deleted pod => { l with known := l.known.erase pod.key }

/-- The reconcile of a pod, with a report if the pod is refused what it asks for. -/
def task (services : Services σ) (config : ReconcileConfig) (report : Report σ) (key : PodKey)
    (pod : Pod) : Script (Site σ) Result :=
  (reconcile services config key).bind fun
    | .error (.invalid e) => (report ⟨pod, e.message⟩).bind fun _ => .done (.error (.invalid e))
    | result => .done result

/-- The loop after a reconcile was carried on to its end or its next wait. -/
def carryOn (l : Loop σ) (key : PodKey) (pod : Pod) (script : Script (Site σ) Result) : Loop σ :=
  match script.advance l.site with
  | (site, .inl result) =>
    match result.repeatAfter with
    | some ms => { l with site }.schedule key (l.now + ms)
    | none => { l with site }
  | (site, .inr (ms, rest)) =>
    { l with site, running := l.running ++ [⟨key, pod, l.now + ms, rest⟩] }

/-- Whether a reconcile of `key` runs. -/
def isRunning (l : Loop σ) (key : PodKey) : Bool := l.running.any fun r => r.key = key

/-- The earliest of some reconciles that wait, and the others. -/
def earliest : List (Running σ) → Option (Running σ × List (Running σ))
  | [] => none
  | r :: rs =>
    match earliest rs with
    | some (first, others) =>
      if first.wake < r.wake then some (first, r :: others) else some (r, rs)
    | none => some (r, [])

/-- The earliest of some due times. -/
def soonest : List (PodKey × Nat) → Option (Nat × PodKey)
  | [] => none
  | (key, time) :: rest =>
    match soonest rest with
    | some (t, k) => if t < time then some (t, k) else some (time, key)
    | none => some (time, key)

/-- What happens next by itself, and when. -/
def upcoming (l : Loop σ) : Option (Nat × Happening σ) :=
  let begins := soonest (l.due.entries.filter fun e => !l.isRunning e.1)
  match earliest l.running, begins with
  | some (r, others), some (time, key) =>
    if time < r.wake then some (time, .begins time key) else some (r.wake, .wakes r others)
  | some (r, others), none => some (r.wake, .wakes r others)
  | none, some (time, key) => some (time, .begins time key)
  | none, none => none

/-- The loop after something has happened. -/
def happen (services : Services σ) (config : ReconcileConfig) (report : Report σ) (l : Loop σ) :
    Happening σ → Loop σ
  | .wakes r others =>
    { l with now := max l.now r.wake, running := others }.carryOn r.key r.pod r.rest
  | .begins time key =>
    let l := { l with now := max l.now time, due := l.due.erase key }
    match l.known.find? key with
    | some pod =>
      { l with begun := (l.now, key) :: l.begun }.carryOn key pod
        (task services config report key pod)
    | none => l

/-- The loop after the next thing that happens by itself before `moment`; nothing if none does. -/
def step (services : Services σ) (config : ReconcileConfig) (report : Report σ) (moment : Nat)
    (l : Loop σ) : Option (Loop σ) :=
  match l.upcoming with
  | some (time, h) => if time < moment then some (l.happen services config report h) else none
  | none => none

/-- The loop after as many things as `fuel` says, if so many happen before `moment`. -/
def steps (services : Services σ) (config : ReconcileConfig) (report : Report σ) (moment : Nat) :
    Nat → Loop σ → Loop σ
  | 0, l => l
  | fuel + 1, l =>
    match l.step services config report moment with
    | some l => steps services config report moment fuel l
    | none => l

/-- The loop at `moment`, after all that happens by itself before. For each pod a reconcile may begin
and one may wake in every millisecond, and no more than that. -/
def runBefore (services : Services σ) (config : ReconcileConfig) (report : Report σ) (moment : Nat)
    (l : Loop σ) : Loop σ :=
  let fuel := 2 * (moment - l.now + 1) * (l.due.size + l.running.length + 1)
  { l.steps services config report moment fuel with now := max l.now moment }

/-- The site after the reconciles that still run have ended, one after the other. -/
def finish (l : Loop σ) : Site σ :=
  l.running.foldl (fun site r => (r.rest.run site).state) l.site

end Loop

end PowerGrant
