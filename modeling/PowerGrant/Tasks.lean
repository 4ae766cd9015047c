/-!
# Waiting for tasks

A program runs its tasks until a signal asks it to stop. Then it cancels them and waits for all of
them, but no longer than `shutdownTimeout`. A task that ends before any signal ends the wait at once,
since no task should.

Times are in milliseconds from the start of the wait.

* `Task.supervise`: how a wait ends, and when it cancels the tasks.
-/

namespace PowerGrant

/-- How long tasks may take to end after a signal, in milliseconds. -/
def shutdownTimeout : Nat := 30000

/-- How and when a task ends. -/
structure Ending where
  time : Nat
  /-- Whether it ends by a failure that it does not handle. -/
  crashed : Bool
  deriving DecidableEq, Repr, Inhabited

/-- A task: how it ends if it is left alone, and how if it is cancelled at a time; it may not end. -/
structure Task where
  alone : Option Ending
  cancelled : Nat → Option Ending

/-- How a wait for tasks ends. -/
inductive Wait where
  /-- It ends well at this time, with the tasks cancelled. -/
  | completed (time : Nat)
  /-- It ends at this time because a task has crashed. -/
  | crashed (time : Nat)
  /-- There is nothing to wait for. -/
  | noTasks
  /-- It does not end. -/
  | endless
  deriving DecidableEq, Repr, Inhabited

/-- What a wait for tasks comes to. -/
structure Supervision where
  wait : Wait
  /-- When the tasks are cancelled, if they are. -/
  cancelled : Option Nat := none
  deriving DecidableEq, Repr, Inhabited

namespace Task

/-- How the task ends if it is cancelled at `time`: as it would have alone, if that was before. -/
def endingAfter (t : Task) (time : Nat) : Option Ending :=
  match t.alone with
  | some e => if e.time < time then some e else t.cancelled time
  | none => t.cancelled time

/-- The earlier of two endings, the first one if they fall together. -/
def earlier (a b : Option Ending) : Option Ending :=
  match a, b with
  | some a, some b => if b.time < a.time then some b else some a
  | some a, none => some a
  | none, b => b

/-- The first ending of tasks that are left alone. -/
def firstEnding : List Task → Option Ending
  | [] => none
  | t :: ts => earlier t.alone (firstEnding ts)

/-- The time at which tasks that end like this have been waited for one after the other, from `now`
on, or the deadline if that comes first. -/
def awaitEach (deadline now : Nat) : List (Option Ending) → Nat
  | [] => now
  | none :: _ => deadline
  | some e :: rest =>
    if max now e.time ≤ deadline then awaitEach deadline (max now e.time) rest else deadline

/-- A wait in which a signal came at `time`, before any task ended. -/
def shutDown (tasks : List Task) (time : Nat) : Supervision where
  wait := .completed (awaitEach (time + shutdownTimeout) time (tasks.map (·.endingAfter time)))
  cancelled := some time

/-- A wait in which a task ended before any signal. -/
def endedBy (e : Ending) : Supervision :=
  if e.crashed then ⟨.crashed e.time, none⟩ else ⟨.completed e.time, some e.time⟩

/-- What a wait for tasks comes to when a signal comes at a time, or never. -/
def supervise (tasks : List Task) (signal : Option Nat) : Supervision :=
  if tasks.isEmpty then { wait := .noTasks }
  else
    match firstEnding tasks, signal with
    | some e, some time => if time < e.time then shutDown tasks time else endedBy e
    | some e, none => endedBy e
    | none, some time => shutDown tasks time
    | none, none => { wait := .endless }

/-- How a wait for tasks ends when a signal comes at a time, or never. -/
def waitFor (tasks : List Task) (signal : Option Nat) : Wait := (supervise tasks signal).wait

end Task

end PowerGrant
