import PowerGrant.Table

/-!
# Locks by key

One lock per key, made when it is first asked for and forgotten when nobody needs it. Behind each
listed key stands a mutex, known by a number, with the requests for it in the order in which they were
made: the first of them owns it, also before its task has noticed. A task may make several requests.

Nobody keeps a mutex alive but these requests. Each of them refers to it twice, so a mutex is dead as
soon as no request is left, and a listed key whose mutex is dead gets a new one when it is asked for
again. A task that releases a mutex strikes its key off the list if no other request refers to it; a
task that stops waiting strikes off nothing.
-/

namespace PowerGrant

/-- A request for a mutex. -/
structure Seat (κ τ : Type) where
  task : τ
  /-- The number of the request. -/
  ticket : Nat
  key : κ
  mutex : Nat
  deriving DecidableEq, Repr

/-- Locks for keys of type `κ` and tasks of type `τ`. -/
structure KeyedLock (κ τ : Type) [Ord κ] where
  /-- The mutex listed for each key. -/
  entries : Table κ Nat := {}
  /-- The tickets for each mutex, its owner's first. -/
  queues : Table Nat (List Nat) := {}
  /-- What tasks hold, the longest held first. -/
  held : List (Seat κ τ) := []
  /-- What tasks wait for, also if they own it and have not noticed, the longest awaited first. -/
  awaited : List (Seat κ τ) := []
  /-- The number of mutexes made. -/
  made : Nat := 0
  /-- The number of tickets given out. -/
  tickets : Nat := 0

/-- What a step on a lock gives. -/
inductive LockResult where
  | acquired
  | pending
  | released
  | cancelled
  /-- The step is not open to the task. -/
  | refused
  deriving DecidableEq, Repr, Inhabited

/-- A step of a task. Of several requests that it is open to, it is about the longest standing. -/
inductive LockStep (κ τ : Type) where
  /-- Asks for the lock of a key. -/
  | lock (task : τ) (key : κ)
  /-- Looks whether a lock that it waits for is there. -/
  | poll (task : τ)
  | release (task : τ)
  /-- Stops waiting. -/
  | cancel (task : τ)
  deriving DecidableEq, Repr

namespace KeyedLock

variable {κ τ : Type} [Ord κ] [Std.TransOrd κ] [Std.LawfulEqOrd κ] [DecidableEq τ]

omit [Std.TransOrd κ] [Std.LawfulEqOrd κ] [DecidableEq τ] in
/-- How many references the requests keep to a mutex: two each. -/
def references (l : KeyedLock κ τ) (mutex : Nat) : Nat :=
  2 * (l.held ++ l.awaited).countP fun s => s.mutex = mutex

/-- The number of keys listed. -/
def size (l : KeyedLock κ τ) : Nat := l.entries.size

/-- Whether no key is listed. -/
def isEmpty (l : KeyedLock κ τ) : Bool := l.entries.isEmpty

/-- The tickets for a mutex. -/
def queueOf (l : KeyedLock κ τ) (mutex : Nat) : List Nat := (l.queues.find? mutex).getD []

/-- The mutex to use for a key, which is made and listed if there is no live one. -/
def mutexFor (l : KeyedLock κ τ) (key : κ) : Nat × KeyedLock κ τ :=
  match l.entries.find? key with
  | some mutex =>
    if l.references mutex = 0 then
      (l.made, { l with entries := l.entries.insert key l.made, made := l.made + 1 })
    else (mutex, l)
  | none => (l.made, { l with entries := l.entries.insert key l.made, made := l.made + 1 })

/-- The lock with a request at the end of a mutex's queue, and whether it is the first there. -/
def enqueue (l : KeyedLock κ τ) (task : τ) (key : κ) (mutex : Nat) : Bool × KeyedLock κ τ :=
  let seat : Seat κ τ := ⟨task, l.tickets, key, mutex⟩
  let queue := l.queueOf mutex
  let l := { l with
    queues := l.queues.insert mutex (queue ++ [l.tickets])
    tickets := l.tickets + 1 }
  if queue.isEmpty then (true, { l with held := l.held ++ [seat] })
  else (false, { l with awaited := l.awaited ++ [seat] })

/-- The lock without a request; the next request for its mutex owns that if this one did. -/
def leave (l : KeyedLock κ τ) (seat : Seat κ τ) : KeyedLock κ τ :=
  let rest := (l.queueOf seat.mutex).erase seat.ticket
  { l with
    queues := if rest = [] then l.queues.erase seat.mutex else l.queues.insert seat.mutex rest
    held := l.held.filter fun s => s.ticket ≠ seat.ticket
    awaited := l.awaited.filter fun s => s.ticket ≠ seat.ticket }

/-- The lock after a mutex has been released: its key is struck off if the reference that the
releasing task still has is the last one. -/
def forget (l : KeyedLock κ τ) (key : κ) (mutex : Nat) : KeyedLock κ τ :=
  if l.references mutex = 0 then
    match l.entries.find? key with
    | some listed =>
      if l.references listed + (if listed = mutex then 1 else 0) ≤ 1 then
        { l with entries := l.entries.erase key }
      else l
    | none => l
  else l

/-- The first request of a task among some. -/
def seatOf? (task : τ) (seats : List (Seat κ τ)) : Option (Seat κ τ) :=
  seats.find? fun s => s.task = task

/-- The lock after a step, and what the step gives. -/
def step (l : KeyedLock κ τ) : LockStep κ τ → LockResult × KeyedLock κ τ
  | .lock task key =>
    let (mutex, l) := l.mutexFor key
    let (first, l) := l.enqueue task key mutex
    (if first then .acquired else .pending, l)
  | .poll task =>
    match seatOf? task l.awaited with
    | some seat =>
      if (l.queueOf seat.mutex).head? = some seat.ticket then
        (.acquired, { l with
          held := l.held ++ [seat]
          awaited := l.awaited.filter fun s => s.ticket ≠ seat.ticket })
      else (.pending, l)
    | none => (.refused, l)
  | .release task =>
    match seatOf? task l.held with
    | some seat => (.released, (l.leave seat).forget seat.key seat.mutex)
    | none => (.refused, l)
  | .cancel task =>
    match seatOf? task l.awaited with
    | some seat => (.cancelled, l.leave seat)
    | none => (.refused, l)

end KeyedLock

end PowerGrant
