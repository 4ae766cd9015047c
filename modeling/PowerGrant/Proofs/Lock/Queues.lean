import PowerGrant.Lock.Keyed
import Mathlib.Logic.Function.Basic

/-!
# Queues by key

The locks as their users may think of them: one queue of tasks for each key, without mutexes,
tickets or a list of keys. A task that asks for a key joins the queue of the key, the one at its
head owns the lock, and whoever releases a lock or stops waiting for it leaves the queue.

* **Keys on their own** (`Queues.results_about`): what the steps about one key give is what they
  give without the other steps. `Alone` relates the queues to those of one key, `Alone.step` and
  `Alone.other` say what a step about that key and any other step do to the relation.
-/

namespace PowerGrant

/-! ## Steps one after the other -/

namespace Steps

variable {σ ι ρ κ : Type} [DecidableEq κ] (step : σ → ι → ρ × σ) (key? : σ → ι → Option κ)

omit [DecidableEq κ] in
/-- What steps give one after the other, and the state after them. -/
def run (s : σ) : List ι → List ρ × σ
  | [] => ([], s)
  | i :: steps => ((step s i).1 :: (run (step s i).2 steps).1, (run (step s i).2 steps).2)

/-- The steps that are about a key in the state in which they are taken. -/
def about (key : κ) (s : σ) : List ι → List ι
  | [] => []
  | i :: steps =>
    if key? s i = some key then i :: about key (step s i).2 steps
    else about key (step s i).2 steps

/-- What the steps about a key give. -/
def resultsAbout (key : κ) (s : σ) : List ι → List ρ
  | [] => []
  | i :: steps =>
    if key? s i = some key then (step s i).1 :: resultsAbout key (step s i).2 steps
    else resultsAbout key (step s i).2 steps

end Steps

/-! ## The queues -/

/-- A request in the queue of a key. -/
structure QueuePlace (τ : Type) where
  task : τ
  /-- Whether the task has noticed that it owns the lock. -/
  taken : Bool
  deriving DecidableEq, Repr

/-- One queue for each key of `κ`, with requests of tasks of `τ`. -/
structure Queues (κ τ : Type) where
  /-- The requests for a key, its owner's first. -/
  queue : κ → List (QueuePlace τ)
  /-- The keys that a task holds, the longest held first. -/
  held : τ → List κ
  /-- The keys that a task waits for, the longest awaited first. -/
  awaited : τ → List κ

namespace Queues

variable {κ τ : Type} [DecidableEq κ] [DecidableEq τ]

omit [DecidableEq κ] [DecidableEq τ] in
@[ext] protected theorem ext {q p : Queues κ τ} (hq : ∀ k, q.queue k = p.queue k)
    (hh : ∀ t, q.held t = p.held t) (ha : ∀ t, q.awaited t = p.awaited t) : q = p := by
  obtain ⟨_, _, _⟩ := q
  obtain ⟨_, _, _⟩ := p
  simp only [mk.injEq]
  exact ⟨funext hq, funext hh, funext ha⟩

/-- The queues before anybody has asked. -/
def empty : Queues κ τ := ⟨fun _ => [], fun _ => [], fun _ => []⟩

/-- The queues after a step, and what the step gives. -/
def step (q : Queues κ τ) : LockStep κ τ → LockResult × Queues κ τ
  | .lock task key =>
    if q.queue key = [] then
      (.acquired, { q with
        queue := Function.update q.queue key [⟨task, true⟩]
        held := Function.update q.held task (q.held task ++ [key]) })
    else
      (.pending, { q with
        queue := Function.update q.queue key (q.queue key ++ [⟨task, false⟩])
        awaited := Function.update q.awaited task (q.awaited task ++ [key]) })
  | .poll task =>
    match q.awaited task with
    | key :: rest =>
      if (q.queue key).head? = some ⟨task, false⟩ then
        (.acquired, {
          queue := Function.update q.queue key (⟨task, true⟩ :: (q.queue key).tail)
          held := Function.update q.held task (q.held task ++ [key])
          awaited := Function.update q.awaited task rest })
      else (.pending, q)
    | [] => (.refused, q)
  | .release task =>
    match q.held task with
    | key :: rest =>
      (.released, { q with
        queue := Function.update q.queue key ((q.queue key).erase ⟨task, true⟩)
        held := Function.update q.held task rest })
    | [] => (.refused, q)
  | .cancel task =>
    match q.awaited task with
    | key :: rest =>
      (.cancelled, { q with
        queue := Function.update q.queue key ((q.queue key).erase ⟨task, false⟩)
        awaited := Function.update q.awaited task rest })
    | [] => (.refused, q)

omit [DecidableEq κ] [DecidableEq τ] in
/-- The key that a step is about, if it is open to its task. -/
def keyOf? (q : Queues κ τ) : LockStep κ τ → Option κ
  | .lock _ key => some key
  | .poll task => (q.awaited task).head?
  | .release task => (q.held task).head?
  | .cancel task => (q.awaited task).head?

/-! ## Keys on their own -/

/-- `p` has of `q` what is about `key`. -/
structure Alone (key : κ) (q p : Queues κ τ) : Prop where
  queue : p.queue key = q.queue key
  held : ∀ task, p.held task = (q.held task).filter (· = key)
  awaited : ∀ task, p.awaited task = (q.awaited task).filter (· = key)

omit [DecidableEq τ] in
theorem Alone.empty (key : κ) : Alone key (Queues.empty : Queues κ τ) Queues.empty :=
  ⟨rfl, fun _ => rfl, fun _ => rfl⟩

/-- A step about the key gives the same without what is about other keys. -/
theorem Alone.step {key : κ} {q p : Queues κ τ} (h : Alone key q p) {s : LockStep κ τ}
    (hs : q.keyOf? s = some key) :
    (p.step s).1 = (q.step s).1 ∧ Alone key (q.step s).2 (p.step s).2 := by
  obtain ⟨hqueue, hheld, hawaited⟩ := h
  cases s with
  | lock task key' =>
    obtain rfl : key' = key := by simpa [keyOf?] using hs
    by_cases hq : q.queue key' = []
    · simp only [Queues.step, hqueue, hq, if_true, true_and]
      refine ⟨by simp, fun t => ?_, hawaited⟩
      by_cases ht : t = task <;> simp [ht, hheld]
    · simp only [Queues.step, hqueue, hq, if_false, true_and]
      refine ⟨by simp, hheld, fun t => ?_⟩
      by_cases ht : t = task <;> simp [ht, hawaited]
  | poll task =>
    obtain ⟨rest, hr⟩ := List.head?_eq_some_iff.1 hs
    have hp : p.awaited task = key :: rest.filter (· = key) := by simp [hawaited, hr]
    simp only [Queues.step, hr, hp, hqueue]
    split
    · refine ⟨rfl, by simp, fun t => ?_, fun t => ?_⟩ <;>
        by_cases ht : t = task <;> simp [ht, hheld, hawaited]
    · exact ⟨rfl, hqueue, hheld, hawaited⟩
  | release task =>
    obtain ⟨rest, hr⟩ := List.head?_eq_some_iff.1 hs
    have hp : p.held task = key :: rest.filter (· = key) := by simp [hheld, hr]
    simp only [Queues.step, hr, hp, hqueue, true_and]
    refine ⟨by simp, fun t => ?_, hawaited⟩
    by_cases ht : t = task <;> simp [ht, hheld]
  | cancel task =>
    obtain ⟨rest, hr⟩ := List.head?_eq_some_iff.1 hs
    have hp : p.awaited task = key :: rest.filter (· = key) := by simp [hawaited, hr]
    simp only [Queues.step, hr, hp, hqueue, true_and]
    refine ⟨by simp, hheld, fun t => ?_⟩
    by_cases ht : t = task <;> simp [ht, hawaited]

/-- Any other step changes nothing that is about the key. -/
theorem Alone.other {key : κ} {q p : Queues κ τ} (h : Alone key q p) {s : LockStep κ τ}
    (hs : q.keyOf? s ≠ some key) : Alone key (q.step s).2 p := by
  obtain ⟨hqueue, hheld, hawaited⟩ := h
  cases s with
  | lock task key' =>
    have hne : key' ≠ key := by simpa [keyOf?] using hs
    by_cases hq : q.queue key' = []
    · simp only [Queues.step, hq, if_true]
      refine ⟨by simp [hne.symm, hqueue], fun t => ?_, hawaited⟩
      by_cases ht : t = task <;> simp [ht, hheld, hne]
    · simp only [Queues.step, hq, if_false]
      refine ⟨by simp [hne.symm, hqueue], hheld, fun t => ?_⟩
      by_cases ht : t = task <;> simp [ht, hawaited, hne]
  | poll task =>
    cases hr : q.awaited task with
    | nil => simpa only [Queues.step, hr] using ⟨hqueue, hheld, hawaited⟩
    | cons key' rest =>
      have hne : key' ≠ key := by simpa [keyOf?, hr] using hs
      simp only [Queues.step, hr]
      split
      · refine ⟨by simp [hne.symm, hqueue], fun t => ?_, fun t => ?_⟩ <;>
          by_cases ht : t = task <;> simp [ht, hheld, hawaited, hr, hne]
      · exact ⟨hqueue, hheld, hawaited⟩
  | release task =>
    cases hr : q.held task with
    | nil => simpa only [Queues.step, hr] using ⟨hqueue, hheld, hawaited⟩
    | cons key' rest =>
      have hne : key' ≠ key := by simpa [keyOf?, hr] using hs
      simp only [Queues.step, hr]
      refine ⟨by simp [hne.symm, hqueue], fun t => ?_, hawaited⟩
      by_cases ht : t = task <;> simp [ht, hheld, hr, hne]
  | cancel task =>
    cases hr : q.awaited task with
    | nil => simpa only [Queues.step, hr] using ⟨hqueue, hheld, hawaited⟩
    | cons key' rest =>
      have hne : key' ≠ key := by simpa [keyOf?, hr] using hs
      simp only [Queues.step, hr]
      refine ⟨by simp [hne.symm, hqueue], hheld, fun t => ?_⟩
      by_cases ht : t = task <;> simp [ht, hawaited, hr, hne]

/-- What the steps about a key give is what they give without the other steps. -/
theorem results_about {key : κ} {q p : Queues κ τ} (h : Alone key q p)
    (steps : List (LockStep κ τ)) :
    (Steps.run step p (Steps.about step keyOf? key q steps)).1 =
      Steps.resultsAbout step keyOf? key q steps := by
  induction steps generalizing q p with
  | nil => rfl
  | cons s steps ih =>
    by_cases hs : q.keyOf? s = some key
    · obtain ⟨hresult, halone⟩ := h.step hs
      simp only [Steps.about, Steps.resultsAbout, hs, if_true, Steps.run, hresult, ih halone]
    · simp only [Steps.about, Steps.resultsAbout, hs, if_false, ih (h.other hs)]

end Queues

end PowerGrant
