/-!
# Scripts

A script is what one task does to a state and how long it waits in between. It is data: `run`
carries it out undisturbed, and other readings of the same script may let the state change while it
waits. Time is counted in milliseconds and passes only in waits.

* `Script.within`: the script cut off at a deadline. Nothing that came after the cut is left in it,
  so what was cut off cannot have an effect later.
* `Script.run_bind`: a script after another starts in the state that the other left, and their times
  add up.
-/

namespace PowerGrant

/-- What a task does to a state of type `σ` until it ends with a value of type `α`. -/
inductive Script (σ α : Type) where
  /-- The end. -/
  | done (value : α)
  /-- A step that takes no time: the state is updated, and what comes next depends on the state
  before the update. -/
  | act (update : σ → σ) (next : σ → Script σ α)
  /-- A wait. -/
  | wait (ms : Nat) (next : Script σ α)

/-- How a run of a script ended. -/
structure Ran (σ α : Type) where
  value : α
  /-- The time it took, in milliseconds. -/
  elapsed : Nat
  /-- The state in which it left. -/
  state : σ

namespace Script

variable {σ τ α β : Type}

/-- The script that goes on with what `f` makes of the value of `s`. -/
def bind : Script σ α → (α → Script σ β) → Script σ β
  | done a, f => f a
  | act update next, f => act update fun s => bind (next s) f
  | wait ms next, f => wait ms (bind next f)

instance : Monad (Script σ) where
  pure := done
  bind := bind

/-- The value that `f` finds in the state. -/
def read (f : σ → α) : Script σ α :=
  act id fun s => done (f s)

/-- A change of the state. -/
def update (f : σ → σ) : Script σ Unit :=
  act f fun _ => done ()

/-- A change of the state that also gives a value. -/
def modifyGet (f : σ → α × σ) : Script σ α :=
  act (fun s => (f s).2) fun s => done (f s).1

/-- A wait. -/
def sleep (ms : Nat) : Script σ Unit :=
  wait ms (done ())

/-- The script on a part of a larger state. -/
def onPart (get : τ → σ) (set : σ → τ → τ) : Script σ α → Script τ α
  | done a => done a
  | act update next => act (fun t => set (update (get t)) t) fun t => onPart get set (next (get t))
  | wait ms next => wait ms (onPart get set next)

/-- The script cut off after `limit` milliseconds; it gives nothing if it was. A script that ends
right at its deadline has ended. -/
def within : Nat → Script σ α → Script σ (Option α)
  | _, done a => done (some a)
  | limit, act update next => act update fun s => within limit (next s)
  | limit, wait ms next =>
    if ms ≤ limit then wait ms (within (limit - ms) next) else wait limit (done none)

/-- Carries out a script from a state that nothing else changes. -/
def run : Script σ α → σ → Ran σ α
  | done a, s => ⟨a, 0, s⟩
  | act update next, s => run (next s) (update s)
  | wait ms next, s =>
    let r := run next s
    { r with elapsed := ms + r.elapsed }

/-- Carries out a script up to its end or its next wait that takes time: the state then, and the value
or the wait with what comes after it. -/
def advance : Script σ α → σ → σ × (α ⊕ Nat × Script σ α)
  | done a, s => (s, .inl a)
  | act update next, s => advance (next s) (update s)
  | wait ms next, s => if ms = 0 then advance next s else (s, .inr (ms, next))

@[simp] theorem pure_eq_done (a : α) : (pure a : Script σ α) = done a := rfl

@[simp] theorem bind_eq (x : Script σ α) (f : α → Script σ β) : x >>= f = bind x f := rfl

@[simp] theorem run_done (a : α) (s : σ) : (done a).run s = ⟨a, 0, s⟩ := rfl

/-- A script after another starts in the state that the other left, and their times add up. -/
theorem run_bind (x : Script σ α) (f : α → Script σ β) (s : σ) :
    (x.bind f).run s =
      { (f (x.run s).value).run (x.run s).state with
        elapsed := (x.run s).elapsed + ((f (x.run s).value).run (x.run s).state).elapsed } := by
  induction x generalizing s with
  | done a => simp [bind, run]
  | act update next ih => simp [bind, run, ih]
  | wait ms next ih => simp [bind, run, ih, Nat.add_assoc]

/-- A script on a part of a larger state changes nothing but that part. -/
theorem run_onPart {get : τ → σ} {set : σ → τ → τ} (hget : ∀ s t, get (set s t) = s)
    (hset : ∀ s s' t, set s' (set s t) = set s' t) (hself : ∀ t, set (get t) t = t)
    (x : Script σ α) (t : τ) :
    (x.onPart get set).run t =
      ⟨(x.run (get t)).value, (x.run (get t)).elapsed, set (x.run (get t)).state t⟩ := by
  induction x generalizing t with
  | done a => simp [onPart, hself]
  | act update next ih => simp [onPart, run, ih, hget, hset]
  | wait ms next ih => simp [onPart, run, ih]

theorem bind_done (x : Script σ α) : x.bind done = x := by
  induction x with
  | done a => rfl
  | act update next ih => simp [bind, ih]
  | wait ms next ih => simp [bind, ih]

theorem bind_assoc {γ : Type} (x : Script σ α) (f : α → Script σ β) (g : β → Script σ γ) :
    (x.bind f).bind g = x.bind fun a => (f a).bind g := by
  induction x with
  | done a => rfl
  | act update next ih => simp [bind, ih]
  | wait ms next ih => simp [bind, ih]

/-- A script that takes no longer than its deadline is not cut off. -/
theorem run_within_of_le {limit : Nat} {x : Script σ α} {s : σ} (h : (x.run s).elapsed ≤ limit) :
    (x.within limit).run s =
      ⟨some (x.run s).value, (x.run s).elapsed, (x.run s).state⟩ := by
  induction x generalizing limit s with
  | done a => rfl
  | act update next ih => exact ih s (s := update s) h
  | wait ms next ih =>
    simp only [run] at h
    have hle : ms ≤ limit := by omega
    simp only [within, hle, ↓reduceIte, run, ih (show (next.run s).elapsed ≤ limit - ms by omega)]

/-- A script that would take longer than its deadline ends there, with nothing. -/
theorem run_within_of_lt {limit : Nat} {x : Script σ α} {s : σ} (h : limit < (x.run s).elapsed) :
    ((x.within limit).run s).value = none ∧ ((x.within limit).run s).elapsed = limit := by
  induction x generalizing limit s with
  | done a => simp [run] at h
  | act update next ih => exact ih s (s := update s) h
  | wait ms next ih =>
    simp only [within]
    split
    · rename_i hle
      simp only [run] at h ⊢
      have := @ih (limit - ms) s (by omega)
      exact ⟨this.1, by rw [this.2]; omega⟩
    · simp [run]

end Script

end PowerGrant
