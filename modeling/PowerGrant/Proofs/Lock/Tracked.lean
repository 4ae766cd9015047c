import Mathlib.Data.Finset.Card
import PowerGrant.Proofs.Lock.Keyed

/-!
# Which keys a lock lists

A lock lists the keys that somebody holds or waits for, and strikes one off with its last release.
A key is left over if the last who had asked for it gave up waiting instead, whether it owned the
lock by then or not.

* **Steps** (`Inv.leftOver_step`): only giving up leaves a key over, and only asking for the key
  ends that.
* **Runs** (`Inv.leftOver_run`): so what is left over after a run can be told from its steps.
* **Keys** (`tracked`): the list has these keys and those asked for, a key that is left over is
  there for the next one to ask, and where nobody gives up waiting the list is empty as soon as
  nobody holds or waits for anything.
-/

namespace PowerGrant

/-- A step leaves the queue of a key as it is unless it is about the key. -/
theorem Queues.queue_step_of_other {κ τ : Type} [DecidableEq κ] [DecidableEq τ] {q : Queues κ τ}
    {key : κ} {s : LockStep κ τ} (hs : q.keyOf? s ≠ some key) :
    (q.step s).2.queue key = q.queue key := by
  have halone : Alone key q
      ⟨q.queue, fun t => (q.held t).filter (· = key), fun t => (q.awaited t).filter (· = key)⟩ :=
    ⟨rfl, fun _ => rfl, fun _ => rfl⟩
  exact (halone.other hs).queue.symm

namespace KeyedLock

variable {κ τ : Type} [Ord κ]

/-- Somebody holds the key or waits for it. -/
def Asked (l : KeyedLock κ τ) (key : κ) : Prop := ∃ s ∈ l.seats, s.key = key

instance [DecidableEq κ] (l : KeyedLock κ τ) (key : κ) : Decidable (l.Asked key) :=
  inferInstanceAs (Decidable (∃ s ∈ l.seats, s.key = key))

/-- The key is listed, and nobody holds it or waits for it. -/
def LeftOver (l : KeyedLock κ τ) (key : κ) : Prop :=
  l.entries.contains key = true ∧ ¬ l.Asked key

variable {l : KeyedLock κ τ} {key k : κ} {task : τ} {mutex : Nat} {seat : Seat κ τ}

/-! ## What is asked for -/

theorem not_asked_iff [DecidableEq κ] [DecidableEq τ] :
    ¬ l.Asked key ↔ l.toQueues.queue key = [] := by
  simp only [Asked, not_exists, not_and, toQueues, List.append_eq_nil_iff, List.map_eq_nil_iff,
    List.filter_eq_nil_iff, decide_eq_true_eq, seats, List.forall_mem_append]

theorem Inv.contains_iff (h : l.Inv) :
    l.entries.contains key = true ↔ l.Asked key ∨ l.LeftOver key := by
  constructor
  · intro hc
    by_cases ha : l.Asked key
    · exact .inl ha
    · exact .inr ⟨hc, ha⟩
  · rintro (⟨s, hs, rfl⟩ | ⟨hc, -⟩)
    · simp [Table.contains, h.listed s hs]
    · exact hc

theorem asked_of_seatOf?_awaited [DecidableEq τ] (h : seatOf? task l.awaited = some seat) :
    l.Asked seat.key :=
  ⟨seat, List.mem_append_right _ (List.mem_of_find?_eq_some h), rfl⟩

theorem asked_of_seatOf?_held [DecidableEq τ] (h : seatOf? task l.held = some seat) :
    l.Asked seat.key :=
  ⟨seat, List.mem_append_left _ (List.mem_of_find?_eq_some h), rfl⟩

/-! ## What is listed after a step -/

theorem entries_enqueue (task : τ) (key : κ) (mutex : Nat) :
    (l.enqueue task key mutex).2.entries = l.entries := by
  unfold enqueue
  dsimp only
  split <;> rfl

theorem entries_leave (seat : Seat κ τ) : (l.leave seat).entries = l.entries := rfl

/-- The key of a request is still listed right after that has gone. -/
theorem Inv.listed_leave (h : l.Inv) (hs : seat ∈ l.seats) :
    (l.leave seat).entries.find? seat.key = some seat.mutex := h.listed seat hs

section Listed

variable [Std.LawfulEqOrd κ] [DecidableEq κ]

/-- A key is struck off when it is released and nobody refers to its mutex. -/
theorem find?_forget (hm : l.entries.find? key = some mutex) :
    (l.forget key mutex).entries.find? k =
      if k = key ∧ l.references mutex = 0 then none else l.entries.find? k := by
  unfold forget
  split
  · rename_i hr
    simp [hm, hr, Table.find?_erase]
  · rename_i hr
    simp [hr]

variable [Std.TransOrd κ] [DecidableEq τ] {s : LockStep κ τ}

omit [DecidableEq τ] in
theorem find?_mutexFor (hk : k ≠ key) :
    (l.mutexFor key).2.entries.find? k = l.entries.find? k := by
  unfold mutexFor
  split
  · split
    · rw [Table.find?_insert, if_neg hk]
    · rfl
  · rw [Table.find?_insert, if_neg hk]

/-- What is listed for a key stays as it is unless the step is about the key. -/
theorem Inv.find?_step_of_other (h : l.Inv) (hs : l.keyOf? s ≠ some key) :
    (l.step s).2.entries.find? key = l.entries.find? key := by
  cases s with
  | lock task key' =>
    have hne : key ≠ key' := fun e => hs (congrArg some e.symm)
    show ((l.mutexFor key').2.enqueue task key' _).2.entries.find? key = _
    rw [entries_enqueue, find?_mutexFor hne]
  | poll task =>
    simp only [step]
    split
    · split <;> rfl
    · rfl
  | release task =>
    simp only [step]
    split
    · rename_i seat hseat
      have hne : key ≠ seat.key := fun e => hs (by simp [keyOf?, hseat, e])
      have hs : seat ∈ l.seats := List.mem_append_left _ (List.mem_of_find?_eq_some hseat)
      show ((l.leave seat).forget seat.key seat.mutex).entries.find? key = _
      rw [find?_forget (h.listed_leave hs), if_neg fun e => hne e.1, entries_leave]
    · rfl
  | cancel task =>
    simp only [step]
    split <;> rfl

theorem Inv.asked_step_of_other (h : l.Inv) (hs : l.keyOf? s ≠ some key) :
    (l.step s).2.Asked key ↔ l.Asked key := by
  rw [← not_iff_not, not_asked_iff, not_asked_iff, (h.follows s).queues,
    Queues.queue_step_of_other (by rwa [keyOf?_toQueues])]

theorem Inv.asked_lock (h : l.Inv) (task : τ) (key : κ) :
    (l.step (.lock task key)).2.Asked key := by
  by_contra hnot
  rw [not_asked_iff, (h.lock task key).queues, Queues.step] at hnot
  split at hnot <;> simp at hnot

omit [DecidableEq κ] in
theorem asked_poll (hseat : seatOf? task l.awaited = some seat) :
    (l.step (.poll task)).2.Asked seat.key := by
  simp only [step, hseat]
  split
  · exact ⟨seat, by simp [seats], rfl⟩
  · exact asked_of_seatOf?_awaited hseat

/-- A key that is still listed after its release is asked for by others. -/
theorem Inv.asked_release (h : l.Inv) (hseat : seatOf? task l.held = some seat)
    (hc : (l.step (.release task)).2.entries.contains seat.key = true) :
    (l.step (.release task)).2.Asked seat.key := by
  have hs : seat ∈ l.seats := List.mem_append_left _ (List.mem_of_find?_eq_some hseat)
  have hleft := h.leave hs
  have hlisted := h.listed_leave hs
  obtain ⟨-, hheld, hawaited, -⟩ := hleft.forget hlisted
  simp only [step, hseat] at hc ⊢
  -- the key was struck off unless a request that is left refers to its mutex
  by_cases hr : (l.leave seat).references seat.mutex = 0
  · simp [Table.contains, find?_forget hlisted, hr] at hc
  · rw [references_eq_zero] at hr
    push Not at hr
    obtain ⟨x, hx, hm⟩ := hr
    refine ⟨x, ?_, (hleft.mutex_eq_iff hlisted hx).1 hm⟩
    rwa [seats, hheld, hawaited]

/-- Only giving up leaves a key over, and it stays so until somebody asks for it. -/
theorem Inv.leftOver_step (h : l.Inv) :
    (l.step s).2.LeftOver key ↔
      (∃ task, s = .cancel task ∧ l.keyOf? s = some key ∧ ¬ (l.step s).2.Asked key) ∨
        l.LeftOver key ∧ ∀ task, s ≠ .lock task key := by
  by_cases hs : l.keyOf? s = some key
  · -- a key is asked for after it was locked, and before all else that a step about it can be
    cases s with
    | lock task key' =>
      obtain rfl : key' = key := Option.some.inj hs
      refine ⟨fun hl => absurd (h.asked_lock task key') hl.2, ?_⟩
      rintro (⟨_, hcancel, -⟩ | ⟨-, hlock⟩)
      · cases hcancel
      · exact absurd rfl (hlock task)
    | poll task =>
      obtain ⟨seat, hseat, rfl⟩ := Option.map_eq_some_iff.1 hs
      refine ⟨fun hl => absurd (asked_poll hseat) hl.2, ?_⟩
      rintro (⟨_, hcancel, -⟩ | ⟨hl, -⟩)
      · cases hcancel
      · exact absurd (asked_of_seatOf?_awaited hseat) hl.2
    | release task =>
      obtain ⟨seat, hseat, rfl⟩ := Option.map_eq_some_iff.1 hs
      refine ⟨fun hl => absurd (h.asked_release hseat hl.1) hl.2, ?_⟩
      rintro (⟨_, hcancel, -⟩ | ⟨hl, -⟩)
      · cases hcancel
      · exact absurd (asked_of_seatOf?_held hseat) hl.2
    | cancel task =>
      obtain ⟨seat, hseat, rfl⟩ := Option.map_eq_some_iff.1 hs
      refine ⟨fun hl => .inl ⟨task, rfl, hs, hl.2⟩, ?_⟩
      rintro (⟨_, -, -, hnot⟩ | ⟨hl, -⟩)
      · have hlisted := h.listed seat (List.mem_append_right _ (List.mem_of_find?_eq_some hseat))
        exact ⟨by simp [step, hseat, entries_leave, Table.contains, hlisted], hnot⟩
      · exact absurd (asked_of_seatOf?_awaited hseat) hl.2
  · have hlock : ∀ task, s ≠ .lock task key := by
      rintro task rfl
      exact hs rfl
    simp [LeftOver, Table.contains, h.find?_step_of_other hs, h.asked_step_of_other hs, hs, hlock]

end Listed

/-! ## What is listed after a run -/

section Runs

variable [Std.TransOrd κ] [Std.LawfulEqOrd κ] [DecidableEq κ] [DecidableEq τ]
  {s : LockStep κ τ} {steps : List (LockStep κ τ)}

omit [DecidableEq κ] in
/-- In `steps` the last who had asked for `key` gave up waiting, and nobody has asked for it
since. -/
def Abandoned (l : KeyedLock κ τ) (steps : List (LockStep κ τ)) (key : κ) : Prop :=
  ∃ before task after, steps = before ++ .cancel task :: after ∧
    (Steps.run step l before).2.keyOf? (.cancel task) = some key ∧
    ¬ ((Steps.run step l before).2.step (.cancel task)).2.Asked key ∧
    ∀ t, .lock t key ∉ after

omit [DecidableEq κ] in
theorem not_abandoned_nil : ¬ l.Abandoned ([] : List (LockStep κ τ)) key := by
  rintro ⟨before, task, after, hsteps, -⟩
  simp at hsteps

omit [DecidableEq κ] in
theorem abandoned_cons : l.Abandoned (s :: steps) key ↔
    (∃ task, s = .cancel task ∧ l.keyOf? s = some key ∧ ¬ (l.step s).2.Asked key) ∧
        (∀ t, .lock t key ∉ steps) ∨
      (l.step s).2.Abandoned steps key := by
  constructor
  · rintro ⟨before, task, after, hsteps, hkey, hnot, hafter⟩
    cases before with
    | nil =>
      obtain ⟨rfl, rfl⟩ := List.cons.inj hsteps
      exact .inl ⟨⟨task, rfl, hkey, hnot⟩, hafter⟩
    | cons s' before =>
      obtain ⟨rfl, rfl⟩ := List.cons.inj hsteps
      exact .inr ⟨before, task, after, rfl, hkey, hnot, hafter⟩
  · rintro (⟨⟨task, rfl, hkey, hnot⟩, hsteps⟩ | ⟨before, task, after, rfl, hkey, hnot, hafter⟩)
    · exact ⟨[], task, steps, rfl, hkey, hnot, hsteps⟩
    · exact ⟨s :: before, task, after, rfl, hkey, hnot, hafter⟩

/-- What is left over after a run was abandoned in it, or was left over and not asked for. -/
theorem Inv.leftOver_run (h : l.Inv) (steps : List (LockStep κ τ)) :
    (Steps.run step l steps).2.LeftOver key ↔
      l.Abandoned steps key ∨ l.LeftOver key ∧ ∀ t, .lock t key ∉ steps := by
  induction steps generalizing l with
  | nil => simp [Steps.run, not_abandoned_nil]
  | cons s steps ih =>
    have hlock : (∀ t, .lock t key ∉ s :: steps) ↔
        (∀ t, s ≠ .lock t key) ∧ ∀ t, .lock t key ∉ steps := by
      simp [List.mem_cons, forall_and, eq_comm]
    rw [Steps.run, ih (h.follows s).inv, h.leftOver_step, abandoned_cons, hlock]
    grind

/-- From a state where the key is not left over, it is listed just if it is asked for or has been
abandoned since. -/
theorem Inv.contains_run (h : l.Inv) (hl : ¬ l.LeftOver key) (steps : List (LockStep κ τ)) :
    (Steps.run step l steps).2.entries.contains key = true ↔
      (Steps.run step l steps).2.Asked key ∨ l.Abandoned steps key := by
  rw [(h.run steps).1.contains_iff, h.leftOver_run]
  simp [hl]

omit [DecidableEq κ] [DecidableEq τ] in
/-- The keys listed, as a set, are as many as the list is long. -/
theorem exists_keys (l : KeyedLock κ τ) : ∃ keys : Finset κ,
    (∀ key, key ∈ keys ↔ l.entries.contains key = true) ∧ l.size = keys.card ∧
      (l.isEmpty = true ↔ keys = ∅) := by
  classical
  refine ⟨l.entries.keys.toFinset, fun key => ?_, ?_, ?_⟩
  · rw [List.mem_toFinset, Table.mem_keys_iff, Table.contains, Option.isSome_iff_exists]
  · rw [List.toFinset_card_of_nodup (Table.nodup_keys _)]
    simp [size, Table.size, Table.keys]
  · simp [isEmpty, Table.isEmpty, Table.keys]

/-- After any steps of any tasks a lock lists the keys that somebody holds or waits for and those
that were abandoned, and its size is their number. Whoever asks for an abandoned key next has it at
once, and from then on it is listed as if the steps began there. Where nobody gives up waiting,
nothing is listed once nobody holds or waits for anything. -/
theorem tracked (steps : List (LockStep κ τ)) :
    let start : KeyedLock κ τ := {}
    let l := (Steps.run step start steps).2
    (∀ key, l.entries.contains key = true ↔ l.Asked key ∨ start.Abandoned steps key) ∧
    (∃ keys : Finset κ, (∀ key, key ∈ keys ↔ l.Asked key ∨ start.Abandoned steps key) ∧
      l.size = keys.card ∧ (l.isEmpty = true ↔ keys = ∅)) ∧
    (∀ key, start.Abandoned steps key → ∀ task,
      let next := l.step (.lock task key)
      next.1 = .acquired ∧ ∀ more,
        let later := (Steps.run step next.2 more).2
        (later.entries.contains key = true ↔ later.Asked key ∨ next.2.Abandoned more key)) ∧
    ((∀ task, .cancel task ∉ steps) → l.seats = [] → l.isEmpty = true) := by
  intro start l
  have hinv : l.Inv := (inv_empty.run steps).1
  have hstart (key : κ) : ¬ start.LeftOver key := fun hl => Bool.false_ne_true hl.1
  have hkeys (key : κ) :
      l.entries.contains key = true ↔ l.Asked key ∨ start.Abandoned steps key :=
    inv_empty.contains_run (hstart key) steps
  obtain ⟨keys, hmem, hsize, hempty⟩ := exists_keys l
  refine ⟨hkeys, ⟨keys, fun key => (hmem key).trans (hkeys key), hsize, hempty⟩,
    fun key hab task => ⟨?acquired, fun more => ?later⟩, fun hcancel hseats => ?empty⟩
  case acquired =>
    have hl : l.LeftOver key := (inv_empty.leftOver_run steps).2 (.inl hab)
    exact hinv.lock_of_free (fun x hx hk => hl.2 ⟨x, hx, hk⟩) task
  case later =>
    exact (hinv.follows _).inv.contains_run (fun hl => hl.2 (hinv.asked_lock task key)) more
  case empty =>
    rw [hempty, Finset.eq_empty_iff_forall_notMem]
    intro key hk
    rcases (hkeys key).1 ((hmem key).1 hk) with ⟨s, hs, -⟩ | ⟨before, task, after, hsteps, -⟩
    · rw [hseats] at hs
      cases hs
    · exact hcancel task (by simp [hsteps])

/-- A task gives up when it owns the lock already: the key stays listed until another has held
it. -/
theorem tracked_given_up :
    let steps : List (LockStep Nat Nat) := [.lock 1 7, .lock 2 7, .release 1, .cancel 2]
    let l := (Steps.run step ({} : KeyedLock Nat Nat) steps).2
    ({} : KeyedLock Nat Nat).Abandoned steps 7 ∧ l.seats = [] ∧ l.size = 1 ∧
      (l.step (.lock 3 7)).1 = .acquired ∧
      (Steps.run step l [.lock 3 7, .release 3]).2.isEmpty = true := by
  intro steps l
  have hab : ({} : KeyedLock Nat Nat).Abandoned steps 7 :=
    ⟨[.lock 1 7, .lock 2 7, .release 1], 2, [], rfl, by decide, by decide, by simp⟩
  exact ⟨hab, by decide, by decide, ((tracked steps).2.2.1 7 hab 3).1, by decide⟩

end Runs

end KeyedLock

end PowerGrant
