import PowerGrant.Proofs.Lock.Queues
import PowerGrant.Proofs.Lock.Requests

/-!
# Locks by key are queues by key

Each step of a lock by key is the step of its queues (`KeyedLock.toQueues`), which know of no
mutexes and no list of keys: the requests for a key, those held before those awaited.

* **Steps** (`Inv.lock`, `Inv.poll`, `Inv.release`, `Inv.cancel`): whatever the step, it keeps the
  invariant of the requests, gives what it gives on the queues and leaves their queues (`Follows`).
* **Order** (`KeyedLock.Past`): after a request was granted, those that wait for its key have later
  tickets, and so have all that will.
* **Runs** (`lock_is_queues`): both for any steps, one after the other.
-/

namespace PowerGrant.KeyedLock

variable {κ τ : Type} [Ord κ]

/-! ## The queues of a lock -/

section Queues

variable [DecidableEq κ] [DecidableEq τ]

/-- The requests for each key, those held before those awaited. -/
def toQueues (l : KeyedLock κ τ) : Queues κ τ where
  queue key :=
    (l.held.filter fun s => s.key = key).map (fun s => ⟨s.task, true⟩) ++
      (l.awaited.filter fun s => s.key = key).map (fun s => ⟨s.task, false⟩)
  held task := (l.held.filter fun s => s.task = task).map Seat.key
  awaited task := (l.awaited.filter fun s => s.task = task).map Seat.key

variable [Std.TransOrd κ] [Std.LawfulEqOrd κ]

omit [DecidableEq κ] [DecidableEq τ] in
/-- Whoever waits for the key, now or later, has a later ticket. -/
def Past (l : KeyedLock κ τ) (key : κ) (ticket : Nat) : Prop :=
  ticket < l.tickets ∧ ∀ x ∈ l.awaited, x.key = key → ticket < x.ticket

/-- The step keeps the invariant, is the step of the queues and grants requests in their order. -/
structure Follows (l : KeyedLock κ τ) (s : LockStep κ τ) : Prop where
  inv : (l.step s).2.Inv
  result : (l.step s).1 = (l.toQueues.step s).1
  queues : (l.step s).2.toQueues = (l.toQueues.step s).2
  tickets_le : l.tickets ≤ (l.step s).2.tickets
  waits : ∀ x ∈ (l.step s).2.awaited, x ∈ l.awaited ∨ l.tickets ≤ x.ticket
  grants : (l.step s).1 = .acquired → ∃ x, (l.step s).2.held = l.held ++ [x] ∧
    (x ∈ l.awaited ∨ l.tickets ≤ x.ticket) ∧ (l.step s).2.Past x.key x.ticket

variable {l : KeyedLock κ τ}

omit [Std.TransOrd κ] [Std.LawfulEqOrd κ] in
theorem toQueues_congr {l' : KeyedLock κ τ} (hh : l'.held = l.held) (ha : l'.awaited = l.awaited) :
    l'.toQueues = l.toQueues := by
  simp only [toQueues, hh, ha]

omit [Std.TransOrd κ] [Std.LawfulEqOrd κ] in
/-- The mutex listed for a key has no queue if the key has none. -/
theorem Inv.queue_eq_nil_iff (h : l.Inv) {key : κ} {m : Nat} (hm : l.entries.find? key = some m) :
    l.toQueues.queue key = [] ↔ l.queueOf m = [] := by
  rw [h.queueOf_eq hm]
  simp [toQueues, seats]

/-! ## What the queues see -/

section Seen

omit [Std.TransOrd κ] [Std.LawfulEqOrd κ]

variable {l' : KeyedLock κ τ} {s : Seat κ τ} {before after : List (Seat κ τ)}

/-- A request for a key that nobody has asked for. -/
theorem toQueues_first (hh : l'.held = l.held ++ [s]) (ha : l'.awaited = l.awaited)
    (hempty : l.toQueues.queue s.key = []) :
    l'.toQueues = { l.toQueues with
      queue := Function.update l.toQueues.queue s.key [⟨s.task, true⟩]
      held := Function.update l.toQueues.held s.task (l.toQueues.held s.task ++ [s.key]) } := by
  obtain ⟨hheld, hawaited⟩ := List.append_eq_nil_iff.1 hempty
  rw [List.map_eq_nil_iff] at hheld hawaited
  refine Queues.ext (fun k => ?_) (fun t => ?_) fun t => by simp [toQueues, ha]
  · by_cases hk : k = s.key
    · subst hk
      simp [toQueues, hh, ha, hheld, hawaited]
    · simp [toQueues, hh, ha, hk, Ne.symm hk]
  · by_cases ht : t = s.task
    · subst ht
      simp [toQueues, hh]
    · simp [toQueues, hh, ht, Ne.symm ht]

/-- A request for a key that others have asked for. -/
theorem toQueues_later (hh : l'.held = l.held) (ha : l'.awaited = l.awaited ++ [s]) :
    l'.toQueues = { l.toQueues with
      queue := Function.update l.toQueues.queue s.key (l.toQueues.queue s.key ++ [⟨s.task, false⟩])
      awaited := Function.update l.toQueues.awaited s.task
        (l.toQueues.awaited s.task ++ [s.key]) } := by
  refine Queues.ext (fun k => ?_) (fun t => by simp [toQueues, hh]) fun t => ?_
  · by_cases hk : k = s.key
    · subst hk
      simp [toQueues, hh, ha]
    · simp [toQueues, hh, ha, hk, Ne.symm hk]
  · by_cases ht : t = s.task
    · subst ht
      simp [toQueues, ha]
    · simp [toQueues, ha, ht, Ne.symm ht]

/-- Whether a waiting task comes first in the queue of a key. -/
theorem head?_queue (hsplit : l.awaited = before ++ s :: after)
    (hb : ∀ x ∈ before, x.task ≠ s.task) :
    (l.toQueues.queue s.key).head? = some ⟨s.task, false⟩ ↔
      (l.held ++ before).filter (fun x => x.key = s.key) = [] := by
  simp only [toQueues, hsplit, List.filter_append]
  cases hh : l.held.filter fun x => x.key = s.key with
  | cons x xs => simp
  | nil =>
    cases hw : before.filter fun x => x.key = s.key with
    | nil => simp
    | cons x xs =>
      have hx : x ∈ before := List.mem_of_mem_filter (hw ▸ List.mem_cons_self)
      simp [hb x hx]

/-- The first request in the queue of its key is granted. -/
theorem toQueues_granted (hsplit : l.awaited = before ++ s :: after)
    (hb : ∀ x ∈ before, x.task ≠ s.task)
    (hfirst : (l.held ++ before).filter (fun x => x.key = s.key) = [])
    (hh : l'.held = l.held ++ [s]) (ha : l'.awaited = before ++ after) :
    l'.toQueues =
      { queue := Function.update l.toQueues.queue s.key
          (⟨s.task, true⟩ :: (l.toQueues.queue s.key).tail)
        held := Function.update l.toQueues.held s.task (l.toQueues.held s.task ++ [s.key])
        awaited := Function.update l.toQueues.awaited s.task
          ((after.filter fun x => x.task = s.task).map Seat.key) } := by
  obtain ⟨hheld, hbefore⟩ := List.append_eq_nil_iff.1 (List.filter_append .. ▸ hfirst)
  refine Queues.ext (fun k => ?_) (fun t => ?_) fun t => ?_
  · by_cases hk : k = s.key
    · subst hk
      simp [toQueues, hh, ha, hsplit, hheld, hbefore]
    · simp [toQueues, hh, ha, hsplit, hk, Ne.symm hk]
  · by_cases ht : t = s.task
    · subst ht
      simp [toQueues, hh]
    · simp [toQueues, hh, ht, Ne.symm ht]
  · by_cases ht : t = s.task
    · subst ht
      simp only [toQueues, ha, filter_after_others hb, Function.update_self]
    · simp [toQueues, ha, hsplit, ht, Ne.symm ht]

/-- What a task holds is given back. -/
theorem toQueues_released (hsplit : l.held = before ++ s :: after)
    (hb : ∀ x ∈ before, x.task ≠ s.task) (hh : l'.held = before ++ after)
    (ha : l'.awaited = l.awaited) :
    l'.toQueues = { l.toQueues with
      queue := Function.update l.toQueues.queue s.key
        ((l.toQueues.queue s.key).erase ⟨s.task, true⟩)
      held := Function.update l.toQueues.held s.task
        ((after.filter fun x => x.task = s.task).map Seat.key) } := by
  refine Queues.ext (fun k => ?_) (fun t => ?_) fun t => by simp only [toQueues, ha]
  · by_cases hk : k = s.key
    · subst hk
      have hnot : (⟨s.task, true⟩ : QueuePlace τ) ∉
          (before.filter fun x => x.key = s.key).map fun x => ⟨x.task, true⟩ := fun hm => by
        obtain ⟨x, hx, e⟩ := List.mem_map.1 hm
        exact hb x (List.mem_of_mem_filter hx) (QueuePlace.mk.inj e).1
      simp [toQueues, hh, ha, hsplit, List.erase_append_right _ hnot]
    · simp [toQueues, hh, ha, hsplit, hk, Ne.symm hk]
  · by_cases ht : t = s.task
    · subst ht
      simp only [toQueues, hh, filter_after_others hb, Function.update_self]
    · simp [toQueues, hh, hsplit, ht, Ne.symm ht]

/-- A task waits no longer. -/
theorem toQueues_cancelled (hsplit : l.awaited = before ++ s :: after)
    (hb : ∀ x ∈ before, x.task ≠ s.task) (hh : l'.held = l.held)
    (ha : l'.awaited = before ++ after) :
    l'.toQueues = { l.toQueues with
      queue := Function.update l.toQueues.queue s.key
        ((l.toQueues.queue s.key).erase ⟨s.task, false⟩)
      awaited := Function.update l.toQueues.awaited s.task
        ((after.filter fun x => x.task = s.task).map Seat.key) } := by
  refine Queues.ext (fun k => ?_) (fun t => by simp only [toQueues, hh]) fun t => ?_
  · by_cases hk : k = s.key
    · subst hk
      have hnot : (⟨s.task, false⟩ : QueuePlace τ) ∉
          (l.held.filter fun x => x.key = s.key).map (fun x => ⟨x.task, true⟩) ++
            (before.filter fun x => x.key = s.key).map fun x => ⟨x.task, false⟩ := fun hm => by
        rcases List.mem_append.1 hm with hm | hm <;> obtain ⟨x, hx, e⟩ := List.mem_map.1 hm
        · cases (QueuePlace.mk.inj e).2
        · exact hb x (List.mem_of_mem_filter hx) (QueuePlace.mk.inj e).1
      simp [toQueues, hh, ha, hsplit, ← List.append_assoc, List.erase_append_right _ hnot]
    · simp [toQueues, hh, ha, hsplit, hk, Ne.symm hk]
  · by_cases ht : t = s.task
    · subst ht
      simp only [toQueues, ha, filter_after_others hb, Function.update_self]
    · simp [toQueues, ha, hsplit, ht, Ne.symm ht]

end Seen

/-! ## Each step -/

/-- A step that comes to the same here and there. -/
theorem Follows.of_step {s : LockStep κ τ} {r : LockResult} {l' : KeyedLock κ τ}
    (hl : l.step s = (r, l')) (hq : l.toQueues.step s = (r, l'.toQueues)) (hinv : l'.Inv)
    (ht : l.tickets ≤ l'.tickets) (hw : ∀ x ∈ l'.awaited, x ∈ l.awaited ∨ l.tickets ≤ x.ticket)
    (hg : r = .acquired → ∃ x, l'.held = l.held ++ [x] ∧
      (x ∈ l.awaited ∨ l.tickets ≤ x.ticket) ∧ l'.Past x.key x.ticket) : l.Follows s := by
  refine ⟨?_, ?_, ?_, ?_, ?_, ?_⟩ <;> rw [hl]
  · exact hinv
  · rw [hq]
  · rw [hq]
  · exact ht
  · exact hw
  · exact hg

/-- A step that changes nothing, here as there. -/
theorem Inv.stays (h : l.Inv) {s : LockStep κ τ} {r : LockResult} (hr : r ≠ .acquired)
    (hl : l.step s = (r, l)) (hq : l.toQueues.step s = (r, l.toQueues)) : l.Follows s :=
  .of_step hl hq h (Nat.le_refl _) (fun _ hx => .inl hx) fun ha => absurd ha hr

omit [DecidableEq κ] in
theorem step_lock (task : τ) (key : κ) :
    let joined := (l.mutexFor key).2.enqueue task key (l.mutexFor key).1
    l.step (.lock task key) = (if joined.1 then .acquired else .pending, joined.2) := rfl

theorem Inv.lock (h : l.Inv) (task : τ) (key : κ) : l.Follows (.lock task key) := by
  obtain ⟨hinv, hlisted, hheld, hawaited, htickets⟩ := h.mutexFor key
  have hnil := hinv.queue_eq_nil_iff hlisted
  have hjoin := hinv.enqueue task hlisted
  have hstep := step_lock (l := l) task key
  rw [toQueues_congr hheld hawaited] at hnil
  generalize l.mutexFor key = found at *
  obtain ⟨m, l'⟩ := found
  dsimp only at *
  by_cases hq : l'.queueOf m = []
  · rw [enqueue_of_nil task key hq] at hstep hjoin
    have hempty := hnil.2 hq
    refine .of_step hstep ?_ hjoin (htickets ▸ Nat.le_succ _) (fun x hx => .inl (hawaited ▸ hx))
      fun _ => ?_
    · rw [Queues.step, if_pos hempty]
      refine congrArg _ (Eq.symm ?_)
      exact toQueues_first (s := ⟨task, l'.tickets, key, m⟩) (by rw [hheld]) hawaited hempty
    · refine ⟨_, congrArg (· ++ _) hheld, .inr (Nat.le_of_eq htickets.symm), Nat.lt_succ_self _,
        fun y hy hk => ?_⟩
      have hnone := List.map_eq_nil_iff.1 (List.append_eq_nil_iff.1 hempty).2
      exact absurd (by simpa using hk) (List.filter_eq_nil_iff.1 hnone y (hawaited ▸ hy))
  · rw [enqueue_of_ne_nil task key hq] at hstep hjoin
    refine .of_step hstep ?_ hjoin (htickets ▸ Nat.le_succ _) (fun x hx => ?_) (by simp)
    · rw [Queues.step, if_neg (mt hnil.1 hq)]
      refine congrArg _ (Eq.symm ?_)
      exact toQueues_later (s := ⟨task, l'.tickets, key, m⟩) hheld (by rw [hawaited])
    · rcases List.mem_append.1 hx with hx | hx
      · exact .inl (hawaited ▸ hx)
      · exact .inr (List.mem_singleton.1 hx ▸ Nat.le_of_eq htickets.symm)

theorem Inv.poll (h : l.Inv) (task : τ) : l.Follows (.poll task) := by
  cases hseat : seatOf? task l.awaited with
  | none =>
    have hnone : l.toQueues.awaited task = [] := keys_of_seatOf?_none hseat
    exact h.stays (r := .refused) (by decide) (by simp only [step, hseat])
      (by simp only [Queues.step, hnone])
  | some s =>
    obtain ⟨rfl, before, after, hsplit, hb, hkeys⟩ := split_of_seatOf? hseat
    change l.toQueues.awaited s.task = _ at hkeys
    have hrest : l.awaited.filter (fun x => x.ticket ≠ s.ticket) = before ++ after := by
      have := h.nodup
      rw [seats, List.map_append] at this
      rw [hsplit] at this ⊢
      exact filter_ticket_ne (List.nodup_append.1 this).2.1
    by_cases hfirst : (l.held ++ before).filter (fun x => x.key = s.key) = []
    · have hstep : l.step (.poll s.task) = (.acquired,
          { l with held := l.held ++ [s], awaited := before ++ after }) := by
        simp only [step, hseat, (h.first_iff hsplit).2 hfirst, if_true, hrest]
      refine .of_step hstep ?_ (h.granted hsplit hfirst) (Nat.le_refl _) (fun x hx => ?_)
        fun _ => ?_
      · simp only [Queues.step, hkeys, (head?_queue hsplit hb).2 hfirst, if_true]
        exact congrArg _ (toQueues_granted hsplit hb hfirst rfl rfl).symm
      · refine .inl (hsplit ▸ ?_)
        exact (List.mem_append.1 hx).elim (List.mem_append_left _) fun hx =>
          List.mem_append_right _ (List.mem_cons_of_mem _ hx)
      · have hs : s ∈ l.awaited := by simp [hsplit]
        refine ⟨s, rfl, .inl hs, h.ticket_lt s (List.mem_append_right _ hs), fun y hy hk => ?_⟩
        rcases List.mem_append.1 hy with hy | hy
        · have hnone := (List.append_eq_nil_iff.1 (List.filter_append .. ▸ hfirst)).2
          exact absurd (by simpa using hk) (List.filter_eq_nil_iff.1 hnone y hy)
        · exact h.ticket_lt_of_behind hsplit hy hk
    · refine h.stays (r := .pending) (by decide) ?_ ?_
      · simp only [step, hseat, mt (h.first_iff hsplit).1 hfirst, if_false]
      · simp only [Queues.step, hkeys, mt (head?_queue hsplit hb).1 hfirst, if_false]

theorem Inv.release (h : l.Inv) (task : τ) : l.Follows (.release task) := by
  cases hseat : seatOf? task l.held with
  | none =>
    have hnone : l.toQueues.held task = [] := keys_of_seatOf?_none hseat
    exact h.stays (r := .refused) (by decide) (by simp only [step, hseat])
      (by simp only [Queues.step, hnone])
  | some s =>
    obtain ⟨rfl, before, after, hsplit, hb, hkeys⟩ := split_of_seatOf? hseat
    change l.toQueues.held s.task = _ at hkeys
    have hs : s ∈ l.seats := by simp [seats, hsplit]
    have hstep : l.step (.release s.task) =
        (.released, (l.leave s).forget s.key s.mutex) := by simp only [step, hseat]
    obtain ⟨hinv, hfh, hfa, hft⟩ := (h.leave hs).forget (h.listed s hs)
    obtain ⟨hheld, hawaited⟩ := h.leave_of_held hsplit
    refine .of_step hstep ?_ hinv (Nat.le_of_eq hft.symm)
      (fun x hx => .inl (hawaited ▸ hfa ▸ hx)) (by simp)
    simp only [Queues.step, hkeys]
    exact congrArg _ (toQueues_released hsplit hb (hfh.trans hheld) (hfa.trans hawaited)).symm

theorem Inv.cancel (h : l.Inv) (task : τ) : l.Follows (.cancel task) := by
  cases hseat : seatOf? task l.awaited with
  | none =>
    have hnone : l.toQueues.awaited task = [] := keys_of_seatOf?_none hseat
    exact h.stays (r := .refused) (by decide) (by simp only [step, hseat])
      (by simp only [Queues.step, hnone])
  | some s =>
    obtain ⟨rfl, before, after, hsplit, hb, hkeys⟩ := split_of_seatOf? hseat
    change l.toQueues.awaited s.task = _ at hkeys
    have hs : s ∈ l.seats := by simp [seats, hsplit]
    have hstep : l.step (.cancel s.task) = (.cancelled, l.leave s) := by simp only [step, hseat]
    obtain ⟨hheld, hawaited⟩ := h.leave_of_awaited hsplit
    refine .of_step hstep ?_ (h.leave hs) (Nat.le_refl _)
      (fun x hx => .inl (List.mem_of_mem_filter hx)) (by simp)
    simp only [Queues.step, hkeys]
    exact congrArg _ (toQueues_cancelled hsplit hb hheld hawaited).symm

theorem Inv.follows (h : l.Inv) : (s : LockStep κ τ) → l.Follows s
  | .lock task key => h.lock task key
  | .poll task => h.poll task
  | .release task => h.release task
  | .cancel task => h.cancel task

end Queues

/-! ## Runs -/

section Runs

variable [DecidableEq κ] [DecidableEq τ]

/-- The key that a step is about, if it is open to its task. -/
def keyOf? (l : KeyedLock κ τ) : LockStep κ τ → Option κ
  | .lock _ key => some key
  | .poll task => (seatOf? task l.awaited).map Seat.key
  | .release task => (seatOf? task l.held).map Seat.key
  | .cancel task => (seatOf? task l.awaited).map Seat.key

theorem keyOf?_toQueues (l : KeyedLock κ τ) (s : LockStep κ τ) :
    l.toQueues.keyOf? s = l.keyOf? s := by
  cases s <;> simp [Queues.keyOf?, keyOf?, toQueues, seatOf?]

variable [Std.TransOrd κ] [Std.LawfulEqOrd κ]

/-- The requests that steps grant, in the order in which they do. -/
def grants (l : KeyedLock κ τ) : List (LockStep κ τ) → List (Seat κ τ)
  | [] => []
  | s :: steps =>
    let later := grants (l.step s).2 steps
    if (l.step s).1 = .acquired then
      match (l.step s).2.held.getLast? with
      | some seat => seat :: later
      | none => later
    else later

variable {l : KeyedLock κ τ}

theorem Inv.run (h : l.Inv) (steps : List (LockStep κ τ)) :
    (Steps.run step l steps).2.Inv ∧
      (Steps.run step l steps).1 = (Steps.run Queues.step l.toQueues steps).1 ∧
      ∀ key, Steps.about step keyOf? key l steps =
          Steps.about Queues.step Queues.keyOf? key l.toQueues steps ∧
        Steps.resultsAbout step keyOf? key l steps =
          Steps.resultsAbout Queues.step Queues.keyOf? key l.toQueues steps := by
  induction steps generalizing l with
  | nil => exact ⟨h, rfl, fun key => ⟨rfl, rfl⟩⟩
  | cons s steps ih =>
    obtain ⟨hinv, hresult, hqueues, -, -, -⟩ := h.follows s
    obtain ⟨hrun, hresults, habout⟩ := ih hinv
    rw [hqueues] at hresults habout
    refine ⟨hrun, by rw [Steps.run, Steps.run, hresult, hresults], fun key => ?_⟩
    obtain ⟨hsteps, hres⟩ := habout key
    simp only [Steps.about, Steps.resultsAbout, keyOf?_toQueues, hsteps, hres, hresult, and_self]

/-- Once those who wait for a key have later tickets, only requests with later tickets are granted
for it. -/
theorem Inv.grants_past (h : l.Inv) {key : κ} {ticket : Nat} (hp : l.Past key ticket)
    (steps : List (LockStep κ τ)) : ∀ x ∈ l.grants steps, x.key = key → ticket < x.ticket := by
  induction steps generalizing l with
  | nil => exact fun x hx => nomatch hx
  | cons s steps ih =>
    obtain ⟨hinv, -, -, htickets, hwaits, hgrants⟩ := h.follows s
    have hp' : (l.step s).2.Past key ticket :=
      ⟨Nat.lt_of_lt_of_le hp.1 htickets, fun x hx hk =>
        (hwaits x hx).elim (fun hx => hp.2 x hx hk) (Nat.lt_of_lt_of_le hp.1)⟩
    rw [grants]
    split
    case isFalse => exact ih hinv hp'
    case isTrue hr =>
      obtain ⟨seat, hheld, hseat, -⟩ := hgrants hr
      simp only [hheld, List.getLast?_append, List.getLast?_singleton, Option.some_or]
      refine List.forall_mem_cons.2 ⟨fun hk => ?_, ih hinv hp'⟩
      exact hseat.elim (fun hx => hp.2 seat hx hk) (Nat.lt_of_lt_of_le hp.1)

/-- Requests for a key are granted in the order of their tickets. -/
theorem Inv.grants_rising (h : l.Inv) (steps : List (LockStep κ τ)) :
    (l.grants steps).Pairwise fun x y => x.key = y.key → x.ticket < y.ticket := by
  induction steps generalizing l with
  | nil => exact List.Pairwise.nil
  | cons s steps ih =>
    obtain ⟨hinv, -, -, -, -, hgrants⟩ := h.follows s
    rw [grants]
    split
    case isFalse => exact ih hinv
    case isTrue hr =>
      obtain ⟨seat, hheld, -, hp⟩ := hgrants hr
      simp only [hheld, List.getLast?_append, List.getLast?_singleton, Option.some_or]
      exact List.pairwise_cons.2
        ⟨fun x hx hk => hinv.grants_past hp steps x hx hk.symm, ih hinv⟩

omit [DecidableEq τ] [Std.TransOrd κ] [Std.LawfulEqOrd κ] in
/-- If nobody holds a key, whoever has waited for it longest owns it. -/
theorem Inv.first_owns (h : l.Inv) {key : κ} (hfree : ∀ x ∈ l.held, x.key ≠ key) {s : Seat κ τ}
    (hs : l.awaited.find? (fun x => x.key = key) = some s) :
    (l.queueOf s.mutex).head? = some s.ticket := by
  obtain ⟨hk, before, after, hsplit, hb⟩ := List.find?_eq_some_iff_append.1 hs
  obtain rfl : s.key = key := by simpa using hk
  refine (h.first_iff hsplit).2 (List.filter_eq_nil_iff.2 fun x hx => ?_)
  rcases List.mem_append.1 hx with hx | hx
  · simpa using hfree x hx
  · simpa using hb x hx

/-- A key that nobody holds or waits for is there for the next one to ask. -/
theorem Inv.lock_of_free (h : l.Inv) {key : κ} (hfree : ∀ x ∈ l.seats, x.key ≠ key) (task : τ) :
    (l.step (.lock task key)).1 = .acquired := by
  have hnone : l.toQueues.queue key = [] := by
    simp only [toQueues, List.append_eq_nil_iff, List.map_eq_nil_iff, List.filter_eq_nil_iff]
    exact ⟨fun x hx => by simpa using hfree x (List.mem_append_left _ hx),
      fun x hx => by simpa using hfree x (List.mem_append_right _ hx)⟩
  rw [(h.lock task key).result, Queues.step, if_pos hnone]

/-- After any steps of any tasks, a lock by key has given what one queue of tasks per key gives, and
what the steps about a key gave is what they give without the others. It has granted each key in the
order of asking and has one holder of it at most; a key that nobody holds is there for whoever has
waited for it longest, or if nobody waits for the next one to ask; and each key that anybody holds
or waits for is listed, with the one mutex of all of them. -/
theorem lock_is_queues (steps : List (LockStep κ τ)) :
    let run := Steps.run step ({} : KeyedLock κ τ) steps
    let l := run.2
    run.1 = (Steps.run Queues.step Queues.empty steps).1 ∧
    (∀ key, Steps.resultsAbout step keyOf? key ({} : KeyedLock κ τ) steps =
      (Steps.run step ({} : KeyedLock κ τ)
        (Steps.about step keyOf? key ({} : KeyedLock κ τ) steps)).1) ∧
    (∀ x ∈ l.held, ∀ y ∈ l.held, x.key = y.key → x = y) ∧
    (({} : KeyedLock κ τ).grants steps).Pairwise
      (fun x y => x.key = y.key → x.ticket < y.ticket) ∧
    (∀ key, (∀ x ∈ l.held, x.key ≠ key) →
      ∀ s, l.awaited.find? (fun x => x.key = key) = some s →
        (l.queueOf s.mutex).head? = some s.ticket ∧
          (seatOf? s.task l.awaited = some s → (l.step (.poll s.task)).1 = .acquired)) ∧
    (∀ key, (∀ x ∈ l.held ++ l.awaited, x.key ≠ key) →
      ∀ task, (l.step (.lock task key)).1 = .acquired) ∧
    ∀ x ∈ l.held ++ l.awaited, l.entries.find? x.key = some x.mutex := by
  intro run l
  obtain ⟨hinv, hresults, habout⟩ := inv_empty.run steps
  refine ⟨hresults, fun key => ?alone, fun x hx y hy => hinv.holder_unique hx hy,
    inv_empty.grants_rising steps, fun key hfree s hs => ?owns,
    fun key hfree task => hinv.lock_of_free hfree task, hinv.listed⟩
  case alone =>
    obtain ⟨hsteps, hres⟩ := habout key
    rw [hres, hsteps, (inv_empty.run _).2.1]
    exact (Queues.results_about (Queues.Alone.empty key) steps).symm
  case owns =>
    have hhead : (l.queueOf s.mutex).head? = some s.ticket := hinv.first_owns hfree hs
    refine ⟨hhead, fun hseat => ?_⟩
    simp only [step, hseat, hhead, if_true]

/-- Two tasks wait, the holder releases, the first of them gives up before it notices, and the other
gets the lock; a third task has another key meanwhile. -/
theorem lock_is_queues_passed_on :
    (Steps.run Queues.step (Queues.empty : Queues Nat Nat)
      [.lock 1 7, .lock 2 7, .lock 3 7, .lock 4 8, .release 1, .cancel 2, .poll 3, .release 3]).1 =
      [.acquired, .pending, .pending, .acquired, .released, .cancelled, .acquired, .released] :=
  (lock_is_queues _).1.symm.trans (by decide)

end Runs

end PowerGrant.KeyedLock
