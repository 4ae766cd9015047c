import PowerGrant.Lock.Keyed
import Mathlib.Data.List.Basic
import Mathlib.Data.List.Nodup

/-!
# Requests and mutexes

What the lists of a lock by key have in common (`KeyedLock.Inv`): each request stands in the queue
of its mutex in the order of the tickets, and its key is listed with its mutex. So the requests for
one key are those for one mutex (`Inv.mutex_eq_iff`), and no mutex has two holders.

* A new request (`Inv.mutexFor`, `Inv.enqueue`): a key gets a new mutex only if no request refers to
  the old one, so no key ever has two mutexes that anybody refers to.
* A request granted (`Inv.first_iff`, `Inv.granted`): the first request for a key that nobody holds.
* A request gone (`Inv.leave`, `Inv.forget`): a key is struck off only if no request is left for it.
-/

namespace PowerGrant.KeyedLock

variable {κ τ : Type} [Ord κ]

/-- The standing requests. -/
def seats (l : KeyedLock κ τ) : List (Seat κ τ) := l.held ++ l.awaited

/-- What the lists of a lock have in common. -/
structure Inv (l : KeyedLock κ τ) : Prop where
  /-- No ticket is given out twice. -/
  nodup : (l.seats.map Seat.ticket).Nodup
  ticket_lt : ∀ s ∈ l.seats, s.ticket < l.tickets
  /-- The queue of a mutex has the tickets of the requests for it, its holder's first. -/
  queue : ∀ m, l.queueOf m = (l.seats.filter fun s => s.mutex = m).map Seat.ticket
  rising : ∀ m, (l.queueOf m).Pairwise (· < ·)
  /-- A key that somebody holds or waits for is listed with the mutex that they hold or wait for. -/
  listed : ∀ s ∈ l.seats, l.entries.find? s.key = some s.mutex
  /-- No mutex is listed for two keys. -/
  apart : ∀ k k' m, l.entries.find? k = some m → l.entries.find? k' = some m → k = k'
  made : ∀ k m, l.entries.find? k = some m → m < l.made
  /-- Each mutex has one holder at most. -/
  single : (l.held.map Seat.mutex).Nodup

theorem inv_empty : ({} : KeyedLock κ τ).Inv where
  nodup := List.nodup_nil
  ticket_lt := by simp [seats]
  queue := fun m => rfl
  rising := fun m => List.Pairwise.nil
  listed := by simp [seats]
  apart := fun k k' m h => nomatch h
  made := fun k m h => nomatch h
  single := List.nodup_nil

/-! ## Seats in lists -/

omit [Ord κ] in
/-- A task's requests come after those of others. -/
theorem filter_after_others [DecidableEq τ] {task : τ} {before : List (Seat κ τ)}
    (hb : ∀ x ∈ before, x.task ≠ task) (after : List (Seat κ τ)) :
    (before ++ after).filter (fun x => x.task = task) = after.filter fun x => x.task = task := by
  have hnone : before.filter (fun x => x.task = task) = [] :=
    List.filter_eq_nil_iff.2 fun x hx => by simpa using hb x hx
  rw [List.filter_append, hnone, List.nil_append]

omit [Ord κ] in
/-- The first request of a task stands after requests of others. -/
theorem split_of_seatOf? [DecidableEq τ] {task : τ} {seats : List (Seat κ τ)} {s : Seat κ τ}
    (h : seatOf? task seats = some s) :
    s.task = task ∧ ∃ before after, seats = before ++ s :: after ∧ (∀ x ∈ before, x.task ≠ task) ∧
      (seats.filter fun x => x.task = task).map Seat.key =
        s.key :: (after.filter fun x => x.task = task).map Seat.key := by
  obtain ⟨ht, before, after, hsplit, hb⟩ := List.find?_eq_some_iff_append.1 h
  have hb : ∀ x ∈ before, x.task ≠ task := by simpa using hb
  refine ⟨by simpa using ht, before, after, hsplit, hb, ?_⟩
  simp only [hsplit, filter_after_others hb, List.filter_cons, ht, if_true, List.map_cons]

omit [Ord κ] in
theorem keys_of_seatOf?_none [DecidableEq τ] {task : τ} {seats : List (Seat κ τ)}
    (h : seatOf? task seats = none) : (seats.filter fun x => x.task = task).map Seat.key = [] := by
  rw [List.map_eq_nil_iff, List.filter_eq_nil_iff]
  exact List.find?_eq_none.1 h

omit [Ord κ] in
/-- Tickets tell requests apart. -/
theorem filter_ticket_ne {before after : List (Seat κ τ)} {s : Seat κ τ}
    (h : ((before ++ s :: after).map Seat.ticket).Nodup) :
    (before ++ s :: after).filter (fun x => x.ticket ≠ s.ticket) = before ++ after := by
  have hs : s.ticket ∉ (before ++ after).map Seat.ticket := by
    rw [List.map_append, List.map_cons, List.nodup_middle, ← List.map_append] at h
    exact (List.nodup_cons.1 h).1
  have hne : ∀ x ∈ before ++ after, x.ticket ≠ s.ticket := fun x hx e =>
    hs (List.mem_map.2 ⟨x, hx, e⟩)
  rw [List.filter_append, List.filter_cons_of_neg (by simp), ← List.filter_append,
    List.filter_eq_self.2 fun x hx => by simpa using hne x hx]

omit [Ord κ] in
/-- A mutex without a holder gets one. -/
theorem nodup_mutex_append {held : List (Seat κ τ)} {s : Seat κ τ}
    (h : (held.map Seat.mutex).Nodup) (hs : held.filter (fun x => x.mutex = s.mutex) = []) :
    ((held ++ [s]).map Seat.mutex).Nodup := by
  rw [List.map_append, List.map_singleton, ← List.concat_eq_append]
  refine h.concat fun hm => ?_
  obtain ⟨x, hx, hxs⟩ := List.mem_map.1 hm
  exact List.filter_eq_nil_iff.1 hs x hx (by simpa using hxs)

/-- What the queues are after that of one mutex was replaced. -/
theorem queueOf_of_queues {l l' : KeyedLock κ τ} {m m' : Nat} {queue : List Nat}
    (h : l'.queues = l.queues.insert m queue) :
    l'.queueOf m' = if m' = m then queue else l.queueOf m' := by
  rw [queueOf, h, Table.find?_insert]
  split <;> rfl

section Enqueue

variable (l : KeyedLock κ τ) (task : τ) (key : κ) (m : Nat)

theorem enqueue_queues :
    (l.enqueue task key m).2.queues = l.queues.insert m (l.queueOf m ++ [l.tickets]) := by
  unfold enqueue
  dsimp only
  split <;> rfl

variable {l m}

theorem enqueue_of_nil (h : l.queueOf m = []) :
    l.enqueue task key m = (true, { l with
      queues := l.queues.insert m (l.queueOf m ++ [l.tickets])
      tickets := l.tickets + 1
      held := l.held ++ [⟨task, l.tickets, key, m⟩] }) := by
  simp [enqueue, h]

theorem enqueue_of_ne_nil (h : l.queueOf m ≠ []) :
    l.enqueue task key m = (false, { l with
      queues := l.queues.insert m (l.queueOf m ++ [l.tickets])
      tickets := l.tickets + 1
      awaited := l.awaited ++ [⟨task, l.tickets, key, m⟩] }) := by
  simp [enqueue, h]

end Enqueue

/-- A mutex is dead as soon as no request is left for it. -/
theorem references_eq_zero {l : KeyedLock κ τ} {m : Nat} :
    l.references m = 0 ↔ ∀ s ∈ l.seats, s.mutex ≠ m := by
  rw [references, Nat.mul_eq_zero, or_iff_right (by decide), List.countP_eq_zero]
  simp [seats]

namespace Inv

variable {l : KeyedLock κ τ}

/-- The requests for the mutex listed for a key are the requests for the key. -/
theorem mutex_eq_iff (h : l.Inv) {key : κ} {m : Nat} (hm : l.entries.find? key = some m)
    {s : Seat κ τ} (hs : s ∈ l.seats) : s.mutex = m ↔ s.key = key := by
  have hl := h.listed s hs
  refine ⟨fun e => h.apart _ _ _ hl (e ▸ hm), fun e => ?_⟩
  rw [e, hm] at hl
  exact (Option.some.inj hl).symm

/-- The queue of the mutex listed for a key has the tickets of the requests for the key. -/
theorem queueOf_eq [DecidableEq κ] (h : l.Inv) {key : κ} {m : Nat}
    (hm : l.entries.find? key = some m) :
    l.queueOf m = (l.seats.filter fun s => s.key = key).map Seat.ticket := by
  rw [h.queue m]
  refine congrArg _ (List.filter_congr fun s hs => ?_)
  rw [decide_eq_decide, h.mutex_eq_iff hm hs]

/-- Two holders of one key are the same. -/
theorem holder_unique (h : l.Inv) {s s' : Seat κ τ} (hs : s ∈ l.held) (hs' : s' ∈ l.held)
    (hk : s.key = s'.key) : s = s' := by
  have hm : s.mutex = s'.mutex :=
    (h.mutex_eq_iff (h.listed s' (List.mem_append_left _ hs')) (List.mem_append_left _ hs)).2 hk
  exact List.inj_on_of_nodup_map h.single hs hs' hm

/-! ## A new request -/

/-- A new request goes to the end of the queue of its mutex. -/
theorem joined {l' : KeyedLock κ τ} (h : l.Inv) (seat : Seat κ τ) (ht : seat.ticket = l.tickets)
    (hm : l.entries.find? seat.key = some seat.mutex) (hentries : l'.entries = l.entries)
    (hmade : l'.made = l.made) (htickets : l'.tickets = l.tickets + 1)
    (hperm : l'.seats.Perm (seat :: l.seats))
    (hfor : ∀ m, l'.seats.filter (fun s => s.mutex = m) =
      l.seats.filter (fun s => s.mutex = m) ++ if m = seat.mutex then [seat] else [])
    (hqueue : ∀ m, l'.queueOf m = l.queueOf m ++ if m = seat.mutex then [seat.ticket] else [])
    (hsingle : (l'.held.map Seat.mutex).Nodup) : l'.Inv where
  nodup := by
    rw [(hperm.map Seat.ticket).nodup_iff, List.map_cons, List.nodup_cons]
    refine ⟨fun hmem => ?_, h.nodup⟩
    obtain ⟨s, hs, e⟩ := List.mem_map.1 hmem
    have := h.ticket_lt s hs
    omega
  ticket_lt s hs := by
    rw [htickets]
    rcases List.mem_cons.1 (hperm.mem_iff.1 hs) with rfl | hs
    · omega
    · have := h.ticket_lt s hs
      omega
  queue m := by
    rw [hqueue, hfor, h.queue]
    split <;> simp
  rising m := by
    rw [hqueue]
    split
    · refine List.pairwise_append.2 ⟨h.rising m, List.pairwise_singleton _ _, fun t ht' u hu => ?_⟩
      rw [h.queue, List.mem_map] at ht'
      obtain ⟨s, hs, rfl⟩ := ht'
      have := h.ticket_lt s (List.mem_of_mem_filter hs)
      rw [List.mem_singleton.1 hu]
      omega
    · simpa using h.rising m
  listed s hs := by
    rw [hentries]
    rcases List.mem_cons.1 (hperm.mem_iff.1 hs) with rfl | hs
    · exact hm
    · exact h.listed s hs
  apart := hentries ▸ h.apart
  made := hentries ▸ hmade ▸ h.made
  single := hsingle

theorem enqueue (h : l.Inv) (task : τ) {key : κ} {m : Nat}
    (hm : l.entries.find? key = some m) : (l.enqueue task key m).2.Inv := by
  have hqueue : ∀ m', (l.enqueue task key m).2.queueOf m' =
      l.queueOf m' ++ if m' = m then [l.tickets] else [] := fun m' => by
    rw [queueOf_of_queues (enqueue_queues l task key m)]
    by_cases e : m' = m <;> simp [e]
  by_cases hq : l.queueOf m = []
  · have hnone : l.seats.filter (fun s => s.mutex = m) = [] := by simpa [h.queue] using hq
    obtain ⟨hheld, hawaited⟩ := List.append_eq_nil_iff.1 (List.filter_append .. ▸ hnone)
    rw [enqueue_of_nil task key hq] at hqueue ⊢
    refine h.joined ⟨task, l.tickets, key, m⟩ rfl hm rfl rfl rfl ?_ (fun m' => ?_)
      hqueue ?_
    · simp [seats]
    · by_cases e : m' = m
      · subst e
        simp [seats, hheld, hawaited]
      · simp [seats, e, Ne.symm e]
    · exact nodup_mutex_append h.single hheld
  · rw [enqueue_of_ne_nil task key hq] at hqueue ⊢
    refine h.joined ⟨task, l.tickets, key, m⟩ rfl hm rfl rfl rfl ?_ (fun m' => ?_)
      hqueue h.single
    · simpa [seats] using List.perm_append_singleton _ (l.held ++ l.awaited)
    · by_cases e : m = m' <;> simp [seats, e, eq_comm]

variable [Std.TransOrd κ] [Std.LawfulEqOrd κ] [DecidableEq κ]

/-- What is listed after a key was given a mutex of its own. -/
theorem relisted (h : l.Inv) {key : κ}
    (hfree : ∀ s ∈ l.seats, s.key ≠ key) :
    ({ l with entries := l.entries.insert key l.made, made := l.made + 1 } :
      KeyedLock κ τ).Inv where
  nodup := h.nodup
  ticket_lt := h.ticket_lt
  queue := h.queue
  rising := h.rising
  listed s hs := by
    rw [Table.find?_insert, if_neg (hfree s hs)]
    exact h.listed s hs
  apart k k' m hk hk' := by
    simp only [Table.find?_insert] at hk hk'
    split at hk <;> split at hk'
    · simp_all
    · exact absurd (h.made _ _ hk') (by have := Option.some.inj hk; omega)
    · exact absurd (h.made _ _ hk) (by have := Option.some.inj hk'; omega)
    · exact h.apart k k' m hk hk'
  made k m hk := by
    simp only [Table.find?_insert] at hk
    split at hk
    · have := Option.some.inj hk
      simp only
      omega
    · have := h.made k m hk
      simp only
      omega
  single := h.single

/-- Finding a mutex for a key touches no request and leaves that mutex listed for the key. -/
theorem mutexFor (h : l.Inv) (key : κ) :
    (l.mutexFor key).2.Inv ∧ (l.mutexFor key).2.entries.find? key = some (l.mutexFor key).1 ∧
      (l.mutexFor key).2.held = l.held ∧ (l.mutexFor key).2.awaited = l.awaited ∧
      (l.mutexFor key).2.tickets = l.tickets := by
  unfold KeyedLock.mutexFor
  cases hk : l.entries.find? key with
  | none =>
    refine ⟨h.relisted fun s hs e => ?_, by simp [Table.find?_insert], rfl, rfl, rfl⟩
    have := h.listed s hs
    rw [e, hk] at this
    cases this
  | some m =>
    dsimp only
    split
    case isTrue hr =>
      -- a request for the key would be for the listed mutex and keep it alive
      have hfree : ∀ s ∈ l.seats, s.key ≠ key := fun s hs e =>
        references_eq_zero.1 hr s hs ((h.mutex_eq_iff hk hs).2 e)
      exact ⟨h.relisted hfree, by simp [Table.find?_insert], rfl, rfl, rfl⟩
    case isFalse hr => exact ⟨h, hk, rfl, rfl, rfl⟩

/-! ## A request granted -/

omit [Std.TransOrd κ] [Std.LawfulEqOrd κ] in
/-- Whether a waiting request comes first in the queue of its mutex. -/
theorem first_iff (h : l.Inv) {before after : List (Seat κ τ)}
    {s : Seat κ τ} (hsplit : l.awaited = before ++ s :: after) :
    (l.queueOf s.mutex).head? = some s.ticket ↔
      (l.held ++ before).filter (fun x => x.key = s.key) = [] := by
  have hseats : l.seats = l.held ++ before ++ s :: after := by simp [seats, hsplit]
  have hs : s ∈ l.seats := by simp [hseats]
  rw [h.queueOf_eq (h.listed s hs), hseats, List.filter_append, List.map_append,
    List.filter_cons_of_pos (by simp)]
  cases hb : (l.held ++ before).filter fun x => x.key = s.key with
  | nil => simp
  | cons x xs =>
    have hx : x ∈ l.held ++ before := List.mem_of_mem_filter (hb ▸ List.mem_cons_self)
    have hne : x.ticket ≠ s.ticket := by
      have := h.nodup
      rw [hseats, List.map_append, List.nodup_append] at this
      exact this.2.2 _ (List.mem_map_of_mem hx) _ (by simp)
    simp [hne]

omit [Std.TransOrd κ] [Std.LawfulEqOrd κ] in
/-- Those who wait behind a request for the same key asked later. -/
theorem ticket_lt_of_behind (h : l.Inv) {before after : List (Seat κ τ)} {s : Seat κ τ}
    (hsplit : l.awaited = before ++ s :: after) {y : Seat κ τ} (hy : y ∈ after)
    (hk : y.key = s.key) : s.ticket < y.ticket := by
  have hseats : l.seats = l.held ++ before ++ s :: after := by simp [seats, hsplit]
  have hrise := h.rising s.mutex
  rw [h.queueOf_eq (h.listed s (by simp [hseats])), hseats, List.filter_append, List.map_append,
    List.filter_cons_of_pos (by simp), List.map_cons] at hrise
  refine (List.pairwise_cons.1 (List.pairwise_append.1 hrise).2.1).1 _ (List.mem_map_of_mem ?_)
  exact List.mem_filter.2 ⟨hy, by simpa using hk⟩

omit [Std.TransOrd κ] [Std.LawfulEqOrd κ] in
/-- The first request for a key that nobody holds is granted. -/
theorem granted {before after : List (Seat κ τ)} {s : Seat κ τ} (h : l.Inv)
    (hsplit : l.awaited = before ++ s :: after)
    (hfirst : (l.held ++ before).filter (fun x => x.key = s.key) = []) :
    ({ l with held := l.held ++ [s], awaited := before ++ after } : KeyedLock κ τ).Inv := by
  have hseats : l.seats = l.held ++ before ++ s :: after := by simp [seats, hsplit]
  have hs : s ∈ l.seats := by simp [hseats]
  have hfirst : (l.held ++ before).filter (fun x => x.mutex = s.mutex) = [] := by
    rw [← hfirst]
    refine List.filter_congr fun x hx => decide_eq_decide.2 (h.mutex_eq_iff (h.listed s hs) ?_)
    exact hseats ▸ List.mem_append_left _ hx
  obtain ⟨hheld, hbefore⟩ := List.append_eq_nil_iff.1 (List.filter_append .. ▸ hfirst)
  have hperm : (l.held ++ [s] ++ (before ++ after)).Perm l.seats := by
    have hmiddle : (s :: (before ++ after)).Perm (before ++ s :: after) := List.perm_middle.symm
    simpa [seats, hsplit] using hmiddle.append_left l.held
  have hfor : ∀ m, (l.held ++ [s] ++ (before ++ after)).filter (fun x => x.mutex = m) =
      l.seats.filter fun x => x.mutex = m := fun m => by
    by_cases e : s.mutex = m
    · subst e
      simp [seats, hsplit, hbefore]
    · simp [seats, hsplit, e]
  exact {
    nodup := (hperm.map Seat.ticket).nodup_iff.2 h.nodup
    ticket_lt := fun x hx => h.ticket_lt x (hperm.mem_iff.1 hx)
    queue := fun m => (h.queue m).trans (congrArg _ (hfor m).symm)
    rising := h.rising
    listed := fun x hx => h.listed x (hperm.mem_iff.1 hx)
    apart := h.apart
    made := h.made
    single := nodup_mutex_append h.single hheld }

/-! ## A request gone -/

omit [Std.TransOrd κ] [Std.LawfulEqOrd κ] [DecidableEq κ] in
theorem queueOf_leave (seat : Seat κ τ) (m : Nat) :
    (l.leave seat).queueOf m =
      if m = seat.mutex then (l.queueOf m).erase seat.ticket else l.queueOf m := by
  unfold KeyedLock.leave queueOf
  dsimp only [queueOf]
  split
  case isTrue hrest =>
    rw [Table.find?_erase]
    split
    case isTrue e => rw [e, hrest]; rfl
    case isFalse => rfl
  case isFalse =>
    rw [Table.find?_insert]
    split
    case isTrue e => rw [e]; rfl
    case isFalse => rfl

omit [Std.TransOrd κ] [Std.LawfulEqOrd κ] [DecidableEq κ] in
theorem leave (h : l.Inv) {seat : Seat κ τ} (hs : seat ∈ l.seats) : (l.leave seat).Inv := by
  have hseats : (l.leave seat).seats = l.seats.filter fun x => x.ticket ≠ seat.ticket :=
    (List.filter_append ..).symm
  have hmem : ∀ x ∈ (l.leave seat).seats, x ∈ l.seats := fun x hx =>
    List.mem_of_mem_filter (hseats ▸ hx)
  exact {
    nodup := hseats ▸ (List.filter_sublist.map Seat.ticket).nodup h.nodup
    ticket_lt := fun x hx => h.ticket_lt x (hmem x hx)
    queue := fun m => by
      rw [queueOf_leave, hseats, List.filter_comm, h.queue]
      split
      case isTrue e =>
        rw [((List.filter_sublist.map Seat.ticket).nodup h.nodup).erase_eq_filter, List.filter_map]
        refine congrArg _ (List.filter_congr fun x _ => ?_)
        rw [Bool.eq_iff_iff]
        simp
      case isFalse e =>
        refine congrArg _ (List.filter_eq_self.2 fun x hx => ?_).symm
        obtain ⟨hx, hm⟩ := List.mem_filter.1 hx
        simp only [ne_eq, decide_not, Bool.not_eq_true', decide_eq_false_iff_not]
        intro ht
        have hxs : x = seat := List.inj_on_of_nodup_map h.nodup hx hs ht
        exact e ((of_decide_eq_true hm).symm.trans (hxs ▸ rfl))
    rising := fun m => by
      rw [queueOf_leave]
      split
      · exact (h.rising m).sublist List.erase_sublist
      · exact h.rising m
    listed := fun x hx => h.listed x (hmem x hx)
    apart := h.apart
    made := h.made
    single := (List.filter_sublist.map Seat.mutex).nodup h.single }

omit [Std.TransOrd κ] [Std.LawfulEqOrd κ] [DecidableEq κ] in
/-- What is held and awaited after a holder has left. -/
theorem leave_of_held (h : l.Inv) {before after : List (Seat κ τ)} {s : Seat κ τ}
    (hsplit : l.held = before ++ s :: after) :
    (l.leave s).held = before ++ after ∧ (l.leave s).awaited = l.awaited := by
  obtain ⟨hheld, -, hne⟩ := List.nodup_append.1 ((List.map_append ..).symm ▸ h.nodup)
  constructor
  · change l.held.filter (fun x => x.ticket ≠ s.ticket) = _
    rw [hsplit] at hheld ⊢
    exact filter_ticket_ne hheld
  · refine List.filter_eq_self.2 fun x hx => ?_
    have := hne s.ticket (by simp [hsplit]) x.ticket (List.mem_map_of_mem hx)
    simpa using this.symm

omit [Std.TransOrd κ] [Std.LawfulEqOrd κ] [DecidableEq κ] in
/-- What is held and awaited after a waiting request has left. -/
theorem leave_of_awaited (h : l.Inv) {before after : List (Seat κ τ)} {s : Seat κ τ}
    (hsplit : l.awaited = before ++ s :: after) :
    (l.leave s).held = l.held ∧ (l.leave s).awaited = before ++ after := by
  obtain ⟨-, hawaited, hne⟩ := List.nodup_append.1 ((List.map_append ..).symm ▸ h.nodup)
  constructor
  · refine List.filter_eq_self.2 fun x hx => ?_
    simpa using hne x.ticket (List.mem_map_of_mem hx) s.ticket (by simp [hsplit])
  · change l.awaited.filter (fun x => x.ticket ≠ s.ticket) = _
    rw [hsplit] at hawaited ⊢
    exact filter_ticket_ne hawaited

omit [Std.TransOrd κ] in
/-- What is listed after a key was struck off that nobody refers to. -/
theorem struck (h : l.Inv) {key : κ} (hfree : ∀ s ∈ l.seats, s.key ≠ key) :
    ({ l with entries := l.entries.erase key } : KeyedLock κ τ).Inv := by
  have hsub : ∀ k m, (l.entries.erase key).find? k = some m → l.entries.find? k = some m := by
    intro k m hk
    rw [Table.find?_erase] at hk
    split at hk
    · cases hk
    · exact hk
  exact {
    nodup := h.nodup
    ticket_lt := h.ticket_lt
    queue := h.queue
    rising := h.rising
    listed := fun s hs => by
      rw [Table.find?_erase, if_neg (hfree s hs)]
      exact h.listed s hs
    apart := fun k k' m hk hk' => h.apart k k' m (hsub k m hk) (hsub k' m hk')
    made := fun k m hk => h.made k m (hsub k m hk)
    single := h.single }

omit [Std.TransOrd κ] in
/-- Forgetting a released mutex touches no request. -/
theorem forget (h : l.Inv) {key : κ} {m : Nat} (hm : l.entries.find? key = some m) :
    (l.forget key m).Inv ∧ (l.forget key m).held = l.held ∧
      (l.forget key m).awaited = l.awaited ∧ (l.forget key m).tickets = l.tickets := by
  unfold KeyedLock.forget
  split
  case isFalse => exact ⟨h, rfl, rfl, rfl⟩
  case isTrue hr =>
    have hfree : ∀ s ∈ l.seats, s.key ≠ key := fun s hs e =>
      references_eq_zero.1 hr s hs ((h.mutex_eq_iff hm hs).2 e)
    simp only [hm, hr, if_true, Nat.zero_add, Nat.le_refl, and_self, and_true]
    exact h.struck hfree

end Inv

end PowerGrant.KeyedLock
