import Mathlib.Algebra.BigOperators.Intervals
import Mathlib.Data.Nat.Find
import PowerGrant.Proofs.Script.Timed
import PowerGrant.Proofs.World.Alone
import PowerGrant.Proofs.World.Writes

/-!
# Attempts against a store that always conflicts

When every write meets a conflict, an update that has something to change reads and writes once for
each attempt of its budget, with the waits in between. Under a timeout it makes those attempts whose
time has come before the timeout is over.

* `World.callTimes`: the calls of a run with their times.
* `World.Contended`: the store answers in no time and conflicts with every write.
* `Retry.start`: when an attempt begins, namely after all waits before it.
* `World.UsesUp`, `World.UsesWithin`: how the budget is used, alone and under a timeout.
* `World.ReadsOnce`: a run that reads a workload once and does nothing else.
* `World.calls_of_onlyCalls`: the record after a run that does nothing but make calls.
* `World.contended_updates`: an update that has something to change uses its budget so, and one that
  adds what is there already only reads.
-/

namespace PowerGrant

/-- When attempt `k` begins, counted from 0, if each one before it took no time and was followed by
its wait. -/
def Retry.start (r : Retry) (k : Nat) : Nat := r.backoff * ∑ i ∈ Finset.range k, 2 ^ min i 6

/-- The calls of the first `n` attempts, each of which makes the calls `pair` when it begins. -/
def Retry.tries (r : Retry) (pair : List Call) (n : Nat) : List (Nat × Call) :=
  (List.range n).flatMap fun k => pair.map fun c => (r.start k, c)

/-- How many attempts begin until a deadline: the first one, and those to which the waits before
them leave the time. -/
def Retry.begun (r : Retry) (limit : Nat) : Nat :=
  1 + Nat.findGreatest (fun k => r.start k ≤ limit) (r.budget - 1)

/-- A fault that does nothing. -/
structure Fault.Idle (f : Fault) : Prop where
  delay : f.delay = 0
  delayAfter : f.delayAfter = 0
  error : f.error = none
  conflict : f.conflict = false
  peer : f.peer = []

namespace World

/-- The calls of a run that begins at the time `now`, with the times at which they are made. -/
def callTimes {α : Type} (x : Script World α) (now : Nat) (w : World) : List (Nat × Call) :=
  (x.timed now w).flatMap fun e => (e.2.1.madeSince e.2.2).map fun c => (e.1, c)

/-- Whatever calls have come before, the store answers in no time and conflicts with every write. -/
def Contended (w : World) : Prop :=
  ∀ (past : List Call) (c : Call),
    let fault := (noted (past.foldl (fun w c => (noted w c).2) w) c).1
    (c.method = .getWorkload → fault.Idle) ∧
      (c.method.writes = true → fault.delay = 0 ∧ fault.conflict = true)

/-- All that the steps do is that calls are made. -/
def OnlyCalls (steps : List (World × World)) : Prop :=
  ∀ e ∈ steps, e.1.Called e.2 ∧ e.2.store = e.1.store

/-- How an update of the workload `name` uses its budget: in every attempt it reads and writes, and
it fails with the last one. -/
structure UsesUp (w : World) (r : Retry) (name : String) (pair : List Call)
    (update : Script World (Answer WorkloadChange)) : Prop where
  calls : callTimes update 0 w = r.tries pair r.budget
  value : (update.run w).value = .error (.conflict name)
  elapsed : (update.run w).elapsed = r.start (r.budget - 1)
  recorded : (update.run w).state.calls = w.calls ++ (r.tries pair r.budget).map Prod.snd
  store : (update.run w).state.store = w.store

/-- How an update uses its budget under a timeout: it makes the attempts that begin until then, and
is cut off unless these are all. -/
structure UsesWithin (w : World) (r : Retry) (name : String) (pair : List Call) (limit : Nat)
    (update : Script World (Answer WorkloadChange)) : Prop where
  calls : callTimes (bounded limit update) 0 w = r.tries pair (r.begun limit)
  recorded : ((bounded limit update).run w).state.calls =
    w.calls ++ (r.tries pair (r.begun limit)).map Prod.snd
  store : ((bounded limit update).run w).state.store = w.store
  cutOff : r.begun limit < r.budget →
    ((bounded limit update).run w).value = .error (.timedOut limit) ∧
      ((bounded limit update).run w).elapsed = limit
  usedUp : r.begun limit = r.budget →
    ((bounded limit update).run w).value = .error (.failed (.conflict name)) ∧
      ((bounded limit update).run w).elapsed = r.start (r.budget - 1)
  fits : r.begun limit = r.budget ↔ r.start (r.budget - 1) ≤ limit

/-- A run that reads the workload `name` once, at once, ends with `a` and does nothing else. -/
structure ReadsOnce {α : Type} (w : World) (name : String) (a : α) (x : Script World α) : Prop where
  calls : callTimes x 0 w = [(0, ⟨.getWorkload, name, .none⟩)]
  value : (x.run w).value = a
  elapsed : (x.run w).elapsed = 0
  recorded : (x.run w).state.calls = w.calls ++ [⟨.getWorkload, name, .none⟩]
  store : (x.run w).state.store = w.store

/-- Such an update reads and writes the same in all its attempts, and so uses up its budget, also
under any timeout. -/
def InVain (w : World) (r : Retry) (name : String) (update : Script World (Answer WorkloadChange)) :
    Prop :=
  ∃ write : Call, write.method.writes = true ∧ write.key = name ∧
    w.UsesUp r name [⟨.getWorkload, name, .none⟩, write] update ∧
    ∀ limit, w.UsesWithin r name [⟨.getWorkload, name, .none⟩, write] limit update

end World

/-! ## When attempts begin -/

namespace Retry

variable (r : Retry) {i k : Nat}

@[simp] theorem start_zero : r.start 0 = 0 := by simp [start]

theorem start_succ (k : Nat) : r.start (k + 1) = r.start k + r.pause k := by
  rw [start, start, Finset.sum_range_succ, Nat.mul_add]
  rfl

theorem start_mono (h : i ≤ k) : r.start i ≤ r.start k := by
  induction h with
  | refl => exact Nat.le_refl _
  | step _ ih =>
    rw [start_succ]
    omega

theorem one_le_budget : 1 ≤ r.budget := Nat.le_max_right _ _

theorem begun_le (limit : Nat) : r.begun limit ≤ r.budget := by
  have hle := Nat.findGreatest_le (P := fun k => r.start k ≤ limit) (r.budget - 1)
  have := r.one_le_budget
  unfold begun
  omega

/-- Which of the attempts begin until a deadline. -/
theorem start_le_iff {limit : Nat} (hk : k < r.budget) : r.start k ≤ limit ↔ k < r.begun limit := by
  unfold begun
  constructor
  · intro h
    have := Nat.le_findGreatest (P := fun k => r.start k ≤ limit) (Nat.le_sub_one_of_lt hk) h
    omega
  · intro h
    have hlast : r.start (Nat.findGreatest (fun k => r.start k ≤ limit) (r.budget - 1)) ≤ limit :=
      Nat.findGreatest_spec (P := fun k => r.start k ≤ limit) (Nat.zero_le _) (by simp)
    exact Nat.le_trans (r.start_mono (by omega)) hlast

/-- All attempts begin until a deadline that leaves the time for all waits. -/
theorem begun_eq_iff (limit : Nat) : r.begun limit = r.budget ↔ r.start (r.budget - 1) ≤ limit := by
  have h1 := r.one_le_budget
  have hle := r.begun_le limit
  rw [r.start_le_iff (by omega)]
  omega

end Retry

namespace World

/-! ## The calls of a run and their times -/

section CallTimes

variable {α β : Type} {w : World} {c : Call} {now limit : Nat}

@[simp] theorem callTimes_done (a : α) : callTimes (.done a) now w = [] := rfl

@[simp] theorem callTimes_wait (ms : Nat) (x : Script World α) :
    callTimes (.wait ms x) now w = callTimes x (now + ms) w := rfl

theorem callTimes_bind (x : Script World α) (f : α → Script World β) :
    callTimes (x.bind f) now w =
      callTimes x now w ++ callTimes (f (x.run w).value) (now + (x.run w).elapsed) (x.run w).state := by
  simp only [callTimes, Script.timed_bind, List.flatMap_append]

theorem callTimes_modifyGet (f : World → α × World) :
    callTimes (Script.modifyGet f) now w = (w.madeSince (f w).2).map fun c => (now, c) :=
  List.append_nil _

/-- A call is put on record when it is made, whatever becomes of it. -/
theorem callTimes_call {effect : Fault → World → Answer α × World}
    (he : ∀ fault t, (effect fault t).2.calls = t.calls) :
    callTimes (call c effect) now w = [(now, c)] := by
  have heffect (fault : Fault) (t : World) : t.madeSince (effect fault t).2 = [] := by
    rw [madeSince, he, List.drop_length]
  simp only [call, Script.bind_eq, callTimes_bind, callTimes_modifyGet, madeSince_noted, Script.sleep,
    Script.pure_eq_done, callTimes_wait, callTimes_done]
  split
  · rfl
  · split
    · rfl
    · simp only [callTimes_bind, callTimes_modifyGet, heffect]
      split <;> rfl

/-- Under a timeout the steps are taken whose time has come by then. -/
theorem timed_bounded (x : Script World (Answer α)) :
    (bounded limit x).timed now w = (x.timed now w).filter fun e => e.1 ≤ now + limit := by
  rw [bounded, Script.timed_bind, Script.timed_within]
  rcases ((x.within limit).run w).value with _ | _ | _ <;> exact List.append_nil _

/-- Under a timeout the calls are made whose time has come by then. -/
theorem callTimes_bounded (x : Script World (Answer α)) :
    callTimes (bounded limit x) now w =
      (callTimes x now w).filter fun e => e.1 ≤ now + limit := by
  simp only [callTimes, timed_bounded]
  induction x.timed now w with
  | nil => rfl
  | cons e rest ih =>
    by_cases h : e.1 ≤ now + limit
    · simp [h, ih, List.filter_map, Function.comp_def]
    · simp [h, ih, List.filter_map, Function.comp_def]

theorem onlyCalls_nil : OnlyCalls [] := fun _ h => nomatch h

theorem OnlyCalls.append {steps later : List (World × World)} (h : OnlyCalls steps)
    (h' : OnlyCalls later) : OnlyCalls (steps ++ later) :=
  fun e he => (List.mem_append.1 he).elim (h e) (h' e)

/-- The record after a run that only made calls. -/
theorem calls_of_onlyCalls {x : Script World α} (h : OnlyCalls (x.trace w)) (now : Nat) :
    (x.run w).state.calls = w.calls ++ (callTimes x now w).map Prod.snd := by
  induction x generalizing w now with
  | done a => exact (List.append_nil _).symm
  | act update next ih =>
    obtain ⟨hfirst, hrest⟩ := List.forall_mem_cons.1 h
    have hcalls : (update w).calls = w.calls ++ w.madeSince (update w) := hfirst.1.madeSince_eq
    have htimes : callTimes (.act update next) now w =
        ((w.madeSince (update w)).map fun c => (now, c)) ++ callTimes (next w) now (update w) := rfl
    rw [htimes, List.map_append, List.map_map]
    show ((next w).run (update w)).state.calls = _
    rw [ih w hrest now, hcalls, List.append_assoc]
    simp [Function.comp_def]
  | wait ms next ih => exact ih h (now + ms)

theorem store_of_onlyCalls {x : Script World α} (h : OnlyCalls (x.trace w)) :
    (x.run w).state.store = w.store :=
  Script.run_keeps World.store fun e he => (h e he).2

/-- Under a timeout a run that only makes calls does nothing else either. -/
theorem onlyCalls_bounded {x : Script World (Answer α)} (h : OnlyCalls (x.trace w)) :
    OnlyCalls ((bounded limit x).trace w) := by
  rw [← Script.map_timed _ 0, timed_bounded]
  intro e he
  obtain ⟨step, hstep, rfl⟩ := List.mem_map.1 he
  refine h step.2 ?_
  rw [← Script.map_timed x 0 w]
  exact List.mem_map_of_mem (List.mem_of_mem_filter hstep)

end CallTimes

/-! ## One attempt -/

/-- The attempt makes the calls `pair` at once, meets a conflict and does nothing else. -/
structure Refused (pair : List Call) (attempt : Script World Attempt) (w : World) : Prop where
  ran : ∃ w', attempt.run w = ⟨.contended, 0, w'⟩ ∧ w'.Contended
  calls : ∀ now, callTimes attempt now w = pair.map fun c => (now, c)
  only : OnlyCalls (attempt.trace w)

section Attempt

variable {w : World} {c : Call} {name profile node : String} {cpus : List CpuId}

theorem Contended.noted (h : w.Contended) (c : Call) : (noted w c).2.Contended :=
  fun past d => h (c :: past) d

/-- The steps of a call: it is put on record, and unless a fault makes it fail it takes effect. -/
theorem trace_call {α : Type} (effect : Fault → World → Answer α × World) :
    (call c effect).trace w =
      (w, (World.noted w c).2) ::
        if (World.noted w c).1.conflict = true ∨ (World.noted w c).1.error ≠ none then []
        else [((World.noted w c).2, (effect (World.noted w c).1 (World.noted w c).2).2)] := by
  simp only [call, Script.bind_eq, Script.pure_eq_done, Script.trace_bind, Script.modifyGet,
    Script.sleep, Script.trace, Script.run]
  by_cases hc : (World.noted w c).1.conflict = true
  · simp [hc, Script.trace]
  · cases he : (World.noted w c).1.error with
    | some reason => simp [hc, Script.trace]
    | none =>
      cases ha : (effect (World.noted w c).1 (World.noted w c).2).1 <;>
        simp [hc, ha, Script.trace_bind, Script.trace, Script.run]

/-- To put a call on record is to make a call. -/
theorem onlyCalls_noted (w : World) (c : Call) : OnlyCalls [(w, (World.noted w c).2)] := by
  intro e he
  rw [List.mem_singleton.1 he]
  exact ⟨.noted w c, rfl⟩

/-- A read gives what is stored, at once. -/
theorem get_of_contended (h : w.Contended) :
    (workloads.get name).run w =
        ⟨.ok (w.store.find? name), 0, (World.noted w ⟨.getWorkload, name, .none⟩).2⟩ ∧
      OnlyCalls ((workloads.get name).trace w) := by
  have hidle : (World.noted w ⟨.getWorkload, name, .none⟩).1.Idle :=
    (h [] ⟨.getWorkload, name, .none⟩).1 rfl
  refine ⟨?_, ?_⟩
  · rw [show (workloads.get name).run w = _ from run_call_of_spared hidle.conflict hidle.error]
    simp only [hidle.delay, hidle.delayAfter, hidle.peer]
    rfl
  · rw [show (workloads.get name).trace w = _ from trace_call _,
      if_neg (by simp [hidle.conflict, hidle.error]), hidle.peer]
    exact (onlyCalls_noted w _).append fun e he => by
      rw [List.mem_singleton.1 he]
      exact ⟨.refl _, rfl⟩

/-- A write meets a conflict, at once. -/
theorem write_of_contended (h : w.Contended) (hc : c.method.writes = true)
    (f : Versioned → Except ServiceError Versioned) :
    (call c (write f)).run w = ⟨.error (.conflict c.key), 0, (World.noted w c).2⟩ ∧
      OnlyCalls ((call c (write f)).trace w) := by
  obtain ⟨hdelay, hconflict⟩ :
      (World.noted w c).1.delay = 0 ∧ (World.noted w c).1.conflict = true := (h [] c).2 hc
  refine ⟨?_, ?_⟩
  · simp [call, Script.run_bind, Script.modifyGet, Script.sleep, Script.run, hdelay, hconflict]
  · rw [trace_call, if_pos (.inl hconflict)]
    exact onlyCalls_noted w c

theorem calls_write {f : Versioned → Except ServiceError Versioned} (fault : Fault) (t : World) :
    (write f fault t).2.calls = t.calls := by
  unfold write
  split <;> rfl

/-- An attempt that goes on to write is refused. -/
theorem refused_of_write {next : Answer (Option Workload) → Script World Attempt}
    (f : Versioned → Except ServiceError Versioned) (change : WorkloadChange) (h : w.Contended)
    (hc : c.method.writes = true)
    (hnext : next (.ok (w.store.find? name)) =
      (call c (write f)).bind fun a => .done (.ofWrite change a)) :
    w.Refused [⟨.getWorkload, name, .none⟩, c] ((workloads.get name).bind next) := by
  obtain ⟨hget, hread⟩ := @get_of_contended w name h
  have h' := h.noted ⟨.getWorkload, name, .none⟩
  obtain ⟨hput, hwrite⟩ := write_of_contended h' hc f
  refine ⟨⟨_, ?_, h'.noted c⟩, fun now => ?_, ?_⟩
  · simp [Script.run_bind, hget, hnext, hput, Attempt.ofWrite]
  · rw [callTimes_bind, hget, hnext, callTimes_bind, hput, callTimes_call calls_write]
    rw [show callTimes (workloads.get name) now w = _ from callTimes_call fun _ _ => rfl]
    rfl
  · rw [Script.trace_bind, hget, hnext, Script.trace_bind, hput]
    exact hread.append (hwrite.append onlyCalls_nil)

/-- An attempt that does not go on to write ends with the read. -/
theorem reads_of_settled {next : Answer (Option Workload) → Script World Attempt} {a : Attempt}
    (h : w.Contended) (hnext : next (.ok (w.store.find? name)) = .done a) :
    w.ReadsOnce name a ((workloads.get name).bind next) := by
  obtain ⟨hget, -⟩ := @get_of_contended w name h
  have hrun : ((workloads.get name).bind next).run w =
      ⟨a, 0, (World.noted w ⟨.getWorkload, name, .none⟩).2⟩ := by
    simp [Script.run_bind, hget, hnext]
  refine ⟨?_, by rw [hrun], by rw [hrun], by rw [hrun]; rfl, by rw [hrun]; rfl⟩
  rw [callTimes_bind, hget, hnext,
    show callTimes (workloads.get name) 0 w = _ from callTimes_call fun _ _ => rfl]
  rfl

/-- Adding CPUs that change the workload is refused, with the same calls every time. -/
theorem addOnce_refused
    (h : Spec.added profile node cpus (w.store.specs (workloadName profile)) ≠
      w.store.specs (workloadName profile)) :
    ∃ c : Call, c.method.writes = true ∧ c.key = workloadName profile ∧
      ∀ t : World, t.Contended → t.store = w.store →
        t.Refused [⟨.getWorkload, workloadName profile, .none⟩, c]
          (workloads.addOnce profile node cpus) := by
  have hch := Spec.changed_merge_iff.2 h
  cases hf : w.store.find? (workloadName profile) with
  | none =>
    rw [Versioned.specs_of_not_found hf] at hch
    let u : Workload :=
      ⟨some (workloadName profile), none, (Spec.merge ⟨profile, []⟩ node cpus).value⟩
    refine ⟨⟨.createWorkload, u.key, .record u⟩, rfl, rfl,
      fun t ht hs => refused_of_write (·.create u) .created ht rfl ?_⟩
    rw [hs, hf]
    exact if_pos hch
  | some found =>
    rw [Versioned.specs_of_find? hf] at hch
    have hkey : found.key = workloadName profile := w.store.named _ _ hf
    let u : Workload := { found with spec := (found.spec.merge node cpus).value }
    refine ⟨⟨.replaceWorkload, u.key, .record u⟩, rfl, hkey,
      fun t ht hs => refused_of_write (·.replace u) .updated ht rfl ?_⟩
    rw [hs, hf]
    exact if_pos hch

/-- Adding what is there already ends with the read. -/
theorem addOnce_reads (hw : w.Contended)
    (h : Spec.added profile node cpus (w.store.specs (workloadName profile)) =
      w.store.specs (workloadName profile)) :
    w.ReadsOnce (workloadName profile) (.settled (.ok .unchanged))
      (workloads.addOnce profile node cpus) := by
  have hch := mt Spec.changed_merge_iff.1 (not_not_intro h)
  refine reads_of_settled hw ?_
  cases hf : w.store.find? (workloadName profile) with
  | none =>
    rw [Versioned.specs_of_not_found hf] at hch
    exact if_neg hch
  | some found =>
    rw [Versioned.specs_of_find? hf] at hch
    exact if_neg hch

/-- Taking out CPUs of which one is there is refused, with the same calls every time. -/
theorem removeOnce_refused {spec : Spec} {cpu : CpuId}
    (h : w.store.specs (workloadName profile) = some spec) (hc : cpu ∈ cpus)
    (hl : cpu ∈ spec.cpusOn node) :
    ∃ c : Call, c.method.writes = true ∧ c.key = workloadName profile ∧
      ∀ t : World, t.Contended → t.store = w.store →
        t.Refused [⟨.getWorkload, workloadName profile, .none⟩, c]
          (workloads.removeOnce profile node cpus) := by
  obtain ⟨found, hf, rfl⟩ := Versioned.specs_eq_some h
  have hch := Spec.changed_remove hc hl
  have hkey : found.key = workloadName profile := w.store.named _ _ hf
  let u : Workload := { found with spec := (found.spec.remove node cpus).value }
  by_cases hnil : (found.spec.remove node cpus).value.nodes = []
  · refine ⟨⟨.deleteWorkload, u.key, .record u⟩, rfl, hkey,
      fun t ht hs => refused_of_write (·.delete u) .deleted ht rfl ?_⟩
    rw [hs, hf]
    simp only [hch, hnil, Bool.not_true, Bool.false_eq_true, if_false, if_true]
    rfl
  · refine ⟨⟨.replaceWorkload, u.key, .record u⟩, rfl, hkey,
      fun t ht hs => refused_of_write (·.replace u) .updated ht rfl ?_⟩
    rw [hs, hf]
    simp only [hch, hnil, Bool.not_true, Bool.false_eq_true, if_false]
    rfl

end Attempt

/-! ## All attempts -/

section Retries

variable {w : World} {r : Retry} {name : String} {pair : List Call} {attempt : Script World Attempt}
  {limit : Nat}

/-- What attempts come to that are all refused, of which `left + 1` are left when number `i`
begins. -/
structure Exhausts (r : Retry) (name : String) (pair : List Call) (left i : Nat)
    (x : Script World (Answer WorkloadChange)) (w : World) : Prop where
  value : (x.run w).value = .error (.conflict name)
  elapsed : r.start i + (x.run w).elapsed = r.start (i + left)
  calls : callTimes x (r.start i) w =
    (List.range' i (left + 1)).flatMap fun k => pair.map fun c => (r.start k, c)
  only : OnlyCalls (x.trace w)

/-- One attempt after the other is refused, with the waits in between. -/
theorem retryFrom_exhausts {left i : Nat}
    (h : ∀ t : World, t.Contended → t.store = w.store → t.Refused pair attempt)
    (hw : w.Contended) :
    w.Exhausts r name pair left i (retryFrom r name attempt (left + 1) i) := by
  induction left generalizing w i with
  | zero =>
    obtain ⟨⟨t, hran, -⟩, hcalls, honly⟩ := h w hw rfl
    refine ⟨?_, ?_, ?_, ?_⟩
    · simp [retryFrom, Script.run_bind, hran]
    · simp [retryFrom, Script.run_bind, hran]
    · simp [retryFrom, callTimes_bind, hran, hcalls]
    · rw [retryFrom, Script.trace_bind, hran]
      exact honly.append onlyCalls_nil
  | succ left ih =>
    obtain ⟨⟨t, hran, ht⟩, hcalls, honly⟩ := h w hw rfl
    have hstore : t.store = w.store := by
      have := store_of_onlyCalls honly
      rwa [hran] at this
    obtain ⟨hvalue, helapsed, hrest, hlater⟩ := ih (i := i + 1) (hstore ▸ h) ht
    have hstart : r.start i + r.pause i = r.start (i + 1) := (r.start_succ i).symm
    refine ⟨?_, ?_, ?_, ?_⟩
    · simpa [retryFrom, Script.run_bind, Script.run, hran] using hvalue
    · rw [retryFrom, Script.run_bind, hran]
      simp only [Nat.add_one_ne_zero, if_false, Script.run]
      rw [show i + (left + 1) = i + 1 + left by omega, ← helapsed, ← hstart]
      omega
    · rw [retryFrom, callTimes_bind, hran, hcalls]
      simp only [Nat.add_one_ne_zero, if_false, callTimes_wait, Nat.add_zero]
      rw [show List.range' i (left + 1 + 1) = i :: List.range' (i + 1) (left + 1) from
        List.range'_succ, List.flatMap_cons, hstart, hrest]
    · rw [retryFrom, Script.trace_bind, hran]
      exact honly.append hlater

/-- The attempts that begin until a deadline are those that are left of all under it. -/
theorem filter_tries (r : Retry) (pair : List Call) (limit : Nat) :
    (r.tries pair r.budget).filter (fun e => e.1 ≤ 0 + limit) = r.tries pair (r.begun limit) := by
  obtain ⟨later, hlater⟩ := Nat.exists_eq_add_of_le (r.begun_le limit)
  have hbegun : ∀ k ∈ List.range (r.begun limit),
      (pair.map fun c => (r.start k, c)).filter (fun e => e.1 ≤ 0 + limit) =
        pair.map fun c => (r.start k, c) := by
    intro k hk
    have hk : k < r.begun limit := List.mem_range.1 hk
    have hle := (r.start_le_iff (Nat.lt_of_lt_of_le hk (r.begun_le limit))).2 hk
    simp [List.filter_map, Function.comp_def, hle]
  have hlate : ∀ k ∈ (List.range later).map (r.begun limit + ·),
      (pair.map fun c => (r.start k, c)).filter (fun e => e.1 ≤ 0 + limit) = [] := by
    intro k hk
    obtain ⟨d, hd, rfl⟩ := List.mem_map.1 hk
    have hd := List.mem_range.1 hd
    have hnot : ¬ r.start (r.begun limit + d) ≤ limit := by
      rw [r.start_le_iff (by omega)]
      omega
    simp [List.filter_map, Function.comp_def, hnot]
  rw [Retry.tries, Retry.tries, List.filter_flatMap, hlater, List.range_add, List.flatMap_append,
    List.flatMap_eq_nil_iff.2 hlate, List.append_nil, List.flatMap_congr hbegun]

variable {x : Script World (Answer WorkloadChange)}

/-- An update of which all attempts are refused uses up its budget. -/
theorem Exhausts.usesUp (h : w.Exhausts r name pair (r.budget - 1) 0 x) :
    w.UsesUp r name pair x := by
  have hbudget : r.budget - 1 + 1 = r.budget := Nat.sub_add_cancel r.one_le_budget
  have hcalls : callTimes x 0 w = r.tries pair r.budget := by
    have := h.calls
    rwa [r.start_zero, hbudget, ← List.range_eq_range'] at this
  refine ⟨hcalls, h.value, ?_, ?_, store_of_onlyCalls h.only⟩
  · simpa using h.elapsed
  · rw [← hcalls]
    exact calls_of_onlyCalls h.only 0

/-- Under a timeout it makes the attempts for which there is the time. -/
theorem Exhausts.usesWithin (h : w.Exhausts r name pair (r.budget - 1) 0 x) (limit : Nat) :
    w.UsesWithin r name pair limit x := by
  obtain ⟨hcalls, hvalue, helapsed, -, -⟩ := h.usesUp
  have honly : OnlyCalls ((bounded limit x).trace w) := onlyCalls_bounded h.only
  have htimes : callTimes (bounded limit x) 0 w = r.tries pair (r.begun limit) := by
    rw [callTimes_bounded, hcalls, filter_tries]
  refine ⟨htimes, ?_, store_of_onlyCalls honly, fun hlt => ?_, fun heq => ?_, r.begun_eq_iff limit⟩
  · rw [← htimes]
    exact calls_of_onlyCalls honly 0
  · have hlate : limit < (x.run w).elapsed := by
      rw [helapsed, ← Nat.not_le, ← r.begun_eq_iff]
      exact Nat.ne_of_lt hlt
    obtain ⟨hnone, hend⟩ := Script.run_within_of_lt hlate
    rw [bounded, Script.run_bind, hnone]
    exact ⟨rfl, hend⟩
  · have hle : (x.run w).elapsed ≤ limit := by
      rw [helapsed]
      exact (r.begun_eq_iff limit).1 heq
    rw [bounded, Script.run_bind, Script.run_within_of_le hle, hvalue]
    exact ⟨rfl, helapsed⟩

/-- An update by attempts that are refused as often as they are made. -/
theorem retrying_inVain (hw : w.Contended)
    (h : ∃ c : Call, c.method.writes = true ∧ c.key = name ∧
      ∀ t : World, t.Contended → t.store = w.store →
        t.Refused [⟨.getWorkload, name, .none⟩, c] attempt) :
    w.InVain r name (retrying r name attempt) := by
  obtain ⟨c, hc, hkey, hrefused⟩ := h
  have hall : w.Exhausts r name _ (r.budget - 1) 0 (retryFrom r name attempt (r.budget - 1 + 1) 0) :=
    retryFrom_exhausts hrefused hw
  rw [← Update.retrying_eq] at hall
  exact ⟨c, hc, hkey, hall.usesUp, hall.usesWithin⟩

/-- Attempts of which the first one ends with the read. -/
theorem ReadsOnce.retrying {a : Answer WorkloadChange} (h : w.ReadsOnce name (.settled a) attempt) :
    w.ReadsOnce name a (retrying r name attempt) := by
  rw [Update.retrying_eq, retryFrom]
  refine ⟨?_, ?_, ?_, ?_, ?_⟩
  · rw [callTimes_bind, h.value, h.calls]
    rfl
  · rw [Script.run_bind, h.value]
    rfl
  · rw [Script.run_bind, h.value]
    exact h.elapsed
  · rw [Script.run_bind, h.value]
    exact h.recorded
  · rw [Script.run_bind, h.value]
    exact h.store

/-- Under a timeout there is always the time for the read. -/
theorem ReadsOnce.bounded {change : WorkloadChange} (h : w.ReadsOnce name (.ok change) x) :
    w.ReadsOnce name (.ok change) (bounded limit x) := by
  have hle : (x.run w).elapsed ≤ limit := h.elapsed ▸ Nat.zero_le limit
  have hrun : ((PowerGrant.bounded limit x).run w) = ⟨.ok change, 0, (x.run w).state⟩ := by
    rw [PowerGrant.bounded, Script.run_bind, Script.run_within_of_le hle, h.value, h.elapsed]
    rfl
  refine ⟨?_, by rw [hrun], by rw [hrun], by rw [hrun, h.recorded], by rw [hrun, h.store]⟩
  rw [callTimes_bounded, h.calls]
  exact List.filter_eq_self.2 (by simp)

variable {profile node : String} {cpus : List CpuId}

/-- When every write meets a conflict, an update that has something to change makes all attempts of
its budget, with all waits between them, and fails with the last; under a timeout it makes the
attempts that begin until then, and is cut off at that moment unless these are all. Adding no CPUs,
or CPUs that the node's entry has in order already, ends with the first read. -/
theorem contended_updates (h : w.Contended) :
    (Spec.added profile node cpus (w.store.specs (workloadName profile)) ≠
        w.store.specs (workloadName profile) →
      w.InVain r (workloadName profile) (workloads.add r profile node cpus)) ∧
    ((cpus = [] ∨ ∃ spec e, w.store.specs (workloadName profile) = some spec ∧
        spec.nodes.find? (fun e => e.node = node) = some e ∧ Rises e.cpus ∧ ∀ c ∈ cpus, c ∈ e.cpus) →
      w.ReadsOnce (workloadName profile) (.ok .unchanged) (workloads.add r profile node cpus) ∧
        ∀ limit, w.ReadsOnce (workloadName profile) (.ok .unchanged)
          (bounded limit (workloads.add r profile node cpus))) ∧
    ∀ spec, w.store.specs (workloadName profile) = some spec →
      (∃ cpu ∈ cpus, cpu ∈ spec.cpusOn node) →
      w.InVain r (workloadName profile) (workloads.remove r profile node cpus) := by
  refine ⟨fun hadd => retrying_inVain h (addOnce_refused hadd), fun hsame => ?_,
    fun spec hspec hpresent => ?_⟩
  · have hread : w.ReadsOnce (workloadName profile) (.ok .unchanged)
        (workloads.add r profile node cpus) :=
      (addOnce_reads h (Spec.added_eq_self_iff.2 hsame)).retrying
    exact ⟨hread, fun limit => hread.bounded⟩
  · obtain ⟨cpu, hc, hl⟩ := hpresent
    exact retrying_inVain h (removeOnce_refused hspec hc hl)

end Retries

/-! ## A store that always conflicts -/

/-- A world whose store refuses every write. -/
def refusing (store : Versioned) : World :=
  { store, faults := [.createWorkload, .replaceWorkload, .deleteWorkload].map fun method =>
      { method, times := none, conflict := true } }

theorem contended_refusing (store : Versioned) : (refusing store).Contended := by
  have hlasts (past : List Call) (w : World) (hw : w.faults = (refusing store).faults) :
      (past.foldl (fun w c => (noted w c).2) w).faults = (refusing store).faults := by
    induction past generalizing w with
    | nil => exact hw
    | cons c past ih =>
      refine ih _ ?_
      obtain ⟨method, key, detail⟩ := c
      simp only [noted, hw]
      cases method <;> rfl
  intro past c
  have hw := hlasts past (refusing store) rfl
  generalize past.foldl (fun w c => (noted w c).2) (refusing store) = w at hw
  obtain ⟨method, key, detail⟩ := c
  simp only [noted, hw]
  cases method with
  | getWorkload => exact ⟨fun _ => ⟨rfl, rfl, rfl, rfl, rfl⟩, by rintro ⟨⟩⟩
  | createWorkload | replaceWorkload | deleteWorkload =>
    exact ⟨by rintro ⟨⟩, fun _ => ⟨rfl, rfl⟩⟩
  | getPod | resolveNode | getProfile | getCpus => exact ⟨by rintro ⟨⟩, by rintro ⟨⟩⟩

/-- A store with one workload. -/
def storedPerf : Versioned := Versioned.empty.put ⟨some "perf-workload", none, ⟨"perf", [⟨"n1", [4]⟩]⟩⟩

/-- Five attempts begin after 0, 50, 150, 350 and 750 ms; three of them before 200 ms are over. -/
theorem contended_updates_storedPerf :
    (refusing storedPerf).InVain ⟨5, 50⟩ "perf-workload" (workloads.add ⟨5, 50⟩ "perf" "n1" [7]) ∧
      (refusing storedPerf).InVain ⟨5, 50⟩ "perf-workload"
        (workloads.remove ⟨5, 50⟩ "perf" "n1" [4]) ∧
      (refusing storedPerf).ReadsOnce "perf-workload" (.ok .unchanged)
        (workloads.add ⟨5, 50⟩ "perf" "n1" [4]) ∧
      (⟨5, 50⟩ : Retry).start 4 = 750 ∧ (⟨5, 50⟩ : Retry).begun 200 = 3 := by
  have hrefused := contended_refusing storedPerf
  obtain ⟨-, hsame, hremove⟩ := @contended_updates _ ⟨5, 50⟩ "perf" "n1" [4] hrefused
  refine ⟨(@contended_updates _ ⟨5, 50⟩ "perf" "n1" [7] hrefused).1 (by decide),
    hremove ⟨"perf", [⟨"n1", [4]⟩]⟩ (by decide) ⟨4, by decide, by decide⟩, ?_, by decide, by decide⟩
  refine (hsame (.inr ⟨⟨"perf", [⟨"n1", [4]⟩]⟩, ⟨"n1", [4]⟩, by decide, by decide, ?_, ?_⟩)).1
  · exact List.pairwise_singleton _ _
  · exact fun _ hc => hc

/-- CPUs that are there already are not written again, so adding them ends with the first read. -/
theorem not_inVain_storedPerf :
    (refusing storedPerf).Contended ∧
      ((workloads.add ⟨5, 50⟩ "perf" "n1" [4]).run (refusing storedPerf)).value = .ok .unchanged ∧
      ((workloads.add ⟨5, 50⟩ "perf" "n1" [4]).run (refusing storedPerf)).state.calls =
        [⟨.getWorkload, "perf-workload", .none⟩] ∧
      ¬ (refusing storedPerf).InVain ⟨5, 50⟩ "perf-workload"
        (workloads.add ⟨5, 50⟩ "perf" "n1" [4]) := by
  have hvalue : ((workloads.add ⟨5, 50⟩ "perf" "n1" [4]).run (refusing storedPerf)).value =
      .ok .unchanged := by decide +kernel
  refine ⟨contended_refusing _, hvalue, by decide +kernel, ?_⟩
  rintro ⟨write, -, -, hup, -⟩
  rw [hup.value] at hvalue
  cases hvalue

end World

end PowerGrant
