import Mathlib.Order.Bounds.Basic
import PowerGrant.Tasks

/-!
# When a wait for tasks ends

After a signal the tasks are awaited in the order in which they are listed, all under one deadline.
That comes to awaiting the slowest of them, so neither their order nor how they end matters. A task
that ends before any signal ends the wait, whatever the others do.

* `Task.awaitEach_le_iff`: by when tasks have been awaited one after the other.
* `Task.supervise_of_signal`, `Task.supervise_of_first`: which of the two ends a wait has.
* `Task.supervise_ends`: the time of either end, and of the cancellation.
-/

namespace PowerGrant.Task

/-- Cancelled at `time`, the task has ended by `now`. -/
def OverBy (t : Task) (time now : Nat) : Prop := ∃ e, t.cancelled time = some e ∧ e.time ≤ now

/-- Left alone, each of the tasks ends later than `time`, if it ends. -/
def AllOutlive (tasks : List Task) (time : Nat) : Prop :=
  ∀ t ∈ tasks, ∀ e, t.alone = some e → time < e.time

/-- When the task ends, left alone and cancelled at any time, but not how. -/
def times (t : Task) : Option Nat × (Nat → Option Nat) :=
  (t.alone.map Ending.time, fun time => (t.cancelled time).map Ending.time)

variable {tasks others before after : List Task} {t : Task} {e : Ending} {signal : Option Nat}
  {time now deadline bound : Nat} {endings : List (Option Ending)}

/-! ## The first ending -/

theorem earlier_eq_or (a b : Option Ending) : earlier a b = a ∨ earlier a b = b := by
  unfold earlier
  split
  · split
    · exact .inr rfl
    · exact .inl rfl
  · exact .inl rfl
  · exact .inr rfl

theorem earlier_of_lt_left {b : Option Ending} (h : ∀ f, b = some f → e.time < f.time) :
    earlier (some e) b = some e := by
  cases b with
  | none => rfl
  | some f => exact if_neg (Nat.lt_asymm (h f rfl))

theorem earlier_of_lt_right {a : Option Ending} (h : ∀ f, a = some f → e.time < f.time) :
    earlier a (some e) = some e := by
  cases a with
  | none => rfl
  | some f => exact if_pos (h f rfl)

theorem mem_of_firstEnding (h : firstEnding tasks = some e) : ∃ t ∈ tasks, t.alone = some e := by
  induction tasks with
  | nil => cases h
  | cons t ts ih =>
    rw [firstEnding] at h
    rcases earlier_eq_or t.alone (firstEnding ts) with heq | heq
    · exact ⟨t, List.mem_cons_self, heq.symm.trans h⟩
    · obtain ⟨u, hu, he⟩ := ih (heq.symm.trans h)
      exact ⟨u, List.mem_cons_of_mem _ hu, he⟩

/-- The ending that all other tasks outlive is the first one. -/
theorem firstEnding_of_outlived (ht : t.alone = some e)
    (h : AllOutlive (before ++ after) e.time) : firstEnding (before ++ t :: after) = some e := by
  induction before with
  | nil =>
    rw [List.nil_append, firstEnding, ht]
    refine earlier_of_lt_left fun f hf => ?_
    obtain ⟨u, hu, halone⟩ := mem_of_firstEnding hf
    exact h u hu f halone
  | cons u before ih =>
    obtain ⟨hu, hrest⟩ := List.forall_mem_cons.1 h
    rw [List.cons_append, firstEnding, ih hrest]
    exact earlier_of_lt_right hu

/-! ## After a signal -/

/-- Awaiting one after the other takes until the last one has ended, or until the deadline. -/
theorem awaitEach_le_iff (h : now ≤ deadline) :
    awaitEach deadline now endings ≤ bound ↔
      now ≤ bound ∧
        ((∀ o ∈ endings, ∃ e, o = some e ∧ e.time ≤ bound) ∨ deadline ≤ bound) := by
  induction endings generalizing now with
  | nil => simp [awaitEach]
  | cons o rest ih =>
    cases o with
    | none =>
      simp only [awaitEach, List.forall_mem_cons, reduceCtorEq, false_and, exists_false, false_or]
      omega
    | some e =>
      simp only [awaitEach, List.forall_mem_cons, Option.some.injEq, exists_eq_left']
      split
      case isTrue hin =>
        rw [ih hin]
        constructor
        · rintro ⟨hnow, hrest⟩
          exact ⟨by omega, hrest.imp_left fun hall => ⟨by omega, hall⟩⟩
        · rintro ⟨hnow, ⟨he, hall⟩ | hlate⟩
          · exact ⟨by omega, .inl hall⟩
          · exact ⟨by omega, .inr hlate⟩
      case isFalse hout =>
        -- this task ends after the deadline, so the bound is no earlier than that either way
        constructor
        · exact fun hlate => ⟨by omega, .inr hlate⟩
        · rintro ⟨-, ⟨he, -⟩ | hlate⟩ <;> omega

/-- A task that outlives the signal ends as it does when it is cancelled then. -/
theorem endingAfter_of_alive (h : ∀ e, t.alone = some e → time < e.time) :
    t.endingAfter time = t.cancelled time := by
  unfold endingAfter
  split
  case h_1 e he => exact if_neg (Nat.lt_asymm (h e he))
  case h_2 => rfl

theorem forall_endingAfter_iff (h : AllOutlive tasks time) :
    (∀ o ∈ tasks.map (·.endingAfter time), ∃ e, o = some e ∧ e.time ≤ now) ↔
      ∀ t ∈ tasks, t.OverBy time now := by
  rw [List.forall_mem_map]
  refine forall₂_congr fun t ht => ?_
  rw [endingAfter_of_alive (h t ht), OverBy]

/-- A signal that no task has forestalled shuts the tasks down. -/
theorem supervise_of_signal (hne : tasks ≠ []) (h : AllOutlive tasks time) :
    supervise tasks (some time) = shutDown tasks time := by
  unfold supervise
  rw [if_neg (by simpa using hne)]
  split
  case h_1 e s he hs =>
    obtain ⟨t, ht, halone⟩ := mem_of_firstEnding he
    obtain rfl := Option.some.inj hs
    exact if_pos (h t ht e halone)
  case h_2 hs => cases hs
  case h_3 s _ hs => rw [Option.some.inj hs]
  case h_4 hs => cases hs

/-- Tasks that are shut down are cancelled at once, and have been awaited at the first moment at
which all of them have ended or the time for that is over. -/
theorem shutDown_isLeast (h : AllOutlive tasks time) :
    ∃ ended, shutDown tasks time = ⟨.completed ended, some time⟩ ∧
      IsLeast {now | time ≤ now ∧
        ((∀ t ∈ tasks, t.OverBy time now) ∨ time + shutdownTimeout ≤ now)} ended := by
  have hle {now : Nat} := @awaitEach_le_iff time (time + shutdownTimeout) now
    (tasks.map (·.endingAfter time)) (Nat.le_add_right _ _)
  simp only [forall_endingAfter_iff h] at hle
  exact ⟨_, rfl, hle.1 (Nat.le_refl _), fun now hnow => hle.2 hnow⟩

/-! ## Tasks that end at the same times -/

theorem overBy_iff_times :
    t.OverBy time now ↔ ∃ n, t.times.2 time = some n ∧ n ≤ now := by
  simp [OverBy, times]

theorem allOutlive_iff_times :
    AllOutlive tasks time ↔ ∀ p ∈ tasks.map times, ∀ n, p.1 = some n → time < n := by
  simp [AllOutlive, times]

theorem forall_overBy_iff_times :
    (∀ t ∈ tasks, t.OverBy time now) ↔
      ∀ p ∈ tasks.map times, ∃ n, p.2 time = some n ∧ n ≤ now := by
  simp only [overBy_iff_times, List.forall_mem_map]

/-- Tasks in another order, which may also end in other ways, but at the same times, are shut down
in the same time. -/
theorem shutDown_eq_of_times (hp : (others.map times).Perm (tasks.map times))
    (h : AllOutlive tasks time) (h' : AllOutlive others time) :
    shutDown others time = shutDown tasks time := by
  obtain ⟨ended, hrun, hleast⟩ := shutDown_isLeast h
  obtain ⟨ended', hrun', hleast'⟩ := shutDown_isLeast h'
  simp only [forall_overBy_iff_times, hp.mem_iff] at hleast hleast'
  rw [hrun, hrun', hleast.unique hleast']

/-! ## Either end of a wait -/

/-- A task that ends before any signal ends the wait. -/
theorem supervise_of_first (ht : t.alone = some e) (h : AllOutlive (before ++ after) e.time)
    (hs : ∀ time, signal = some time → e.time < time) :
    supervise (before ++ t :: after) signal = endedBy e := by
  unfold supervise
  rw [if_neg (by simp), firstEnding_of_outlived ht h]
  cases signal with
  | none => rfl
  | some time => exact if_neg (Nat.lt_asymm (hs time rfl))

/-- A signal that comes before any task has ended cancels the tasks at that moment, and the wait
ends well at the first moment from then on at which all of them have ended or 30 seconds are over. So
it does for tasks in any other order that end at the same times, by a failure or not. A task that ends
before any signal, and before all other tasks, ends the wait at that moment: well, and with the
tasks cancelled, unless it ends by a failure. -/
theorem supervise_ends (tasks : List Task) (signal : Option Nat) :
    (∀ time, signal = some time → tasks ≠ [] → AllOutlive tasks time →
      ∃ ended,
        IsLeast {now | time ≤ now ∧
          ((∀ t ∈ tasks, t.OverBy time now) ∨ time + 30000 ≤ now)} ended ∧
        ∀ others : List Task, (others.map times).Perm (tasks.map times) →
          supervise others signal = ⟨.completed ended, some time⟩) ∧
    ∀ before t after e, tasks = before ++ t :: after → t.alone = some e →
      AllOutlive (before ++ after) e.time → (∀ time, signal = some time → e.time < time) →
      (e.crashed = false → supervise tasks signal = ⟨.completed e.time, some e.time⟩) ∧
        (e.crashed = true → supervise tasks signal = ⟨.crashed e.time, none⟩) := by
  constructor
  · rintro time rfl hne hall
    obtain ⟨ended, hrun, hleast⟩ := shutDown_isLeast hall
    refine ⟨ended, hleast, fun others hp => ?_⟩
    have hne' : others ≠ [] := by
      rintro rfl
      exact hne (by simpa using hp.symm)
    have hall' : AllOutlive others time := by
      simpa only [allOutlive_iff_times, hp.mem_iff] using hall
    rw [supervise_of_signal hne' hall', shutDown_eq_of_times hp hall hall', hrun]
  · rintro before t after e rfl ht hfirst hs
    rw [supervise_of_first ht hfirst hs, endedBy]
    exact ⟨fun h => by rw [h]; rfl, fun h => by rw [h]; rfl⟩

/-- The second of two tasks is to fail after 5 seconds. If they are cancelled before, it needs 1.2
seconds to fail, and the first one, which would never end, 0.7 seconds. -/
theorem supervise_ends_cleanup :
    let tasks : List Task :=
      [⟨none, fun s => some ⟨s + 700, false⟩⟩, ⟨some ⟨5000, true⟩, fun s => some ⟨s + 1200, true⟩⟩]
    AllOutlive tasks 1000 ∧
      supervise tasks (some 1000) = ⟨.completed 2200, some 1000⟩ ∧
      supervise tasks.reverse (some 1000) = ⟨.completed 2200, some 1000⟩ ∧
      supervise tasks (some 5001) = ⟨.crashed 5000, none⟩ := by
  intro tasks
  have hall : AllOutlive tasks 1000 := by simp [AllOutlive, tasks]
  obtain ⟨ended, hleast, hrun⟩ :=
    (supervise_ends tasks (some 1000)).1 1000 rfl (by simp [tasks]) hall
  obtain rfl : ended = 2200 := by
    refine hleast.unique ⟨⟨by decide, .inl (by simp [tasks, OverBy])⟩, ?_⟩
    rintro now ⟨-, hover | hlate⟩
    · have hboth : 1700 ≤ now ∧ 2200 ≤ now := by simpa [tasks, OverBy] using hover
      exact hboth.2
    · omega
  refine ⟨hall, hrun tasks (.refl _), hrun tasks.reverse ((List.reverse_perm _).map _), ?_⟩
  exact ((supervise_ends tasks (some 5001)).2 [tasks[0]] tasks[1] [] ⟨5000, true⟩ rfl rfl
    (by simp [AllOutlive, tasks]) (by simp)).2 rfl

end PowerGrant.Task
