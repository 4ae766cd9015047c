import PowerGrant.Proofs.Script.Trace

/-!
# When a script takes its steps

The steps of an undisturbed run, each with the time at which it is taken. A script with a deadline
takes the steps that it would take without one, up to the deadline and at that moment too.

* `timed`: the steps and their times. `timed_bind`: those of a script after another.
* `timed_within`: what a deadline leaves of them. `map_timed_onPart`: those of a script on a part of a
  larger state.
* `run_state_eq_foldl`: the last of them leads to where the run ends.
* `run_keeps`: what no step of a run changes is the same in the end.
-/

namespace PowerGrant.Script

variable {σ α β τ : Type}

/-- The steps of a run that begins at the time `now` and that nothing disturbs, with their times. -/
def timed : Script σ α → Nat → σ → List (Nat × σ × σ)
  | done _, _, _ => []
  | act update next, now, s => (now, s, update s) :: timed (next s) now (update s)
  | wait ms next, now, s => timed next (now + ms) s

@[simp] theorem timed_done (a : α) (now : Nat) (s : σ) : (done a).timed now s = [] := rfl

/-- A script after another begins when and where the other has ended. -/
theorem timed_bind (x : Script σ α) (f : α → Script σ β) (now : Nat) (s : σ) :
    (x.bind f).timed now s =
      x.timed now s ++ (f (x.run s).value).timed (now + (x.run s).elapsed) (x.run s).state := by
  induction x generalizing now s with
  | done a => rfl
  | act update next ih => simp only [bind, timed, run, ih, List.cons_append]
  | wait ms next ih => simp only [bind, timed, run, ih, Nat.add_assoc]

theorem map_timed (x : Script σ α) (now : Nat) (s : σ) :
    (x.timed now s).map Prod.snd = x.trace s := by
  induction x generalizing now s with
  | done a => rfl
  | act update next ih => simp only [timed, trace, List.map_cons, ih]
  | wait ms next ih => exact ih (now + ms) s

/-- No step is taken before the run has begun. -/
theorem le_of_mem_timed {x : Script σ α} {now : Nat} {s : σ} {e : Nat × σ × σ}
    (h : e ∈ x.timed now s) : now ≤ e.1 := by
  induction x generalizing now s with
  | done a => cases h
  | act update next ih =>
    rcases List.mem_cons.1 h with rfl | h
    · exact Nat.le_refl now
    · exact ih s h
  | wait ms next ih => exact Nat.le_of_add_right_le (ih h)

/-- No step is taken after the run has ended. -/
theorem le_end_of_mem_timed {x : Script σ α} {now : Nat} {s : σ} {e : Nat × σ × σ}
    (h : e ∈ x.timed now s) : e.1 ≤ now + (x.run s).elapsed := by
  induction x generalizing now s with
  | done a => cases h
  | act update next ih =>
    rcases List.mem_cons.1 h with rfl | h
    · exact Nat.le_add_right _ _
    · exact ih s h
  | wait ms next ih => exact Nat.add_assoc .. ▸ ih h

/-- A run ends where the last of its steps has led. -/
theorem run_state_eq_foldl (x : Script σ α) (now : Nat) (s : σ) :
    (x.run s).state = (x.timed now s).foldl (fun _ e => e.2.2) s := by
  induction x generalizing now s with
  | done a => rfl
  | act update next ih => exact ih s now (update s)
  | wait ms next ih => exact ih (now + ms) s

/-- A script on a part of a larger state takes its steps on that part, at the same times. -/
theorem map_timed_onPart {get : τ → σ} {set : σ → τ → τ} (hget : ∀ s t, get (set s t) = s)
    (x : Script σ α) (now : Nat) (t : τ) :
    ((x.onPart get set).timed now t).map (fun e => (e.1, get e.2.1, get e.2.2)) =
      x.timed now (get t) := by
  induction x generalizing now t with
  | done a => rfl
  | act update next ih => simp only [onPart, timed, List.map_cons, ih, hget]
  | wait ms next ih => exact ih (now + ms) t

/-- With a deadline the steps are taken whose time has come by then. -/
theorem timed_within (limit : Nat) (x : Script σ α) (now : Nat) (s : σ) :
    (x.within limit).timed now s = (x.timed now s).filter fun e => e.1 ≤ now + limit := by
  induction x generalizing limit now s with
  | done a => rfl
  | act update next ih =>
    simp only [within, timed, ih]
    rw [List.filter_cons_of_pos (by simp)]
  | wait ms next ih =>
    simp only [within, timed]
    split
    case isTrue h =>
      simp only [timed, ih]
      rw [show now + ms + (limit - ms) = now + limit by omega]
    case isFalse h =>
      symm
      rw [timed, timed_done, List.filter_eq_nil_iff]
      intro e he
      have hlate : now + ms ≤ e.1 := le_of_mem_timed he
      simp only [decide_eq_true_eq]
      omega

/-- What no step of a run changes is the same in the end. -/
theorem run_keeps (f : σ → τ) {x : Script σ α} {s : σ} (h : ∀ e ∈ x.trace s, f e.2 = f e.1) :
    f (x.run s).state = f s := by
  induction x generalizing s with
  | done a => rfl
  | act update next ih =>
    obtain ⟨hfirst, hrest⟩ := List.forall_mem_cons.1 h
    exact (ih s hrest).trans hfirst
  | wait ms next ih => exact ih h

end PowerGrant.Script
