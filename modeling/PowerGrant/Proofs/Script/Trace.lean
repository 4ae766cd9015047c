import PowerGrant.Proofs.Script.Safe

/-!
# What a script goes through

`Safe` judges the steps of a script one by one. These readings of a script look at them together.

* `Traced`: what can be said at the end of all the steps that the script has taken itself, while
  others changed the state between them. `Traced.bind`: the steps of a script after another come
  after those of the other. `Traced.within`, `Traced.onPart`: a script that is cut off has taken the
  first of its steps, and one on a part of a larger state has taken its steps on that part.
  `Traced.and_safe`: beside its steps, the script ends as its safety says.
* `trace`: the steps of a run that nothing disturbs, of which the same can be said (`Traced.run`).
  `trace_bind`, `map_trace_onPart`: those of scripts that are made of others.
* `states`: the states that an undisturbed run goes through. `mem_states_bind`, `states_onPart`:
  those of scripts that are made of others. `Safe.states`: what every step of a safe script
  establishes holds of all of them.
-/

namespace PowerGrant.Script

variable {σ τ α β : Type}

/-- Carried out from `s`, while others change the state between its steps as `env` allows, the
script ends only as `post` says of the steps that it took itself, of its value and of the state
then. A step is the pair of the states before and after it. -/
def Traced (env : σ → σ → Prop) : Script σ α → (List (σ × σ) → α → σ → Prop) → σ → Prop
  | done a, post, s => post [] a s
  | act update next, post, s =>
    ∀ t, env (update s) t → Traced env (next s) (fun steps => post ((s, update s) :: steps)) t
  | wait _ next, post, s => ∀ t, env s t → Traced env next post t

namespace Traced

variable {env : σ → σ → Prop} {post post' : List (σ × σ) → α → σ → Prop} {s : σ} {x : Script σ α}

theorem mono (h : x.Traced env post s) (hp : ∀ steps a t, post steps a t → post' steps a t) :
    x.Traced env post' s := by
  induction x generalizing s post post' with
  | done a => exact hp [] a s h
  | act update next ih => exact fun t ht => ih s (h t ht) fun steps => hp ((s, update s) :: steps)
  | wait ms next ih => exact fun t ht => ih (h t ht) hp

/-- What is always so can be said of every script. -/
theorem of_forall (h : ∀ steps a t, post steps a t) : x.Traced env post s := by
  induction x generalizing s post with
  | done a => exact h [] a s
  | act update next ih => exact fun t _ => ih s fun steps => h ((s, update s) :: steps)
  | wait ms next ih => exact fun t _ => ih h

/-- What a script does among others it does among fewer of them. -/
theorem among {env' : σ → σ → Prop} (h : x.Traced env post s) (he : ∀ s t, env' s t → env s t) :
    x.Traced env' post s := by
  induction x generalizing s post with
  | done a => exact h
  | act update next ih => exact fun t ht => ih s (h t (he _ _ ht))
  | wait ms next ih => exact fun t ht => ih (h t (he _ _ ht))

/-- A script whose steps were looked at also ends as its safety says. -/
theorem and_safe {step : σ → σ → Prop} {safe : α → σ → Prop} (h : x.Traced env post s)
    (h' : x.Safe env step safe s) :
    x.Traced env (fun steps a t => post steps a t ∧ safe a t) s := by
  induction x generalizing s post with
  | done a => exact ⟨h, h'⟩
  | act update next ih => exact fun t ht => ih s (h t ht) (h'.2 t ht)
  | wait ms next ih => exact fun t ht => ih (h t ht) (h' t ht)

/-- The steps of a script after another come after those of the other. -/
theorem bind {f : α → Script σ β} {post : List (σ × σ) → β → σ → Prop}
    (h : x.Traced env (fun steps a t => (f a).Traced env (fun later => post (steps ++ later)) t)
      s) : (x.bind f).Traced env post s := by
  induction x generalizing s post with
  | done a => exact h
  | act update next ih => exact fun t ht => ih s (h t ht)
  | wait ms next ih => exact fun t ht => ih (h t ht)

/-- A script after another that ends as `mid` says. -/
theorem seq {f : α → Script σ β} {mid : List (σ × σ) → α → σ → Prop}
    {post : List (σ × σ) → β → σ → Prop} (h : x.Traced env mid s)
    (hf : ∀ steps a t, mid steps a t → (f a).Traced env (fun later => post (steps ++ later)) t) :
    (x.bind f).Traced env post s :=
  bind (h.mono hf)

theorem modifyGet {f : σ → α × σ} (h : ∀ t, env (f s).2 t → post [(s, (f s).2)] (f s).1 t) :
    (Script.modifyGet f).Traced env post s := h

theorem sleep {post : List (σ × σ) → Unit → σ → Prop} {ms : Nat}
    (h : ∀ t, env s t → post [] () t) : (Script.sleep ms).Traced env post s := h

end Traced

/-- The steps of a run that nothing disturbs. -/
def trace : Script σ α → σ → List (σ × σ)
  | done _, _ => []
  | act update next, s => (s, update s) :: trace (next s) (update s)
  | wait _ next, s => trace next s

/-- The steps of a script after another come after those of the other. -/
theorem trace_bind (x : Script σ α) (f : α → Script σ β) (s : σ) :
    (x.bind f).trace s = x.trace s ++ (f (x.run s).value).trace (x.run s).state := by
  induction x generalizing s with
  | done a => rfl
  | act update next ih => simp only [bind, trace, run, ih, List.cons_append]
  | wait ms next ih => exact ih s

/-- What holds at the end of all steps that the script takes among others holds at the end of those
that it takes undisturbed. -/
theorem Traced.run {env : σ → σ → Prop} {post : List (σ × σ) → α → σ → Prop} {x : Script σ α}
    {s : σ} (henv : ∀ s, env s s) (h : x.Traced env post s) :
    post (x.trace s) (x.run s).value (x.run s).state := by
  induction x generalizing s post with
  | done a => exact h
  | act update next ih => exact ih s (h _ (henv _))
  | wait ms next ih => exact ih (h _ (henv _))

namespace Traced

variable {env : σ → σ → Prop} {s : σ} {x : Script σ α}

/-- A script that is cut off has taken the first steps of a script that is not. -/
theorem within {post : List (σ × σ) → α → σ → Prop} (limit : Nat) (henv : ∀ s, env s s)
    (h : x.Traced env post s) :
    (x.within limit).Traced env
      (fun steps o t => match o with
        | some a => post steps a t
        | none => ∃ rest a u, post (steps ++ rest) a u) s := by
  induction x generalizing limit s post with
  | done a => exact h
  | act update next ih =>
    exact fun t ht => (ih s limit (h t ht)).mono fun steps o u ho => by cases o <;> exact ho
  | wait ms next ih =>
    simp only [Script.within]
    split
    · exact fun t ht => ih (limit - ms) (h t ht)
    · exact fun t ht => ⟨_, _, _, (h t ht).run henv⟩

/-- The steps of a script on a part of a larger state, seen from that part. -/
theorem onPart {get : τ → σ} {set : σ → τ → τ} {env' : τ → τ → Prop}
    {post : List (σ × σ) → α → σ → Prop} {t : τ} (hget : ∀ s t, get (set s t) = s)
    (henv : ∀ t u, env' t u → env (get t) (get u)) (h : x.Traced env post (get t)) :
    (x.onPart get set).Traced env'
      (fun steps a u => post (steps.map fun e => (get e.1, get e.2)) a (get u)) t := by
  induction x generalizing t post with
  | done a => exact h
  | act update next ih =>
    intro u hu
    have he := henv _ u hu
    rw [hget] at he
    refine (ih (get t) (h _ he)).mono fun steps a v hp => ?_
    dsimp only
    rw [List.map_cons, hget]
    exact hp
  | wait ms next ih => exact fun u hu => ih (h _ (henv t u hu))

end Traced

/-! ## The states of a run -/

/-- The states that a run goes through that nothing disturbs, from the first to the last. -/
def states : Script σ α → σ → List σ
  | done _, s => [s]
  | act update next, s => s :: states (next s) (update s)
  | wait _ next, s => states next s

variable {s u : σ}

theorem start_mem_states (x : Script σ α) (s : σ) : s ∈ x.states s := by
  induction x with
  | done a => exact List.mem_singleton.2 rfl
  | act update next ih => exact List.mem_cons_self
  | wait ms next ih => exact ih

/-- A run ends in the last of its states. -/
theorem run_state_mem_states (x : Script σ α) (s : σ) : (x.run s).state ∈ x.states s := by
  induction x generalizing s with
  | done a => exact List.mem_singleton.2 rfl
  | act update next ih => exact List.mem_cons_of_mem _ (ih s (update s))
  | wait ms next ih => exact ih s

/-- Each step begins in one of the states of the run. -/
theorem fst_mem_states {x : Script σ α} {e : σ × σ} (h : e ∈ x.trace s) : e.1 ∈ x.states s := by
  induction x generalizing s with
  | done a => cases h
  | act update next ih =>
    rcases List.mem_cons.1 h with rfl | h
    · exact List.mem_cons_self
    · exact List.mem_cons_of_mem _ (ih s h)
  | wait ms next ih => exact ih h

/-- A script after another goes on in the state that the other left. -/
theorem mem_states_bind {x : Script σ α} {f : α → Script σ β} :
    u ∈ (x.bind f).states s ↔
      u ∈ x.states s ∨ u ∈ (f (x.run s).value).states (x.run s).state := by
  induction x generalizing s with
  | done a =>
    refine ⟨.inr, fun h => h.elim (fun hu => ?_) id⟩
    rw [List.mem_singleton.1 hu]
    exact start_mem_states _ _
  | act update next ih => simp only [bind, states, run, List.mem_cons, ih, or_assoc]
  | wait ms next ih => exact ih

@[simp] theorem mem_states_done {a : α} : u ∈ (done a).states s ↔ u = s := List.mem_singleton

/-- What comes after a look at the state starts in the same state. -/
theorem mem_states_read_bind {f : σ → α} {g : α → Script σ β} :
    u ∈ ((Script.read f).bind g).states s ↔ u ∈ (g (f s)).states s := by
  rw [mem_states_bind]
  refine ⟨fun h => h.elim (fun hu => ?_) id, .inr⟩
  obtain rfl : u = s := by simpa [Script.read, states] using hu
  exact start_mem_states _ _

theorem mem_states_modifyGet {f : σ → α × σ} :
    u ∈ (Script.modifyGet f).states s ↔ u = s ∨ u = ((Script.modifyGet f).run s).state := by
  simp [Script.modifyGet, states, run]

/-- A script on a part of a larger state goes through states with that part replaced. -/
theorem states_onPart {get : τ → σ} {set : σ → τ → τ} (hget : ∀ s t, get (set s t) = s)
    (hset : ∀ s s' t, set s' (set s t) = set s' t) (hself : ∀ t, set (get t) t = t)
    (x : Script σ α) (t : τ) :
    (x.onPart get set).states t = (x.states (get t)).map fun s => set s t := by
  induction x generalizing t with
  | done a => simp [onPart, states, hself]
  | act update next ih => simp [onPart, states, ih, hget, hset, hself]
  | wait ms next ih => exact ih t

/-- A script on a part of a larger state takes its steps on that part. -/
theorem map_trace_onPart {get : τ → σ} {set : σ → τ → τ} (hget : ∀ s t, get (set s t) = s)
    (x : Script σ α) (t : τ) :
    ((x.onPart get set).trace t).map (fun e => (get e.1, get e.2)) = x.trace (get t) := by
  induction x generalizing t with
  | done a => rfl
  | act update next ih => simp only [onPart, trace, List.map_cons, ih, hget]
  | wait ms next ih => exact ih t

/-- What every step of a safe script establishes holds of all states of its run. -/
theorem Safe.states {env step : σ → σ → Prop} {post : α → σ → Prop} {inv : σ → Prop}
    {x : Script σ α} (henv : ∀ s, env s s) (h : x.Safe env step post s) (hs : inv s)
    (hstep : ∀ s t, step s t → inv t) : ∀ u ∈ x.states s, inv u := by
  induction x generalizing s with
  | done a =>
    intro u hu
    rwa [List.mem_singleton.1 hu]
  | act update next ih =>
    exact List.forall_mem_cons.2 ⟨hs, ih s (h.2 _ (henv _)) (hstep _ _ h.1)⟩
  | wait ms next ih => exact ih (h _ (henv _)) hs

end PowerGrant.Script
