import PowerGrant.Script

/-!
# Scripts among others

While a script is carried out, others may change the state between its steps. `Safe` says what it
may rely on and what it promises: whatever others do within `env`, each of its own steps is one that
`step` allows, and it ends only where `post` allows.

* `Safe.bind`, `Safe.within`, `Safe.onPart`: a script is safe if its parts are. A script that is cut
  off at a deadline is left with what its last step promised.
* `Safe.and`, `Safe.keeps`: what is known of a script's steps can be put together, and what all of
  them keep holds throughout.
* `Safe.run`: a script that is carried out undisturbed ends where its safety says. `Safe.ran`: it is
  safe in ending there.
* `Safe.keepsUntil`: what a safe script keeps until one of its steps is an exception.
-/

namespace PowerGrant.Script

variable {σ τ α β : Type}

/-- Carried out from `s`, while others change the state between its steps as `env` allows, the
script takes only steps that `step` allows and ends only where `post` allows. -/
def Safe (env step : σ → σ → Prop) (post : α → σ → Prop) : Script σ α → σ → Prop
  | done a, s => post a s
  | act update next, s =>
    step s (update s) ∧ ∀ t, env (update s) t → Safe env step post (next s) t
  | wait _ next, s => ∀ t, env s t → Safe env step post next t

/-- Carried out from `s`, while others change the state between its steps as `env` allows, the
script keeps `inv` until it takes a step that `stop` describes, or else to its end. -/
def KeepsUntil (stop env : σ → σ → Prop) (inv : σ → Prop) : Script σ α → σ → Prop
  | done _, s => inv s
  | act update next, s =>
    stop s (update s) ∨
      inv (update s) ∧ ∀ t, env (update s) t → KeepsUntil stop env inv (next s) t
  | wait _ next, s => ∀ t, env s t → KeepsUntil stop env inv next t

/-- Whether a script begins with a step. -/
def Acts : Script σ α → Prop
  | act _ _ => True
  | _ => False

theorem acts_bind {x : Script σ α} {f : α → Script σ β} (h : x.Acts) : (x.bind f).Acts := by
  cases x with
  | act update next => trivial
  | done a => exact h.elim
  | wait ms next => exact h.elim

namespace Safe

variable {env step step' : σ → σ → Prop} {post post' : α → σ → Prop} {s : σ}

theorem mono {x : Script σ α} (h : x.Safe env step post s) (hs : ∀ s t, step s t → step' s t)
    (hp : ∀ a s, post a s → post' a s) : x.Safe env step' post' s := by
  induction x generalizing s with
  | done a => exact hp a s h
  | act update next ih => exact ⟨hs _ _ h.1, fun t ht => ih s (h.2 t ht)⟩
  | wait ms next ih => exact fun t ht => ih (h t ht)

/-- What is always allowed is allowed to every script. -/
theorem of_forall {x : Script σ α} (hs : ∀ s t, step s t) (hp : ∀ a s, post a s) :
    x.Safe env step post s := by
  induction x generalizing s with
  | done a => exact hp a s
  | act update next ih => exact ⟨hs _ _, fun _ _ => ih s⟩
  | wait ms next ih => exact fun _ _ => ih

theorem bind {x : Script σ α} {f : α → Script σ β} {post : β → σ → Prop}
    (h : x.Safe env step (fun a s => (f a).Safe env step post s) s) :
    (x.bind f).Safe env step post s := by
  induction x generalizing s with
  | done a => exact h
  | act update next ih => exact ⟨h.1, fun t ht => ih s (h.2 t ht)⟩
  | wait ms next ih => exact fun t ht => ih (h t ht)

/-- A script after another that ends where `mid` says. -/
theorem seq {x : Script σ α} {f : α → Script σ β} {mid : α → σ → Prop} {post : β → σ → Prop}
    (h : x.Safe env step mid s) (hf : ∀ a s, mid a s → (f a).Safe env step post s) :
    (x.bind f).Safe env step post s :=
  bind (h.mono (fun _ _ h => h) hf)

/-- A script that is safe among others is so among fewer of them. -/
theorem among {env' : σ → σ → Prop} {x : Script σ α} (h : x.Safe env step post s)
    (he : ∀ s t, env' s t → env s t) : x.Safe env' step post s := by
  induction x generalizing s with
  | done a => exact h
  | act update next ih => exact ⟨h.1, fun t ht => ih s (h.2 t (he _ _ ht))⟩
  | wait ms next ih => exact fun t ht => ih (h t (he _ _ ht))

theorem and {x : Script σ α} (h : x.Safe env step post s) (h' : x.Safe env step' post' s) :
    x.Safe env (fun s t => step s t ∧ step' s t) (fun a s => post a s ∧ post' a s) s := by
  induction x generalizing s with
  | done a => exact ⟨h, h'⟩
  | act update next ih => exact ⟨⟨h.1, h'.1⟩, fun t ht => ih s (h.2 t ht) (h'.2 t ht)⟩
  | wait ms next ih => exact fun t ht => ih (h t ht) (h' t ht)

/-- What the steps of the script and those of others keep holds throughout. -/
theorem keeps {x : Script σ α} (inv : σ → Prop) (h : x.Safe env step post s)
    (hstep : ∀ s t, inv s → step s t → inv t) (henv : ∀ s t, inv s → env s t → inv t)
    (hs : inv s) :
    x.Safe env (fun s t => step s t ∧ inv t) (fun a s => post a s ∧ inv s) s := by
  induction x generalizing s with
  | done a => exact ⟨h, hs⟩
  | act update next ih =>
    have hu : inv (update s) := hstep _ _ hs h.1
    exact ⟨⟨h.1, hu⟩, fun t ht => ih s (h.2 t ht) (henv _ _ hu ht)⟩
  | wait ms next ih => exact fun t ht => ih (h t ht) (henv _ _ hs ht)

/-- A script that is cut off is left in a state of `inv`, which all its steps establish and others
keep. -/
theorem within {x : Script σ α} (limit : Nat) (inv : σ → Prop) (h : x.Safe env step post s)
    (hstep : ∀ s t, step s t → inv t) (henv : ∀ s t, inv s → env s t → inv t)
    (hs : ¬ x.Acts → inv s) :
    (x.within limit).Safe env step
      (fun o s => match o with | some a => post a s | none => inv s) s := by
  induction x generalizing limit s with
  | done a => exact h
  | act update next ih =>
    exact ⟨h.1, fun t ht => ih s limit (h.2 t ht) fun _ => henv _ _ (hstep _ _ h.1) ht⟩
  | wait ms next ih =>
    have hi : inv s := hs id
    simp only [Script.within]
    split
    · exact fun t ht => ih (limit - ms) (h t ht) fun _ => henv _ _ hi ht
    · exact fun t ht => henv _ _ hi ht

/-- A script on a part of a larger state, of which the rest stays within `frame`. -/
theorem onPart {get : τ → σ} {set : σ → τ → τ} {env' step' : τ → τ → Prop}
    {x : Script σ α} {t : τ} (frame : τ → Prop) (hget : ∀ s t, get (set s t) = s)
    (henv : ∀ t u, frame t → env' t u → env (get t) (get u) ∧ frame u)
    (hstep : ∀ t s, frame t → step (get t) s → step' t (set s t) ∧ frame (set s t))
    (ht : frame t) (h : x.Safe env step post (get t)) :
    (x.onPart get set).Safe env' step' (fun a t => post a (get t) ∧ frame t) t := by
  induction x generalizing t with
  | done a => exact ⟨h, ht⟩
  | act update next ih =>
    obtain ⟨h₁, h₂⟩ := h
    obtain ⟨hs, hf⟩ := hstep t _ ht h₁
    refine ⟨hs, fun u hu => ?_⟩
    obtain ⟨he, hu'⟩ := henv _ u hf hu
    rw [hget] at he
    exact ih (get t) hu' (h₂ _ he)
  | wait ms next ih =>
    intro u hu
    obtain ⟨he, hu'⟩ := henv t u ht hu
    exact ih hu' (h _ he)

/-- What others keep, and all steps of the script but those of `stop`, is kept until such a step. -/
theorem keepsUntil {stop env' : σ → σ → Prop} {inv : σ → Prop} {x : Script σ α}
    (h : x.Safe env step post s) (he : ∀ s t, env' s t → env s t)
    (henv : ∀ s t, inv s → env' s t → inv t)
    (hstep : ∀ s t, inv s → step s t → stop s t ∨ inv t) (hs : inv s) :
    x.KeepsUntil stop env' inv s := by
  induction x generalizing s with
  | done a => exact hs
  | act update next ih =>
    rcases hstep _ _ hs h.1 with hstop | hu
    · exact .inl hstop
    · exact .inr ⟨hu, fun t ht => ih s (h.2 t (he _ _ ht)) (henv _ _ hu ht)⟩
  | wait ms next ih => exact fun t ht => ih (h t (he _ _ ht)) (henv _ _ hs ht)

/-- A script that is carried out undisturbed ends where its safety says. -/
theorem run {x : Script σ α} (henv : ∀ s, env s s) (h : x.Safe env step post s) :
    post (x.run s).value (x.run s).state := by
  induction x generalizing s with
  | done a => exact h
  | act update next ih => exact ih s (h.2 _ (henv _))
  | wait ms next ih => exact ih (h _ (henv _))

/-- A script that nothing disturbs ends with the value and in the state of its run. -/
theorem ran (x : Script σ α) (s : σ) :
    x.Safe Eq (fun _ _ => True) (fun a t => a = (x.run s).value ∧ t = (x.run s).state) s := by
  induction x generalizing s with
  | done a => exact ⟨rfl, rfl⟩
  | act update next ih => exact ⟨trivial, fun _ ht => ht ▸ ih s (update s)⟩
  | wait ms next ih => exact fun _ ht => ht ▸ ih s

theorem read {f : σ → α} (h : step s s) (hp : ∀ t, env s t → post (f s) t) :
    (Script.read f).Safe env step post s := ⟨h, hp⟩

theorem update {f : σ → σ} {post : Unit → σ → Prop} (h : step s (f s))
    (hp : ∀ t, env (f s) t → post () t) : (Script.update f).Safe env step post s := ⟨h, hp⟩

theorem modifyGet {f : σ → α × σ} (h : step s (f s).2) (hp : ∀ t, env (f s).2 t → post (f s).1 t) :
    (Script.modifyGet f).Safe env step post s := ⟨h, hp⟩

theorem sleep {post : Unit → σ → Prop} {ms : Nat} (hp : ∀ t, env s t → post () t) :
    (Script.sleep ms).Safe env step post s := hp

end Safe

/-- Without such a step, a script that is carried out undisturbed keeps `inv` to its end. -/
theorem KeepsUntil.run {stop env : σ → σ → Prop} {inv : σ → Prop} {x : Script σ α} {s : σ}
    (hstop : ∀ s t, ¬ stop s t) (henv : ∀ s, env s s) (h : x.KeepsUntil stop env inv s) :
    inv (x.run s).state := by
  induction x generalizing s with
  | done a => exact h
  | act update next ih =>
    rcases h with h | ⟨-, h⟩
    · exact absurd h (hstop _ _)
    · exact ih s (h _ (henv _))
  | wait ms next ih => exact ih (h _ (henv _))

end PowerGrant.Script
