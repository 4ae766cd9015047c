import PowerGrant.Proofs.World.CallByCall
import PowerGrant.Proofs.World.Contended

/-!
# Errands under a timeout

A call is noted when it is made and takes effect at the end of its wait. Under a timeout a call whose
wait would last longer is cut off: it has been noted, and that is all that will ever come of it.

* `Call.outcome`: what a call makes of the store when it takes effect.
* `Errand`: what is done under one timeout, be it a question or the update of a workload.
* `World.Until`: what goes on up to a deadline, call after call. `World.Paced`: errands one after the
  other, each with its own deadline.
* `World.Calling`: the scripts that do nothing but make certain calls. `Calling.add`,
  `Calling.remove`: an update with all its attempts and all waits between them is one of them.
* `World.until_bounded`: such a script under a timeout.
* `World.Paced.le_of_length`: errands under a timeout are over within it, each of them.
-/

namespace PowerGrant

/-- What a call makes of the store when it takes effect. A write changes it if the store accepts the
write, and a read if other writers come right after it. -/
def Call.outcome (c : Call) (fault : Fault) (store : Versioned) : Versioned :=
  match c.method, c.detail with
  | .getWorkload, _ => fault.peer.foldl (PeerWrite.apply c.key) store
  | .createWorkload, .record w => (store.create w).toOption.getD store
  | .replaceWorkload, .record w => (store.replace w).toOption.getD store
  | .deleteWorkload, .record w => (store.delete w).toOption.getD store
  | _, _ => store

/-- The call that the fault strikes fails instead of taking effect. -/
def Fault.Fails (f : Fault) : Prop := f.conflict = true ∨ f.error ≠ none

/-- What is done under one timeout. -/
inductive Errand where
  /-- A question is asked. -/
  | ask (method : Method) (key : String)
  /-- The workload of a profile is updated, in as many attempts as it takes. -/
  | update (profile : String)
  deriving DecidableEq, Repr

/-- The calls that are made on an errand. -/
def Errand.Makes : Errand → Call → Prop
  | .ask method key, c => c.method = method ∧ c.key = key
  | .update profile, c => c.method.onStore = true ∧ c.key = workloadName profile

namespace World

/-- The world after a call has taken effect. -/
def affected (w : World) (c : Call) (fault : Fault) : World :=
  { w with store := c.outcome fault w.store }

/-- What goes on in a world `w` from the time `now` up to a deadline, in steps that each have their
time: calls that are allowed are made one after the other, and time passes in between. It ends at the
time `fin` with the world `w'`, and `cut` says whether it was cut off. -/
inductive Until (allowed : Call → Prop) (deadline : Nat) :
    (now : Nat) → (w : World) → List (Nat × World × World) → (cut : Bool) → (fin : Nat) →
    (w' : World) → Prop
  | ended {now : Nat} {w : World} (h : now ≤ deadline) : Until allowed deadline now w [] false now w
  /-- Time passes in which nothing is done. -/
  | paused {now later fin : Nat} {w w' : World} {steps : List (Nat × World × World)} {cut : Bool}
    (h : now ≤ later) (rest : Until allowed deadline later w steps cut fin w') :
    Until allowed deadline now w steps cut fin w'
  /-- A call fails when its wait is over. -/
  | failed {now fin : Nat} {w w' : World} {steps : List (Nat × World × World)} {cut : Bool}
    (c : Call) (hc : allowed c) (hf : (noted w c).1.Fails)
    (h : now + (noted w c).1.delay ≤ deadline)
    (rest : Until allowed deadline (now + (noted w c).1.delay) (noted w c).2 steps cut fin w') :
    Until allowed deadline now w ((now, w, (noted w c).2) :: steps) cut fin w'
  /-- A call takes effect when its wait is over. -/
  | effected {now fin : Nat} {w w' : World} {steps : List (Nat × World × World)} {cut : Bool}
    (c : Call) (hc : allowed c) (hf : ¬ (noted w c).1.Fails)
    (h : now + (noted w c).1.delay ≤ deadline)
    (rest : Until allowed deadline (now + (noted w c).1.delay)
      ((noted w c).2.affected c (noted w c).1) steps cut fin w') :
    Until allowed deadline now w ((now, w, (noted w c).2) ::
      (now + (noted w c).1.delay, (noted w c).2, (noted w c).2.affected c (noted w c).1) :: steps)
      cut fin w'
  /-- A call would wait beyond the deadline. It has no effect, and nothing else is done. -/
  | cutOff {now : Nat} {w : World} (c : Call) (hc : allowed c) (hn : now ≤ deadline)
    (h : deadline < now + (noted w c).1.delay) :
    Until allowed deadline now w [(now, w, (noted w c).2)] true deadline (noted w c).2
  /-- A pause would last beyond the deadline. -/
  | idle {now : Nat} {w : World} (h : now ≤ deadline) :
    Until allowed deadline now w [] true deadline w

/-- What goes on in a world on errands that are run one after the other. Each is over within `limit` or
cut off at that moment, and between them the world is left alone. -/
inductive Paced (limit : Nat) :
    List Errand → (now : Nat) → (w : World) → List (Nat × World × World) → (fin : Nat) →
    (w' : World) → Prop
  | ended {now : Nat} {w : World} : Paced limit [] now w [] now w
  /-- A step that is not about the world. -/
  | aside {errands : List Errand} {now fin : Nat} {w w' : World}
    {steps : List (Nat × World × World)} (rest : Paced limit errands now w steps fin w') :
    Paced limit errands now w ((now, w, w) :: steps) fin w'
  | errand {e : Errand} {errands : List Errand} {now mid fin : Nat} {w u w' : World}
    {steps later : List (Nat × World × World)} {cut : Bool}
    (h : Until e.Makes (now + limit) now w steps cut mid u)
    (rest : Paced limit errands mid u later fin w') :
    Paced limit (e :: errands) now w (steps ++ later) fin w'

/-- A script does nothing but make calls that are allowed, one after the other, and let time pass in
between. -/
def Calling {α : Type} (allowed : Call → Prop) (x : Script World α) : Prop :=
  ∀ (now : Nat) (w : World) (deadline : Nat), now + (x.run w).elapsed ≤ deadline →
    Until allowed deadline now w (x.timed now w) false (now + (x.run w).elapsed) (x.run w).state

section Until

variable {allowed : Call → Prop} {deadline now mid fin : Nat} {w u w' : World}
  {steps later : List (Nat × World × World)} {cut : Bool}

namespace Until

/-- It ends after it has begun, and not after its deadline. -/
theorem le_and_le (h : Until allowed deadline now w steps cut fin w') :
    now ≤ fin ∧ fin ≤ deadline := by
  induction h with
  | ended h => exact ⟨Nat.le_refl _, h⟩
  | paused h _ ih => exact ⟨h.trans ih.1, ih.2⟩
  | failed c hc hf h _ ih => exact ⟨Nat.le_of_add_right_le ih.1, ih.2⟩
  | effected c hc hf h _ ih => exact ⟨Nat.le_of_add_right_le ih.1, ih.2⟩
  | cutOff c hc hn h => exact ⟨hn, Nat.le_refl _⟩
  | idle h => exact ⟨h, Nat.le_refl _⟩

/-- The world at the end is the one to which the last step has led. -/
theorem eq_foldl (h : Until allowed deadline now w steps cut fin w') :
    w' = steps.foldl (fun _ e => e.2.2) w := by
  induction h with
  | ended h | cutOff c hc hn h | idle h => rfl
  | paused h rest ih | failed c hc hf h rest ih | effected c hc hf h rest ih => exact ih

theorem le_of_mem (h : Until allowed deadline now w steps cut fin w') : ∀ e ∈ steps, now ≤ e.1 := by
  induction h with
  | ended h | idle h => exact fun _ he => nomatch he
  | paused h rest ih => exact fun e he => h.trans (ih e he)
  | failed c hc hf h rest ih =>
    exact List.forall_mem_cons.2 ⟨Nat.le_refl _, fun e he => Nat.le_of_add_right_le (ih e he)⟩
  | effected c hc hf h rest ih =>
    exact List.forall_mem_cons.2 ⟨Nat.le_refl _, List.forall_mem_cons.2
      ⟨Nat.le_add_right _ _, fun e he => Nat.le_of_add_right_le (ih e he)⟩⟩
  | cutOff c hc hn h => exact List.forall_mem_singleton.2 (Nat.le_refl _)

/-- What was not cut off can be gone on with. -/
theorem append (h : Until allowed deadline now w steps false mid u)
    (h' : Until allowed deadline mid u later cut fin w') :
    Until allowed deadline now w (steps ++ later) cut fin w' := by
  generalize hb : false = whole at h
  induction h with
  | ended h => exact h'
  | paused h rest ih => exact .paused h (ih h' hb)
  | failed c hc hf h rest ih => exact .failed c hc hf h (ih h' hb)
  | effected c hc hf h rest ih => exact .effected c hc hf h (ih h' hb)
  | cutOff c hc hn h | idle h => cases hb

/-- With an earlier deadline the same goes on up to that one. -/
theorem truncate {earlier : Nat} (h : Until allowed deadline now w steps cut fin w')
    (hn : now ≤ earlier) (hf : earlier < fin) :
    ∃ u, Until allowed earlier now w (steps.filter fun e => e.1 ≤ earlier) true earlier u := by
  -- of what begins after the earlier deadline nothing is left
  have hnone {later : Nat} {w : World} {steps : List (Nat × World × World)} {cut : Bool}
      (rest : Until allowed deadline later w steps cut fin w') (hlate : earlier < later) :
      steps.filter (fun e => e.1 ≤ earlier) = [] :=
    List.filter_eq_nil_iff.2 fun e he => by
      simpa using Nat.lt_of_lt_of_le hlate (rest.le_of_mem e he)
  induction h with
  | ended h => omega
  | @paused _ later _ w _ _ _ h rest ih =>
    by_cases hlate : later ≤ earlier
    · obtain ⟨u, hu⟩ := ih hlate hf hnone
      exact ⟨u, .paused h hu⟩
    · rw [hnone rest (Nat.lt_of_not_le hlate)]
      exact ⟨w, .idle hn⟩
  | @failed now _ w _ _ _ c hc hfails h rest ih =>
    rw [List.filter_cons_of_pos (by simpa using hn)]
    by_cases hlate : now + (noted w c).1.delay ≤ earlier
    · obtain ⟨u, hu⟩ := ih hlate hf hnone
      exact ⟨u, .failed c hc hfails hlate hu⟩
    · rw [hnone rest (Nat.lt_of_not_le hlate)]
      exact ⟨_, .cutOff c hc hn (Nat.lt_of_not_le hlate)⟩
  | @effected now _ w _ _ _ c hc hspared h rest ih =>
    rw [List.filter_cons_of_pos (by simpa using hn)]
    by_cases hlate : now + (noted w c).1.delay ≤ earlier
    · rw [List.filter_cons_of_pos (by simpa using hlate)]
      obtain ⟨u, hu⟩ := ih hlate hf hnone
      exact ⟨u, .effected c hc hspared hlate hu⟩
    · rw [List.filter_cons_of_neg (by simpa using hlate), hnone rest (Nat.lt_of_not_le hlate)]
      exact ⟨_, .cutOff c hc hn (Nat.lt_of_not_le hlate)⟩
  | cutOff c hc _ h =>
    rw [List.filter_cons_of_pos (by simpa using hn)]
    exact ⟨_, .cutOff c hc hn (hf.trans h)⟩
  | idle h => exact ⟨_, .idle hn⟩

end Until

/-! ## Errands one after the other -/

namespace Paced

variable {limit : Nat} {errands more : List Errand}

theorem append (h : Paced limit errands now w steps mid u)
    (h' : Paced limit more mid u later fin w') :
    Paced limit (errands ++ more) now w (steps ++ later) fin w' := by
  induction h with
  | ended => exact h'
  | aside rest ih => exact .aside (ih h')
  | errand h rest ih =>
    rw [List.append_assoc]
    exact .errand h (ih h')

/-- Each errand takes no longer than its timeout. -/
theorem le_of_length (h : Paced limit errands now w steps fin w') :
    fin ≤ now + limit * errands.length := by
  induction h with
  | ended => exact Nat.le_add_right _ _
  | aside rest ih => exact ih
  | errand h rest ih =>
    have := h.le_and_le.2
    rw [List.length_cons, Nat.mul_succ]
    omega

end Paced

end Until

/-! ## Scripts of calls -/

section Calling

variable {α β : Type} {allowed : Call → Prop} {w : World} {c : Call}
  {effect : Fault → World → Answer α × World}

/-- The two ways of a call: when its wait is over it fails, or it takes effect. -/
theorem call_ways (c : Call) (effect : Fault → World → Answer α × World) (w : World) :
    ((noted w c).1.Fails ∧ ((call c effect).run w).elapsed = (noted w c).1.delay ∧
        ∀ now, (call c effect).timed now w = [(now, w, (noted w c).2)]) ∨
      (¬ (noted w c).1.Fails ∧ (noted w c).1.delay ≤ ((call c effect).run w).elapsed ∧
        ∀ now, (call c effect).timed now w = [(now, w, (noted w c).2),
          (now + (noted w c).1.delay, (noted w c).2, (effect (noted w c).1 (noted w c).2).2)]) := by
  by_cases hc : (noted w c).1.conflict = true
  · refine .inl ⟨.inl hc, ?_, fun now => ?_⟩ <;>
      simp [call, Script.run_bind, Script.timed_bind, Script.modifyGet, Script.sleep, Script.run,
        Script.timed, hc]
  cases he : (noted w c).1.error with
  | some reason =>
    refine .inl ⟨.inr (by simp [he]), ?_, fun now => ?_⟩ <;>
      simp [call, Script.run_bind, Script.timed_bind, Script.modifyGet, Script.sleep, Script.run,
        Script.timed, hc, he]
  | none =>
    refine .inr ⟨by simp [Fault.Fails, hc, he], ?_, fun now => ?_⟩ <;>
      cases ha : (effect (noted w c).1 (noted w c).2).1 <;>
        simp [call, Script.run_bind, Script.timed_bind, Script.modifyGet, Script.sleep, Script.run,
          Script.timed, hc, he, ha]

namespace Calling

variable {x : Script World α}

theorem done (a : α) : Calling allowed (.done a) := fun _ _ _ h => .ended h

theorem wait (ms : Nat) (h : Calling allowed x) : Calling allowed (.wait ms x) := by
  intro now w deadline hd
  have hend : now + ((Script.wait ms x).run w).elapsed = now + ms + (x.run w).elapsed :=
    (Nat.add_assoc _ _ _).symm
  rw [hend] at hd ⊢
  exact .paused (Nat.le_add_right _ _) (h (now + ms) w deadline hd)

theorem bind {f : α → Script World β} (h : Calling allowed x)
    (hf : ∀ w, Calling allowed (f (x.run w).value)) : Calling allowed (x.bind f) := by
  intro now w deadline hd
  simp only [Script.run_bind, Script.timed_bind, ← Nat.add_assoc] at hd ⊢
  exact (h now w deadline (Nat.le_of_add_right_le hd)).append (hf _ _ _ deadline hd)

/-- A call whose effect is its outcome. -/
theorem call (hc : allowed c) (h : ∀ fault t, (effect fault t).2 = t.affected c fault) :
    Calling allowed (World.call c effect) := by
  intro now w deadline hd
  rw [Script.run_state_eq_foldl _ now]
  rcases call_ways c effect w with ⟨hfails, helapsed, htimed⟩ | ⟨hspared, helapsed, htimed⟩
  · rw [helapsed] at hd ⊢
    rw [htimed]
    exact .failed c hc hfails hd (.ended hd)
  · have hle : now + (noted w c).1.delay ≤ now + ((World.call c effect).run w).elapsed :=
      Nat.add_le_add_left helapsed now
    rw [htimed, h]
    exact .effected c hc hspared (hle.trans hd) (.paused hle (.ended hd))

/-- A call that only asks. -/
theorem ask {method : Method} {key : String} (hc : c.method = method ∧ c.key = key)
    (hoff : method.onStore = false) (h : ∀ fault t, (effect fault t).2 = t) :
    Calling (Errand.ask method key).Makes (World.call c effect) := by
  refine call hc fun fault t => (h fault t).trans ?_
  obtain ⟨own, _, detail⟩ := c
  obtain ⟨rfl, rfl⟩ := hc
  cases own with
  | getPod | resolveNode | getProfile | getCpus => rfl
  | getWorkload | createWorkload | replaceWorkload | deleteWorkload => cases hoff

theorem pod (key : PodKey) : Calling (Errand.ask .getPod key.text).Makes (services.pod key) :=
  ask ⟨rfl, rfl⟩ rfl fun _ _ => rfl

theorem address (node : String) :
    Calling (Errand.ask .resolveNode node).Makes (services.address node) :=
  ask ⟨rfl, rfl⟩ rfl fun _ _ => rfl

theorem profile (name address : String) :
    Calling (Errand.ask .getProfile name).Makes (services.profile name address) :=
  ask ⟨rfl, rfl⟩ rfl fun _ _ => rfl

theorem cpus (key : PodKey) (container : String) :
    Calling (Errand.ask .getCpus s!"{key.text}/{container}").Makes (services.cpus key container) := by
  refine ask ⟨rfl, rfl⟩ rfl fun _ t => ?_
  dsimp only
  split <;> rfl

/-- A call that writes to the store. -/
theorem write (hc : allowed c) {f : Versioned → Except ServiceError Versioned}
    (h : ∀ fault v, c.outcome fault v = (f v).toOption.getD v) :
    Calling allowed (World.call c (World.write f)) := by
  refine call hc fun fault t => ?_
  rw [affected, h, World.write]
  cases f t.store <;> rfl

/-! ## Updates of workloads -/

variable {profile node : String} {cpus : List CpuId} {r : Retry} {stored : Workload}

theorem create (hk : stored.key = workloadName profile) :
    Calling (Errand.update profile).Makes (workloads.create stored) :=
  write ⟨rfl, hk⟩ fun _ _ => rfl

theorem replace (hk : stored.key = workloadName profile) :
    Calling (Errand.update profile).Makes (workloads.replace stored) :=
  write ⟨rfl, hk⟩ fun _ _ => rfl

theorem delete (hk : stored.key = workloadName profile) :
    Calling (Errand.update profile).Makes (workloads.delete stored) :=
  write ⟨rfl, hk⟩ fun _ _ => rfl

/-- An attempt begins with a read, which finds a workload under its own name only. -/
theorem get_bind {f : Answer (Option Workload) → Script World β}
    (hnone : Calling (Errand.update profile).Makes (f (.ok none)))
    (hsome : ∀ found : Workload, found.key = workloadName profile →
      Calling (Errand.update profile).Makes (f (.ok (some found))))
    (herror : ∀ e, Calling (Errand.update profile).Makes (f (.error e))) :
    Calling (Errand.update profile).Makes ((workloads.get (workloadName profile)).bind f) := by
  refine bind (call ⟨rfl, rfl⟩ fun _ _ => rfl) fun w => ?_
  cases hv : ((workloads.get (workloadName profile)).run w).value with
  | error e => exact herror e
  | ok found =>
    have hfound := Except.ok.inj (value_of_call hv)
    cases found with
    | none => exact hnone
    | some found => exact hsome found (w.store.named _ _ hfound)

theorem callByCall (profile : String) :
    CallByCall (workloadName profile) (Calling (Errand.update profile).Makes) :=
  ⟨done, wait, fun h hf => h.bind fun _ => hf _, get_bind, create, replace, delete⟩

theorem add : Calling (Errand.update profile).Makes (workloads.add r profile node cpus) :=
  (callByCall profile).add r node cpus

theorem remove : Calling (Errand.update profile).Makes (workloads.remove r profile node cpus) :=
  (callByCall profile).remove r node cpus

end Calling

/-- Calls under a timeout are made up to their deadline. The one that is cut off there has been made
and has no effect. -/
theorem until_bounded {x : Script World (Answer α)} (h : Calling allowed x) (limit now : Nat)
    (w : World) :
    ∃ cut, Until allowed (now + limit) now w ((bounded limit x).timed now w) cut
      (now + ((bounded limit x).run w).elapsed) ((bounded limit x).run w).state := by
  have helapsed : ((bounded limit x).run w).elapsed = ((x.within limit).run w).elapsed := by
    rw [bounded, Script.run_bind]
    rcases ((x.within limit).run w).value with _ | _ | _ <;> rfl
  rw [Script.run_state_eq_foldl _ now, timed_bounded, helapsed]
  by_cases hle : (x.run w).elapsed ≤ limit
  · have hall : (x.timed now w).filter (fun e => e.1 ≤ now + limit) = x.timed now w :=
      List.filter_eq_self.2 fun e he => by
        have := Script.le_end_of_mem_timed he
        simp only [decide_eq_true_eq]
        omega
    have hwhole := h now w (now + limit) (Nat.add_le_add_left hle now)
    rw [hall, Script.run_within_of_le hle, ← Script.run_state_eq_foldl]
    exact ⟨false, hwhole⟩
  · have hlate : limit < (x.run w).elapsed := Nat.lt_of_not_le hle
    obtain ⟨u, hu⟩ := (h now w _ (Nat.le_refl _)).truncate (Nat.le_add_right now limit)
      (Nat.add_lt_add_left hlate now)
    rw [(Script.run_within_of_lt hlate).2, ← hu.eq_foldl]
    exact ⟨true, hu⟩

end Calling

end World

end PowerGrant
