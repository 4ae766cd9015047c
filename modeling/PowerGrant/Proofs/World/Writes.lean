import PowerGrant.Proofs.Script.Trace
import PowerGrant.Proofs.World.Update

/-!
# Updates lose no write of others

Adding and removing read a workload and write back what they make of it. Others may write to the
store at any moment, also between that read and that write: they merge CPUs into the workload,
delete it, or delete it and store another one. What carries the argument is that the store never
gives two contents the same version (`Versioned.Later`).

* `World.Unwritten`: steps with none of which a script wrote to the store itself. `World.Wrote`:
  steps that end with the first such write.
* `World.Kept`: what an update did to the store, by its result.
* `World.updates_kept`: every update writes once at most, and makes that write of what is stored
  right before it.
-/

namespace PowerGrant

/-- Whether a call changes the workload store. -/
def Method.writes : Method → Bool
  | .createWorkload | .replaceWorkload | .deleteWorkload => true
  | _ => false

/-- Only calls to the workload store change it. -/
theorem Method.writes_of_not_onStore {m : Method} (h : m.onStore = false) : m.writes = false := by
  cases m <;> first | rfl | cases h

namespace World

/-- The call under way is a write to the store. -/
def Writing (w : World) : Prop := ∃ c, w.calls.getLast? = some c ∧ c.method.writes

/-- The call under way reads a workload. -/
def Reading (name : String) (w : World) : Prop :=
  w.calls.getLast? = some ⟨.getWorkload, name, .none⟩

instance (name : String) (w : World) : Decidable (w.Reading name) :=
  inferInstanceAs (Decidable (_ = _))

/-- A step in which a script changes the store itself. Other writers change it when a workload was
read, so the call under way is another one then. -/
def Writes (t u : World) : Prop := t.Writing ∧ u.store ≠ t.store

/-- In none of the steps the script changes the store itself. -/
def Unwritten (steps : List (World × World)) : Prop := ∀ e ∈ steps, ¬ e.1.Writes e.2

/-- The last of the steps is a write as `write` says, and in none of the others the script changes
the store itself. -/
def Wrote (steps : List (World × World)) (write : World → World → Prop) : Prop :=
  ∃ before t u, steps = before ++ [(t, u)] ∧ Unwritten before ∧ t.Writing ∧ write t u

/-- What an update of the workload of a profile by `change` did in its steps, by its result. What
it writes it makes of the spec that is stored right before the write. -/
def Kept (profile : String) (change : Spec → Spec) (steps : List (World × World)) :
    Answer WorkloadChange → Prop
  | .ok .created =>
    Wrote steps fun t u =>
      t.store.specs (workloadName profile) = none ∧
        t.store.Sets u.store (workloadName profile) (some (change ⟨profile, []⟩))
  | .ok .updated =>
    Wrote steps fun t u =>
      ∃ s, t.store.specs (workloadName profile) = some s ∧
        t.store.Sets u.store (workloadName profile) (some (change s))
  | .ok .deleted =>
    Wrote steps fun t u =>
      (∀ s, t.store.specs (workloadName profile) = some s → (change s).nodes = []) ∧
        t.store.Sets u.store (workloadName profile) none
  | .ok .unchanged | .ok .absent | .error _ => Unwritten steps

variable {w : World} {c : Call} {name profile node : String} {cpus : List CpuId} {r : Retry}
  {change : Spec → Spec} {steps before : List (World × World)} {write write' : World → World → Prop}

theorem Others.trans {t u v : World} (h : t.Others u) (h' : u.Others v) : t.Others v :=
  ⟨h.1.trans h'.1, h'.2.trans h.2⟩

/-! ## Steps without a write -/

theorem unwritten_nil : Unwritten [] := fun _ h => nomatch h

theorem Unwritten.append (h : Unwritten before) (h' : Unwritten steps) :
    Unwritten (before ++ steps) :=
  fun e he => (List.mem_append.1 he).elim (h e) (h' e)

theorem not_writes_of_store {t u : World} (h : u.store = t.store) : ¬ t.Writes u :=
  fun hw => hw.2 h

/-- To put a call on record is no write. -/
theorem unwritten_noted (w : World) (c : Call) : Unwritten [(w, (noted w c).2)] := by
  intro e he
  rw [List.mem_singleton.1 he]
  exact not_writes_of_store rfl

theorem Wrote.append (hb : Unwritten before) (h : Wrote steps write) :
    Wrote (before ++ steps) write := by
  obtain ⟨first, t, u, rfl, hf, hw⟩ := h
  exact ⟨before ++ first, t, u, (List.append_assoc _ _ _).symm, hb.append hf, hw⟩

theorem Wrote.mono (h : Wrote steps write) (hw : ∀ t u, write t u → write' t u) :
    Wrote steps write' := by
  obtain ⟨before, t, u, hs, hb, ht, h⟩ := h
  exact ⟨before, t, u, hs, hb, ht, hw t u h⟩

/-- An update may go on after steps without a write. -/
theorem Kept.append {result : Answer WorkloadChange} (hb : Unwritten before)
    (h : Kept profile change steps result) : Kept profile change (before ++ steps) result := by
  match result, h with
  | .ok .created, h => exact Wrote.append hb h
  | .ok .updated, h => exact Wrote.append hb h
  | .ok .deleted, h => exact Wrote.append hb h
  | .ok .unchanged, h => exact hb.append h
  | .ok .absent, h => exact hb.append h
  | .error _, h => exact hb.append h

/-! ## The single calls -/

/-- The steps of a call among others: it is put on record, and unless it fails before that it takes
effect. -/
theorem call_traced_among {env : World → World → Prop} {α : Type}
    {effect : Fault → World → Answer α × World} {post : List (World × World) → Answer α → World → Prop}
    (htrans : ∀ t u v, env t u → env u v → env t v) (pre : World → Prop)
    (hpre : ∀ t u, pre t → env t u → pre u) (hnote : pre (noted w c).2)
    (hfail : (noted w c).1.conflict = true ∨ (noted w c).1.error ≠ none →
      ∀ e t, pre t → post [(w, (noted w c).2)] (.error e) t)
    (heffect : ∀ t u, pre t → env (effect (noted w c).1 t).2 u →
      post [(w, (noted w c).2), (t, (effect (noted w c).1 t).2)] (effect (noted w c).1 t).1 u) :
    (call c effect).Traced env post w := by
  refine Script.Traced.bind (Script.Traced.modifyGet fun t ht => ?_)
  refine Script.Traced.bind (Script.Traced.sleep fun u hu => ?_)
  have hu : pre u := hpre _ _ (hpre _ _ hnote ht) hu
  show Script.Traced env (if _ then _ else _) _ u
  split
  case isTrue hc => exact hfail (.inl hc) _ u hu
  case isFalse =>
    split
    case h_1 reason he =>
      have he : (noted w c).1.error = some reason := he
      exact hfail (.inr (by simp [he])) _ u hu
    case h_2 =>
      refine Script.Traced.bind (Script.Traced.modifyGet fun x hx => ?_)
      split
      · rename_i he
        exact he ▸ heffect u x hu hx
      · rename_i he
        exact Script.Traced.bind (Script.Traced.sleep fun y hy =>
          he ▸ heffect u y hu (htrans _ _ _ hx hy))

/-- The steps of a call: it is put on record, and unless it fails before that it takes effect. -/
theorem call_traced {α : Type} {effect : Fault → World → Answer α × World}
    {post : List (World × World) → Answer α → World → Prop} (pre : World → Prop)
    (hpre : ∀ t u, pre t → t.Others u → pre u) (hnote : pre (noted w c).2)
    (hfail : ∀ e t, pre t → post [(w, (noted w c).2)] (.error e) t)
    (heffect : ∀ t u, pre t → (effect (noted w c).1 t).2.Others u →
      post [(w, (noted w c).2), (t, (effect (noted w c).1 t).2)] (effect (noted w c).1 t).1 u) :
    (call c effect).Traced Others post w :=
  call_traced_among (fun _ _ _ => Others.trans) pre hpre hnote (fun _ => hfail) heffect

/-- Reading a workload is no write, and what was found is what a store held that came before the
present one. -/
theorem get_traced (w : World) (name : String) :
    (workloads.get name).Traced Others
      (fun steps a t => Unwritten steps ∧
        ∀ found, a = .ok found → ∃ v : Versioned, v.Later t.store ∧ v.find? name = found) w := by
  refine call_traced (fun t => t.calls.getLast? = some ⟨.getWorkload, name, .none⟩)
    (fun t u ht he => he.2 ▸ ht) (by simp)
    (fun e t _ => ⟨unwritten_noted w _, fun found h => nomatch h⟩) ?_
  intro t u ht he
  refine ⟨(unwritten_noted w _).append fun e hm => ?_, fun found h => ?_⟩
  · rintro ⟨⟨c, hc, hwrites⟩, -⟩
    rw [List.mem_singleton.1 hm, ht] at hc
    obtain rfl := Option.some.inj hc
    cases hwrites
  · exact ⟨t.store, (Versioned.Later.peers name _ _).trans he.1, Except.ok.inj h⟩

/-- A write that succeeds is the first one of its steps, and one that fails is none. -/
theorem write_traced {f : Versioned → Except ServiceError Versioned} {v : Versioned}
    (hc : c.method.writes) (hv : v.Later w.store) :
    (call c (World.write f)).Traced Others
      (fun steps a _ =>
        match a with
        | .ok () => Wrote steps fun t u => v.Later t.store ∧ f t.store = .ok u.store
        | .error _ => Unwritten steps) w := by
  refine call_traced (fun t => t.calls.getLast? = some c ∧ v.Later t.store)
    (fun t u ht he => ⟨he.2 ▸ ht.1, ht.2.trans he.1⟩) ⟨by simp, hv⟩
    (fun e t _ => unwritten_noted w c) ?_
  rintro t u ⟨hlast, hlater⟩ -
  unfold World.write
  cases hs : f t.store with
  | ok store =>
    exact ⟨[(w, (noted w c).2)], t, _, rfl, unwritten_noted w c, ⟨c, hlast, hc⟩, hlater, hs⟩
  | error e =>
    refine (unwritten_noted w c).append fun e he => ?_
    rw [List.mem_singleton.1 he]
    exact not_writes_of_store rfl

/-! ## One attempt -/

/-- What an attempt of an update did; others were faster only if it has not written. -/
def AttemptKept (profile : String) (change : Spec → Spec) (steps : List (World × World)) :
    Attempt → Prop
  | .settled result => Kept profile change steps result
  | .contended => Unwritten steps

/-- An attempt that ends with a write. -/
theorem ofWrite_traced {x : Script World (Answer Unit)} {done : WorkloadChange}
    (hb : Unwritten before)
    (h : x.Traced Others
      (fun steps a _ => match a with
        | .ok () => Wrote steps write
        | .error _ => Unwritten steps) w)
    (hdone : ∀ steps, Wrote steps write → Kept profile change steps (.ok done)) :
    (x.bind fun a => .done (.ofWrite done a)).Traced Others
      (fun steps a _ => AttemptKept profile change (before ++ steps) a) w := by
  refine h.seq fun steps a t ha => ?_
  show AttemptKept profile change (before ++ (steps ++ [])) _
  rw [List.append_nil]
  match a, ha with
  | .ok (), ha => exact (hdone steps ha).append hb
  | .error (.conflict _), ha => exact hb.append ha
  | .error (.unavailable _), ha => exact hb.append ha

/-- An attempt that ends without a write. -/
theorem unwritten_traced {result : Answer WorkloadChange} (hb : Unwritten before)
    (h : ∀ steps, Unwritten steps → Kept profile change steps result) :
    (Script.done (.settled result)).Traced Others
      (fun steps a _ => AttemptKept profile change (before ++ steps) a) w :=
  (h [] unwritten_nil).append hb

theorem addOnce_traced (w : World) (profile node : String) (cpus : List CpuId) :
    (workloads.addOnce profile node cpus).Traced Others
      (fun steps a _ => AttemptKept profile (fun s => (s.merge node cpus).value) steps a) w := by
  refine (get_traced w _).seq fun before a t ⟨hb, hfound⟩ => ?_
  match a with
  | .error e => exact unwritten_traced hb fun _ h => h
  | .ok none =>
    obtain ⟨v, hv, -⟩ := hfound none rfl
    dsimp only
    split
    · refine ofWrite_traced hb (write_traced rfl hv) fun steps h => h.mono fun t u ⟨_, hc⟩ => ?_
      obtain ⟨hnone, hsets, -⟩ := Versioned.create_ok hc
      exact ⟨Versioned.specs_of_not_found hnone, hsets⟩
    · exact unwritten_traced hb fun _ h => h
  | .ok (some found) =>
    obtain ⟨v, hv, hn⟩ := hfound _ rfl
    have hkey : found.key = workloadName profile := v.named _ _ hn
    dsimp only
    split
    · refine ofWrite_traced hb (write_traced rfl hv) fun steps h => h.mono fun t u ⟨hl, hr⟩ => ?_
      obtain ⟨⟨stored, hst, hver⟩, hsets, -⟩ := Versioned.replace_ok hr
      exact ⟨found.spec, Update.specs_of_version hl hn (hkey ▸ hst) hver, hkey ▸ hsets⟩
    · exact unwritten_traced hb fun _ h => h

theorem removeOnce_traced (w : World) (profile node : String) (cpus : List CpuId) :
    (workloads.removeOnce profile node cpus).Traced Others
      (fun steps a _ => AttemptKept profile (fun s => (s.remove node cpus).value) steps a) w := by
  refine (get_traced w _).seq fun before a t ⟨hb, hfound⟩ => ?_
  match a with
  | .error e => exact unwritten_traced hb fun _ h => h
  | .ok none => exact unwritten_traced hb fun _ h => h
  | .ok (some found) =>
    obtain ⟨v, hv, hn⟩ := hfound _ rfl
    have hkey : found.key = workloadName profile := v.named _ _ hn
    dsimp only
    split
    · exact unwritten_traced hb fun _ h => h
    · split
      · rename_i hnil
        refine ofWrite_traced hb (write_traced rfl hv) fun steps h =>
          h.mono fun t u ⟨hl, hd⟩ => ?_
        obtain ⟨hver, hsets, -⟩ := Versioned.delete_ok hd
        refine ⟨fun s hs => ?_, hkey ▸ hsets⟩
        -- it may have gone since it was read; if not, it is the one that was read
        obtain ⟨stored, hst, rfl⟩ := Versioned.specs_eq_some hs
        obtain rfl := hl.eq_of_version hn hst (hver stored (hkey.symm ▸ hst))
        exact hnil
      · refine ofWrite_traced hb (write_traced rfl hv) fun steps h =>
          h.mono fun t u ⟨hl, hr⟩ => ?_
        obtain ⟨⟨stored, hst, hver⟩, hsets, -⟩ := Versioned.replace_ok hr
        exact ⟨found.spec, Update.specs_of_version hl hn (hkey ▸ hst) hver, hkey ▸ hsets⟩

/-! ## All attempts -/

/-- Only the last attempt has written, if any has. -/
theorem retryFrom_traced {attempt : Script World Attempt} {left i : Nat}
    (h : ∀ t, attempt.Traced Others (fun steps a _ => AttemptKept profile change steps a) t)
    (w : World) :
    (retryFrom r name attempt left i).Traced Others
      (fun steps result _ => Kept profile change steps result) w := by
  induction left generalizing w i with
  | zero => exact unwritten_nil
  | succ left ih =>
    refine (h w).seq fun before a t ha => ?_
    match a, ha with
    | .settled result, ha =>
      show Kept profile change (before ++ []) result
      rwa [List.append_nil]
    | .contended, ha =>
      dsimp only
      split
      · exact ha.append unwritten_nil
      · exact fun u _ => (ih u).mono fun _ _ _ hk => hk.append ha

/-- However others write to the store meanwhile, and whatever errors and conflicts strike its calls,
adding and removing change it in one step at most. That step adds the CPUs to, or takes them out
of, the spec that is stored right before it, and deletes a workload only if no node is left in it;
an update that fails, or finds nothing to change, has changed nothing. -/
theorem updates_kept (r : Retry) (profile node : String) (cpus : List CpuId) (w : World) :
    (workloads.add r profile node cpus).Traced Others
        (fun steps result _ =>
          Kept profile (fun s => (s.merge node cpus).value) steps result) w ∧
      (workloads.remove r profile node cpus).Traced Others
        (fun steps result _ =>
          Kept profile (fun s => (s.remove node cpus).value) steps result) w :=
  ⟨retryFrom_traced (fun t => addOnce_traced t profile node cpus) w,
    retryFrom_traced (fun t => removeOnce_traced t profile node cpus) w⟩

/-- Another writer adds the CPU 7 right after the workload was first read. The write that comes of
that is refused, and the next one keeps the CPU. -/
example :
    let w : World :=
      { store := ({} : Versioned).put ⟨some "perf-workload", none, ⟨"perf", [⟨"n1", [1]⟩]⟩⟩
        faults := [{ method := .getWorkload, peer := [.merge "n1" [7]] }] }
    let ran := (workloads.add ⟨5, 50⟩ "perf" "n1" [4]).run w
    ran.state.store.specs "perf-workload" = some ⟨"perf", [⟨"n1", [1, 4, 7]⟩]⟩ ∧
      ran.state.calls.map Call.method =
        [.getWorkload, .replaceWorkload, .getWorkload, .replaceWorkload] := by
  decide +kernel

end World

end PowerGrant
