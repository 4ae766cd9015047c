import PowerGrant.Proofs.World.Calls
import PowerGrant.Reconcile.Survey
import PowerGrant.World.Losses

/-!
# Updates of one workload

Adding and removing read a workload, change what they read and write it back with the version that
they read. A write that succeeds therefore finds what was read, whatever others did in between: it
is a change of the spec that is stored at that moment.

* `Update`: what is known before the change (`fresh`) and after it (`done`), and what one has to
  show of each single step for that.
* `Update.add_safe`, `Update.remove_safe`: attempts under a timeout end with the change done, or
  with an error and at most one change done.
* `Update.add_losing_safe`, `Update.remove_losing_safe`: so they do when answers of writes are lost,
  if what holds after the change is enough to go on from.
-/

namespace PowerGrant

/-- A change of the workload `name` by `op`, made while others may do what `env` allows and faults
tell them to do what `peers` allows. -/
structure Update (peers : List PeerWrite → Prop) (env step : World → World → Prop) (name : String)
    (op : Option Spec → Option Spec) (fresh done : World → Prop) : Prop where
  others : ∀ t u, env t u → t.Others u
  peers_nil : peers []
  peers_fresh : ∀ t, fresh t → t.Peers peers
  fresh_env : ∀ t u, fresh t → env t u → fresh u
  done_env : ∀ t u, done t → env t u → done u
  /-- A call is put on record. -/
  note : ∀ t c, fresh t → c.method.onStore → c.key = name →
    step t (World.noted t c).2 ∧ fresh (World.noted t c).2
  /-- A write is refused. -/
  still : ∀ t, fresh t → step t t
  /-- The workload is read, and others write right after that. -/
  read : ∀ t writes, fresh t → t.calls.getLast? = some ⟨.getWorkload, name, .none⟩ → peers writes →
    step t (t.afterPeers name writes) ∧ fresh (t.afterPeers name writes) ∧
      (op (t.store.specs name) = t.store.specs name → done (t.afterPeers name writes))
  /-- The change is made. -/
  write : ∀ t store, fresh t → t.store.Sets store name (op (t.store.specs name)) →
    t.store.Later store → step t { t with store } ∧ done { t with store }

namespace Update

variable {peers : List PeerWrite → Prop} {env step : World → World → Prop} {name : String}
  {op : Option Spec → Option Spec} {fresh done : World → Prop} {w : World} {c : Call}

/-- What each step of an update leads to. -/
def steps (step : World → World → Prop) (fresh done : World → Prop) (t u : World) : Prop :=
  step t u ∧ (fresh u ∨ done u)

/-- What holds once the workload was read: what was found is what a store held that came before the
present one, and if the change leaves that as it is, the change is done. -/
def Found (name : String) (op : Option Spec → Option Spec) (fresh done : World → Prop) :
    Answer (Option Workload) → World → Prop
  | .ok found, t => fresh t ∧ (∃ v : Versioned, v.Later t.store ∧ v.find? name = found) ∧
      (op (found.map Workload.spec) = found.map Workload.spec → done t)
  | .error _, t => fresh t

/-- What holds at the end of a write, or of the attempts of an update. -/
def Settles (fresh done : World → Prop) {α β : Type} : Except α β → World → Prop
  | .ok _, t => done t
  | .error _, t => fresh t

/-- What holds at the end of an attempt. -/
def Tried (fresh done : World → Prop) : Attempt → World → Prop
  | .settled (.ok _), t => done t
  | _, t => fresh t

/-! ## The single calls -/

theorem found_env (h : Update peers env step name op fresh done) {a : Answer (Option Workload)}
    {t u : World} (ha : Found name op fresh done a t) (he : env t u) :
    Found name op fresh done a u := by
  cases a with
  | error e => exact h.fresh_env t u ha he
  | ok found =>
    obtain ⟨hf, ⟨v, hv, hn⟩, hd⟩ := ha
    exact ⟨h.fresh_env t u hf he, ⟨v, hv.trans (h.others t u he).1, hn⟩,
      fun ho => h.done_env t u (hd ho) he⟩

theorem settles_env (h : Update peers env step name op fresh done) {a : Answer Unit} {t u : World}
    (ha : Settles fresh done a t) (he : env t u) : Settles fresh done a u := by
  cases a with
  | error e => exact h.fresh_env t u ha he
  | ok _ => exact h.done_env t u ha he

/-- Reading the workload, as the first call of an attempt. -/
theorem get_safe (h : Update peers env step name op fresh done)
    (hw : ∀ c, c.method.onStore → c.key = name →
      step w (World.noted w c).2 ∧ fresh (World.noted w c).2) (hp : w.Peers peers) :
    (World.workloads.get name).Safe env (steps step fresh done) (Found name op fresh done) w := by
  obtain ⟨hstep, hfresh⟩ := hw ⟨.getWorkload, name, .none⟩ rfl rfl
  refine World.call_safe
    (fun t => fresh t ∧ t.calls.getLast? = some ⟨.getWorkload, name, .none⟩)
    (fun t u ht he => ⟨h.fresh_env t u ht.1 he, (h.others t u he).2 ▸ ht.2⟩)
    (fun a t u ha he => h.found_env ha he) ⟨⟨hstep, .inl hfresh⟩, hfresh, by simp⟩
    (fun e t ht => ht.1) ?_
  rintro t ⟨ht, hlast⟩
  have hpeers := World.peer_noted (c := ⟨.getWorkload, name, .none⟩) h.peers_nil hp
  obtain ⟨hs, hf, hd⟩ := h.read t _ ht hlast hpeers
  exact ⟨⟨hs, .inl hf⟩, hf, ⟨t.store, .peers name _ _, rfl⟩, hd⟩

/-- Losses make no difference to the calls of an update: where one strikes, what holds after the
change is as good as what held before it. -/
def Bears (lost : World.Losses) (fresh done : World → Prop) : Prop :=
  ∀ u e t, lost u = some e → done t → fresh t

theorem bears_none : Bears (fun _ => none) fresh done := fun _ _ _ h => nomatch h

/-- A write to the workload that succeeds only as the change of what is stored. -/
theorem write_safe (h : Update peers env step name op fresh done) {lost : World.Losses}
    (hlost : Bears lost fresh done) {v : Versioned}
    {f : Versioned → Except ServiceError Versioned} (hc : c.method.onStore) (hkey : c.key = name)
    (hf : ∀ store store', v.Later store → f store = .ok store' →
      store.Sets store' name (op (store.specs name)) ∧ store.Later store')
    (hw : fresh w) (hv : v.Later w.store) :
    (World.call c (World.writeLosing lost f)).Safe env (steps step fresh done)
      (Settles fresh done) w := by
  obtain ⟨hstep, hfresh⟩ := h.note w c hw hc hkey
  refine World.call_safe (fun t => fresh t ∧ v.Later t.store)
    (fun t u ht he => ⟨h.fresh_env t u ht.1 he, ht.2.trans (h.others t u he).1⟩)
    (fun a t u ha he => h.settles_env ha he) ⟨⟨hstep, .inl hfresh⟩, hfresh, hv⟩
    (fun e t ht => ht.1) ?_
  rintro t ⟨ht, hlater⟩
  cases hs : f t.store with
  | error e =>
    simp only [World.writeLosing, World.write, hs]
    refine ⟨⟨h.still t ht, .inl ht⟩, ?_⟩
    cases lost t <;> exact ht
  | ok store =>
    obtain ⟨hsets, hl⟩ := hf _ _ hlater hs
    obtain ⟨hst, hd⟩ := h.write t store ht hsets hl
    simp only [World.writeLosing, World.write, hs]
    refine ⟨⟨hst, .inr hd⟩, ?_⟩
    cases he : lost { t with store } with
    | none => exact hd
    | some e => exact hlost _ e _ he hd

/-! ## One attempt -/

theorem tried_ofWrite {change : WorkloadChange} {a : Answer Unit} {t : World}
    (h : Settles fresh done a t) : Tried fresh done (.ofWrite change a) t := by
  match a, h with
  | .ok (), h => exact h
  | .error (.conflict _), h => exact h
  | .error (.unavailable _), h => exact h

/-- A write of an attempt, after which nothing is left to do. -/
theorem ofWrite_safe {x : Script World (Answer Unit)} (change : WorkloadChange)
    (h : x.Safe env (steps step fresh done) (Settles fresh done) w) :
    (x.bind fun a => .done (.ofWrite change a)).Safe env (steps step fresh done)
      (Tried fresh done) w :=
  h.seq fun _ _ ha => tried_ofWrite ha

/-- The workload found is still there when a later store holds one of its version. -/
theorem specs_of_version {v store : Versioned} {found stored : Workload} (hv : v.Later store)
    (hf : v.find? name = some found) (hs : store.find? name = some stored)
    (hver : stored.version = found.version) : store.specs name = some found.spec := by
  obtain rfl := hv.eq_of_version hf hs hver
  exact Versioned.specs_of_find? hs

theorem addOnce_safe {profile node : String} {cpus : List CpuId} {lost : World.Losses}
    (h : Update peers env step (workloadName profile) (Spec.added profile node cpus) fresh done)
    (hlost : Bears lost fresh done)
    (hw : ∀ c, c.method.onStore → c.key = workloadName profile →
      step w (World.noted w c).2 ∧ fresh (World.noted w c).2) (hp : w.Peers peers) :
    ((World.losing lost).addOnce profile node cpus).Safe env (steps step fresh done)
      (Tried fresh done) w := by
  refine (h.get_safe hw hp).seq ?_
  intro a t ha
  match a, ha with
  | .error e, ha => exact ha
  | .ok none, ⟨hf, ⟨v, hv, hn⟩, hd⟩ =>
    dsimp only
    split
    · rename_i hch
      have hop : Spec.added profile node cpus none =
          some (Spec.merge ⟨profile, []⟩ node cpus).value := if_pos hch
      refine ofWrite_safe .created (h.write_safe hlost rfl rfl (fun store store' hl hs => ?_) hf hv)
      obtain ⟨hnone, hsets, hlater⟩ := Versioned.create_ok hs
      have hnone : store.specs (workloadName profile) = none :=
        Versioned.specs_of_not_found hnone
      refine ⟨?_, hlater⟩
      rw [hnone, hop]
      exact hsets
    · rename_i hch
      exact hd (if_neg hch)
  | .ok (some found), ⟨hf, ⟨v, hv, hn⟩, hd⟩ =>
    have hkey : found.key = workloadName profile := v.named _ _ hn
    dsimp only
    split
    · rename_i hch
      have hop : Spec.added profile node cpus (some found.spec) =
          some (found.spec.merge node cpus).value := if_pos hch
      refine ofWrite_safe .updated
        (h.write_safe hlost rfl hkey (fun store store' hl hs => ?_) hf hv)
      obtain ⟨⟨stored, hst, hver⟩, hsets, hlater⟩ := Versioned.replace_ok hs
      refine ⟨?_, hlater⟩
      rw [specs_of_version hl hn (hkey ▸ hst) hver, hop]
      exact hkey ▸ hsets
    · rename_i hch
      exact hd (if_neg hch)

theorem removeOnce_safe {profile node : String} {cpus : List CpuId} {lost : World.Losses}
    (h : Update peers env step (workloadName profile) (Spec.removed node cpus) fresh done)
    (hlost : Bears lost fresh done)
    (hw : ∀ c, c.method.onStore → c.key = workloadName profile →
      step w (World.noted w c).2 ∧ fresh (World.noted w c).2) (hp : w.Peers peers) :
    ((World.losing lost).removeOnce profile node cpus).Safe env (steps step fresh done)
      (Tried fresh done) w := by
  refine (h.get_safe hw hp).seq ?_
  intro a t ha
  match a, ha with
  | .error e, ha => exact ha
  | .ok none, ⟨_, _, hd⟩ => exact hd rfl
  | .ok (some found), ⟨hf, ⟨v, hv, hn⟩, hd⟩ =>
    have hkey : found.key = workloadName profile := v.named _ _ hn
    dsimp only
    by_cases hch : (found.spec.remove node cpus).changed = true
    · rw [if_neg (by simp [hch])]
      split
      · rename_i hnil
        have hop : Spec.removed node cpus (some found.spec) = none :=
          (if_pos hch).trans (if_pos hnil)
        refine ofWrite_safe .deleted
          (h.write_safe hlost rfl hkey (fun store store' hl hs => ?_) hf hv)
        obtain ⟨hver, hsets, hlater⟩ := Versioned.delete_ok hs
        refine ⟨?_, hlater⟩
        -- it may have gone since it was read; then there was nothing left to do
        have hnone : Spec.removed node cpus (store.specs (workloadName profile)) = none := by
          cases hst : store.find? (workloadName profile) with
          | none => rw [Versioned.specs_of_not_found hst]; rfl
          | some stored => rw [specs_of_version hl hn hst (hver stored (hkey.symm ▸ hst)), hop]
        rw [hnone]
        exact hkey ▸ hsets
      · rename_i hnil
        have hop : Spec.removed node cpus (some found.spec) =
            some (found.spec.remove node cpus).value := (if_pos hch).trans (if_neg hnil)
        refine ofWrite_safe .updated
          (h.write_safe hlost rfl hkey (fun store store' hl hs => ?_) hf hv)
        obtain ⟨⟨stored, hst, hver⟩, hsets, hlater⟩ := Versioned.replace_ok hs
        refine ⟨?_, hlater⟩
        rw [specs_of_version hl hn (hkey ▸ hst) hver, hop]
        exact hkey ▸ hsets
    · rw [if_pos (by simp [hch])]
      exact hd (if_neg hch)

/-! ## All attempts -/

/-- What holds when an update under a timeout has ended. One that failed may have been cut off
before the change or after it. -/
def Ended (fresh done : World → Prop) {α β : Type} : Except α β → World → Prop
  | .ok _, t => done t
  | .error _, t => fresh t ∨ done t

theorem retryFrom_safe (h : Update peers env step name op fresh done)
    {attempt : Script World Attempt} {r : Retry} {left i : Nat}
    (hlater : ∀ t, fresh t → attempt.Safe env (steps step fresh done) (Tried fresh done) t)
    (hfirst : attempt.Safe env (steps step fresh done) (Tried fresh done) w) :
    (retryFrom r name attempt (left + 1) i).Safe env (steps step fresh done)
      (Settles fresh done) w := by
  induction left generalizing w i with
  | zero =>
    refine hfirst.seq fun a t ha => ?_
    match a, ha with
    | .settled (.ok _), ha => exact ha
    | .settled (.error _), ha => exact ha
    | .contended, ha => exact ha
  | succ left ih =>
    refine hfirst.seq fun a t ha => ?_
    match a, ha with
    | .settled (.ok _), ha => exact ha
    | .settled (.error _), ha => exact ha
    | .contended, ha => exact fun u hu => ih (hlater u (h.fresh_env t u ha hu))

/-- At least one attempt is made. -/
theorem retrying_eq {σ : Type} (r : Retry) (name : String) (attempt : Script σ Attempt) :
    retrying r name attempt = retryFrom r name attempt (r.budget - 1 + 1) 0 := by
  have : 1 ≤ r.budget := Nat.le_max_right _ _
  rw [retrying, show r.budget - 1 + 1 = r.budget by omega]

/-- An update under a timeout, of which the first attempt begins with a call. -/
theorem bounded_safe (h : Update peers env step name op fresh done)
    {attempt : Script World Attempt} {r : Retry} {limit : Nat}
    (hlater : ∀ t, fresh t → attempt.Safe env (steps step fresh done) (Tried fresh done) t)
    (hfirst : attempt.Safe env (steps step fresh done) (Tried fresh done) w)
    (hacts : attempt.Acts) :
    (bounded limit (retrying r name attempt)).Safe env (steps step fresh done)
      (Ended fresh done) w := by
  have hretry :
      (retrying r name attempt).Safe env (steps step fresh done) (Settles fresh done) w := by
    rw [retrying_eq]
    exact h.retryFrom_safe hlater hfirst
  refine Script.Safe.seq (hretry.within limit (fun t => fresh t ∨ done t)
    (fun s t hs => hs.2) (fun s t hs he => hs.imp (h.fresh_env s t · he) (h.done_env s t · he))
    fun hno => absurd ?_ hno) fun a t ha => ?_
  · rw [retrying_eq]
    exact Script.acts_bind hacts
  · match a, ha with
    | some (.ok _), ha => exact ha
    | some (.error _), ha => exact .inl ha
    | none, ha => exact ha

variable {profile node : String} {cpus : List CpuId} {r : Retry} {limit : Nat}
  {lost : World.Losses}

/-- Adding CPUs under a timeout when answers may be lost. -/
theorem add_losing_safe
    (h : Update peers env step (workloadName profile) (Spec.added profile node cpus) fresh done)
    (hlost : Bears lost fresh done)
    (hw : ∀ c, c.method.onStore → c.key = workloadName profile →
      step w (World.noted w c).2 ∧ fresh (World.noted w c).2) (hp : w.Peers peers) :
    (bounded limit ((World.losing lost).add r profile node cpus)).Safe env (steps step fresh done)
      (Ended fresh done) w :=
  h.bounded_safe
    (fun t ht => h.addOnce_safe hlost (fun c hc hk => h.note t c ht hc hk) (h.peers_fresh t ht))
    (h.addOnce_safe hlost hw hp) trivial

/-- Removing CPUs under a timeout when answers may be lost. -/
theorem remove_losing_safe
    (h : Update peers env step (workloadName profile) (Spec.removed node cpus) fresh done)
    (hlost : Bears lost fresh done)
    (hw : ∀ c, c.method.onStore → c.key = workloadName profile →
      step w (World.noted w c).2 ∧ fresh (World.noted w c).2) (hp : w.Peers peers) :
    (bounded limit ((World.losing lost).remove r profile node cpus)).Safe env
      (steps step fresh done) (Ended fresh done) w :=
  h.bounded_safe
    (fun t ht => h.removeOnce_safe hlost (fun c hc hk => h.note t c ht hc hk) (h.peers_fresh t ht))
    (h.removeOnce_safe hlost hw hp) trivial

/-- Adding CPUs under a timeout. -/
theorem add_safe
    (h : Update peers env step (workloadName profile) (Spec.added profile node cpus) fresh done)
    (hw : ∀ c, c.method.onStore → c.key = workloadName profile →
      step w (World.noted w c).2 ∧ fresh (World.noted w c).2) (hp : w.Peers peers) :
    (bounded limit (World.workloads.add r profile node cpus)).Safe env (steps step fresh done)
      (Ended fresh done) w :=
  World.losing_none ▸ h.add_losing_safe bears_none hw hp

/-- Removing CPUs under a timeout. -/
theorem remove_safe
    (h : Update peers env step (workloadName profile) (Spec.removed node cpus) fresh done)
    (hw : ∀ c, c.method.onStore → c.key = workloadName profile →
      step w (World.noted w c).2 ∧ fresh (World.noted w c).2) (hp : w.Peers peers) :
    (bounded limit (World.workloads.remove r profile node cpus)).Safe env (steps step fresh done)
      (Ended fresh done) w :=
  World.losing_none ▸ h.remove_losing_safe bears_none hw hp

end Update

end PowerGrant
