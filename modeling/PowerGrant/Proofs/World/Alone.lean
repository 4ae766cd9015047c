import PowerGrant.Proofs.World.Update

/-!
# Updates that nobody interferes with

A world is quiet if its faults make no other writer write, and calm if it has no faults. In a quiet
world an update changes the spec that was stored before it, or fails; in a calm one it does not
fail.

* `World.Called`: what calls leave as it is. `World.Used`: a call went to the store.
* `World.run_add`, `World.run_remove`: the specs after an update in a quiet world.
* `World.calm_add`, `World.calm_remove`: updates succeed at once in a calm world.
-/

namespace PowerGrant.World

/-- No fault tells other writers to write. -/
def Quiet (w : World) : Prop := w.Peers (· = [])

/-- The world has no faults. -/
def Calm (w : World) : Prop := w.faults = []

/-- The tables that calls only read are the same in both worlds. -/
structure SameTables (w w' : World) : Prop where
  pods : w'.pods = w.pods
  addresses : w'.addresses = w.addresses
  profiles : w'.profiles = w.profiles
  cpus : w'.cpus = w.cpus

/-- The calls made since `w`. -/
def madeSince (w w' : World) : List Call := w'.calls.drop w.calls.length

/-- A call to the store was made since `w`. -/
def Used (w w' : World) : Prop := ∃ c ∈ w.madeSince w', c.method.onStore

/-- What calls made since `w` have left as it was. -/
structure Called (w w' : World) : Prop where
  tables : w.SameTables w'
  peers : ∀ peers, w.Peers peers → w'.Peers peers
  calls : ∃ made, w'.calls = w.calls ++ made

variable {w w' w'' : World} {c : Call} {name : String} {op : Option Spec → Option Spec}

theorem calm_iff_peers : w.Calm ↔ w.Peers fun _ => False := by
  simp [Calm, Peers, List.eq_nil_iff_forall_not_mem]

theorem Calm.quiet (h : w.Calm) : w.Quiet := by
  rintro f hf
  simp [show w.faults = [] from h] at hf

namespace SameTables

theorem refl (w : World) : w.SameTables w := ⟨rfl, rfl, rfl, rfl⟩

theorem symm (h : w.SameTables w') : w'.SameTables w :=
  ⟨h.pods.symm, h.addresses.symm, h.profiles.symm, h.cpus.symm⟩

theorem trans (h : w.SameTables w') (h' : w'.SameTables w'') : w.SameTables w'' :=
  ⟨h'.pods.trans h.pods, h'.addresses.trans h.addresses, h'.profiles.trans h.profiles,
    h'.cpus.trans h.cpus⟩

end SameTables

namespace Called

theorem refl (w : World) : w.Called w := ⟨.refl w, fun _ h => h, [], by simp⟩

theorem trans (h : w.Called w') (h' : w'.Called w'') : w.Called w'' := by
  obtain ⟨made, hm⟩ := h.calls
  obtain ⟨made', hm'⟩ := h'.calls
  exact ⟨h.tables.trans h'.tables, fun p hp => h'.peers p (h.peers p hp), made ++ made', by
    rw [hm', hm, List.append_assoc]⟩

theorem noted (w : World) (c : Call) : w.Called (noted w c).2 :=
  ⟨⟨rfl, rfl, rfl, rfl⟩, fun _ => peers_noted, [c], rfl⟩

/-- A write to the store is no call of its own. -/
theorem write (h : w.Called w') (store : Versioned) : w.Called { w' with store } :=
  ⟨⟨h.tables.pods, h.tables.addresses, h.tables.profiles, h.tables.cpus⟩, h.peers, h.calls⟩

theorem quiet (h : w.Called w') (hw : w.Quiet) : w'.Quiet := h.peers _ hw

theorem calm (h : w.Called w') (hw : w.Calm) : w'.Calm :=
  calm_iff_peers.2 (h.peers _ (calm_iff_peers.1 hw))

theorem madeSince_eq (h : w.Called w') : w'.calls = w.calls ++ w.madeSince w' := by
  obtain ⟨made, hm⟩ := h.calls
  simp [madeSince, hm]

theorem madeSince_trans (h : w.Called w') (h' : w'.Called w'') :
    w.madeSince w'' = w.madeSince w' ++ w'.madeSince w'' := by
  have h₁ := (h.trans h').madeSince_eq
  rw [h'.madeSince_eq, h.madeSince_eq, List.append_assoc] at h₁
  exact (List.append_cancel_left h₁).symm

end Called

@[simp] theorem madeSince_noted : w.madeSince (noted w c).2 = [c] := by simp [madeSince]

theorem Used.of_noted (hc : c.method.onStore) : w.Used (noted w c).2 :=
  ⟨c, by simp, hc⟩

theorem Used.later (h : w.Used w') (hw : w.Called w') (hw' : w'.Called w'') : w.Used w'' := by
  obtain ⟨c, hm, hc⟩ := h
  exact ⟨c, by rw [hw.madeSince_trans hw']; exact List.mem_append_left _ hm, hc⟩

theorem Used.earlier (h : w'.Used w'') (hw : w.Called w') (hw' : w'.Called w'') : w.Used w'' := by
  obtain ⟨c, hm, hc⟩ := h
  exact ⟨c, by rw [hw.madeSince_trans hw']; exact List.mem_append_right _ hm, hc⟩

/-! ## Quiet worlds -/

/-- The store was called since `w`, but its specs are still the same. -/
def Untouched (w t : World) : Prop :=
  w.Called t ∧ w.Used t ∧ t.store.specs = w.store.specs

/-- The store was called since `w`, and `op` was done to the spec of a name and to no other. -/
def Changed (w : World) (name : String) (op : Option Spec → Option Spec) (t : World) : Prop :=
  w.Called t ∧ w.Used t ∧ w.store.Sets t.store name (op (w.store.specs name))

theorem untouched_noted (h : w.Called w') (hs : w'.store.specs = w.store.specs)
    (hc : c.method.onStore) : w.Untouched (noted w' c).2 :=
  ⟨h.trans (.noted w' c), (Used.of_noted hc).earlier h (.noted w' c), hs⟩

/-- An update in a quiet world. -/
theorem quiet_update (hw : w.Quiet) (name : String) (op : Option Spec → Option Spec) :
    Update (· = []) Eq (fun _ _ => True) name op w.Untouched (w.Changed name op) where
  others t u h := h ▸ Others.refl t
  peers_nil := rfl
  peers_fresh t h := h.1.quiet hw
  fresh_env t u h he := he ▸ h
  done_env t u h he := he ▸ h
  note t c h hc _ := ⟨trivial, untouched_noted h.1 h.2.2 hc⟩
  still _ _ := trivial
  read := by
    rintro t writes ⟨hc, hu, hs⟩ - rfl
    refine ⟨trivial, ⟨hc, hu, hs⟩, fun hop => ⟨hc, hu, fun n => ?_⟩⟩
    rw [hs] at hop
    show t.store.specs n = _
    rw [hs, hop]
    split
    · rw [‹n = name›]
    · rfl
  write := by
    rintro t store ⟨hc, hu, hs⟩ hsets -
    refine ⟨trivial, hc.write store, ?_, fun n => ?_⟩
    · exact hu
    · have := hsets n
      rwa [hs] at this

/-- What an update in a quiet world comes to. -/
abbrev Updated (w : World) (name : String) (op : Option Spec → Option Spec)
    (ran : Ran World (Except CallFault WorkloadChange)) : Prop :=
  Update.Ended w.Untouched (w.Changed name op) ran.value ran.state

theorem Updated.untouched_or_changed {ran : Ran World (Except CallFault WorkloadChange)}
    (h : w.Updated name op ran) : w.Untouched ran.state ∨ w.Changed name op ran.state := by
  obtain ⟨value, elapsed, state⟩ := ran
  cases value with
  | ok done => exact .inr h
  | error fault => exact h

theorem Updated.called {ran : Ran World (Except CallFault WorkloadChange)}
    (h : w.Updated name op ran) : w.Called ran.state :=
  h.untouched_or_changed.elim And.left And.left

/-- Other workloads are as they were. -/
theorem Updated.specs_of_ne {ran : Ran World (Except CallFault WorkloadChange)} {n : String}
    (h : w.Updated name op ran) (hn : n ≠ name) : ran.state.store.specs n = w.store.specs n := by
  rcases h.untouched_or_changed with hun | hch
  · rw [hun.2.2]
  · rw [hch.2.2, if_neg hn]

variable {profile node : String} {cpus : List CpuId} {r : Retry} {limit : Nat}

/-- Each step of an update in a quiet world leaves the specs as they were or makes the change. -/
abbrev Updating (w : World) (name : String) (op : Option Spec → Option Spec)
    (x : Script World (Except CallFault WorkloadChange)) : Prop :=
  x.Safe Eq (Update.steps (fun _ _ => True) w.Untouched (w.Changed name op))
    (Update.Ended w.Untouched (w.Changed name op)) w

theorem add_updating (hw : w.Quiet) :
    w.Updating (workloadName profile) (Spec.added profile node cpus)
      (bounded limit (workloads.add r profile node cpus)) :=
  (quiet_update hw _ _).add_safe
    (fun _ hc _ => ⟨trivial, untouched_noted (.refl w) rfl hc⟩) hw

theorem remove_updating (hw : w.Quiet) :
    w.Updating (workloadName profile) (Spec.removed node cpus)
      (bounded limit (workloads.remove r profile node cpus)) :=
  (quiet_update hw _ _).remove_safe
    (fun _ hc _ => ⟨trivial, untouched_noted (.refl w) rfl hc⟩) hw

theorem run_add (hw : w.Quiet) :
    w.Updated (workloadName profile) (Spec.added profile node cpus)
      ((bounded limit (workloads.add r profile node cpus)).run w) :=
  (add_updating hw).run fun _ => rfl

theorem run_remove (hw : w.Quiet) :
    w.Updated (workloadName profile) (Spec.removed node cpus)
      ((bounded limit (workloads.remove r profile node cpus)).run w) :=
  (remove_updating hw).run fun _ => rfl

/-! ## Calls under a timeout -/

/-- A call that keeps its time ends as it would without a timeout. -/
theorem run_bounded_of_le {α : Type} {x : Script World (Answer α)}
    (h : (x.run w).elapsed ≤ limit) :
    ((bounded limit x).run w).value = (x.run w).value.mapError .failed := by
  unfold bounded
  rw [Script.run_bind, Script.run_within_of_le h]
  cases (x.run w).value <;> rfl

/-- A call under a timeout succeeds only if it does so without one. -/
theorem value_of_bounded {α : Type} {x : Script World (Answer α)} {a : α}
    (h : ((bounded limit x).run w).value = .ok a) : (x.run w).value = .ok a := by
  by_cases hle : (x.run w).elapsed ≤ limit
  · rw [run_bounded_of_le hle] at h
    cases hv : (x.run w).value with
    | error e => rw [hv] at h; cases h
    | ok b => rw [hv] at h; exact congrArg _ (Except.ok.inj h)
  · unfold bounded at h
    rw [Script.run_bind, (Script.run_within_of_lt (Nat.lt_of_not_le hle)).1] at h
    cases h

/-- A call that succeeds has taken effect. -/
theorem value_of_call {α : Type} {effect : Fault → World → Answer α × World} {a : α}
    (h : ((call c effect).run w).value = .ok a) :
    (effect (noted w c).1 (noted w c).2).1 = .ok a := by
  have hs : (call c effect).Safe Eq (fun _ _ => True)
      (fun r _ => ∀ b, r = .ok b → (effect (noted w c).1 (noted w c).2).1 = .ok b) w := by
    refine call_safe (· = (noted w c).2) (fun _ _ ht he => he ▸ ht) (fun _ _ _ hr _ => hr)
      ⟨trivial, rfl⟩ (fun _ _ _ _ hb => nomatch hb) ?_
    rintro t rfl
    exact ⟨trivial, fun _ hb => hb⟩
  exact hs.run (fun _ => rfl) a h

/-! ## Calm worlds -/

/-- A call that no fault makes fail takes effect after the wait of its fault. -/
theorem run_call_of_spared {α : Type} {effect : Fault → World → Answer α × World}
    (hc : (noted w c).1.conflict = false) (he : (noted w c).1.error = none) :
    (call c effect).run w =
      let after := effect (noted w c).1 (noted w c).2
      ⟨after.1, (noted w c).1.delay + (match after.1 with
        | .ok _ => (noted w c).1.delayAfter
        | .error _ => 0), after.2⟩ := by
  simp only [call, Script.bind_eq, Script.pure_eq_done, Script.run_bind, Script.modifyGet,
    Script.sleep, Script.run, hc, he]
  cases ha : (effect (noted w c).1 (noted w c).2).1 with
  | error e => simp [Script.run_bind, Script.run, ha]
  | ok a => simp [Script.run_bind, Script.run, ha]

/-- A call in a calm world takes effect at once. -/
theorem run_call {α : Type} {effect : Fault → World → Answer α × World} (hw : w.Calm) :
    (call c effect).run w =
      let after := effect { method := c.method } { w with calls := w.calls ++ [c] }
      ⟨after.1, 0, after.2⟩ := by
  have hn : noted w c = ({ method := c.method }, { w with calls := w.calls ++ [c] }) := by
    simp [noted, show w.faults = [] from hw]
  rw [run_call_of_spared (by rw [hn]) (by rw [hn]), hn]
  cases he : (effect { method := c.method } { w with calls := w.calls ++ [c] }).1 <;> simp only [he]

theorem run_get (hw : w.Calm) :
    (workloads.get name).run w =
      ⟨.ok (w.store.find? name), 0, { w with calls := w.calls ++ [⟨.getWorkload, name, .none⟩] }⟩ :=
  run_call hw

theorem run_write {f : Versioned → Except ServiceError Versioned} (hw : w.Calm)
    (hf : ∃ store, f w.store = .ok store) : ∃ t, (call c (write f)).run w = ⟨.ok (), 0, t⟩ := by
  obtain ⟨store, hf⟩ := hf
  rw [run_call hw]
  simp [write, hf]

variable {u stored : Workload}

theorem run_create (hw : w.Calm) (h : w.store.find? u.key = none) :
    ∃ t, (workloads.create u).run w = ⟨.ok (), 0, t⟩ := by
  refine run_write hw ⟨w.store.put u, ?_⟩
  simp only [Versioned.create, h]

theorem run_replace (hw : w.Calm) (h : w.store.find? u.key = some stored)
    (hv : stored.version = u.version) : ∃ t, (workloads.replace u).run w = ⟨.ok (), 0, t⟩ := by
  refine run_write hw ⟨w.store.put u, ?_⟩
  simp only [Versioned.replace, h, hv, if_true]

theorem run_delete (hw : w.Calm) (h : w.store.find? u.key = some stored)
    (hv : stored.version = u.version) : ∃ t, (workloads.delete u).run w = ⟨.ok (), 0, t⟩ := by
  refine run_write hw ⟨w.store.erase u.key, ?_⟩
  simp only [Versioned.delete, h, hv, if_true]

/-- The attempt is settled at once and without an error. -/
def Immediate (w : World) (attempt : Script World Attempt) : Prop :=
  ∃ change t, attempt.run w = ⟨.settled (.ok change), 0, t⟩

theorem immediate_ofWrite {x : Script World (Answer Unit)} {change : WorkloadChange}
    (h : ∃ t, x.run w = ⟨.ok (), 0, t⟩) :
    w.Immediate (x.bind fun a => .done (.ofWrite change a)) := by
  obtain ⟨t, ht⟩ := h
  exact ⟨change, t, by simp [Script.run_bind, ht, Attempt.ofWrite]⟩

/-- What comes after the workload was read. -/
theorem immediate_get {next : Answer (Option Workload) → Script World Attempt} (hw : w.Calm)
    (h : ∀ w' : World, w'.Calm → w'.store = w.store →
      w'.Immediate (next (.ok (w.store.find? name)))) :
    w.Immediate ((workloads.get name).bind next) := by
  obtain ⟨change, t, ht⟩ :=
    h { w with calls := w.calls ++ [⟨.getWorkload, name, .none⟩] } hw rfl
  exact ⟨change, t, by simp [Script.run_bind, run_get hw, ht]⟩

theorem immediate_addOnce (hw : w.Calm) : w.Immediate (workloads.addOnce profile node cpus) := by
  refine immediate_get hw fun w' hw' hs => ?_
  cases hf : w.store.find? (workloadName profile) with
  | none =>
    dsimp only
    split
    · exact immediate_ofWrite (run_create hw' (hs ▸ hf))
    · exact ⟨.unchanged, w', rfl⟩
  | some found =>
    have hfound : w'.store.find? found.key = some found := by
      rw [hs, w.store.named _ _ hf, hf]
    dsimp only
    split
    · exact immediate_ofWrite (run_replace hw' hfound rfl)
    · exact ⟨.unchanged, w', rfl⟩

theorem immediate_removeOnce (hw : w.Calm) :
    w.Immediate (workloads.removeOnce profile node cpus) := by
  refine immediate_get hw fun w' hw' hs => ?_
  cases hf : w.store.find? (workloadName profile) with
  | none => exact ⟨.absent, w', rfl⟩
  | some found =>
    have hfound : w'.store.find? found.key = some found := by
      rw [hs, w.store.named _ _ hf, hf]
    dsimp only
    split
    · exact ⟨.unchanged, w', rfl⟩
    · split
      · exact immediate_ofWrite (run_delete hw' hfound rfl)
      · exact immediate_ofWrite (run_replace hw' hfound rfl)

/-- Attempts under a timeout, of which the first one is settled at once. -/
theorem Immediate.bounded {attempt : Script World Attempt} (h : w.Immediate attempt) :
    ∃ change, ((bounded limit (retrying r name attempt)).run w).value = .ok change := by
  obtain ⟨change, t, h⟩ := h
  have hretry : (retrying r name attempt).run w = ⟨.ok change, 0, t⟩ := by
    rw [Update.retrying_eq]
    simp [retryFrom, Script.run_bind, h]
  refine ⟨change, ?_⟩
  rw [run_bounded_of_le (by rw [hretry]; exact Nat.zero_le _), hretry]
  rfl

theorem calm_add (hw : w.Calm) :
    ∃ change, ((bounded limit (workloads.add r profile node cpus)).run w).value = .ok change :=
  (immediate_addOnce hw).bounded

theorem calm_remove (hw : w.Calm) :
    ∃ change, ((bounded limit (workloads.remove r profile node cpus)).run w).value = .ok change :=
  (immediate_removeOnce hw).bounded

end PowerGrant.World
