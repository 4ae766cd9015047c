import PowerGrant.Proofs.World.Alone

/-!
# Updates whose answers are lost

An update of which an answer is lost fails, or reads the workload again. Its change may have been
made then, and is made once more. It makes no difference if doing it twice is doing it once, so that
an update with losses comes to what one without them may come to.

* `again_update`: an update that may find its own change already made.
* `run_add_losing`, `run_remove_losing`: the specs after an update with losses in a quiet world.
-/

namespace PowerGrant.World

variable {w t : World} {c : Call} {name : String} {op : Option Spec → Option Spec}
  {profile node : String} {cpus : List CpuId} {r : Retry} {limit : Nat} {lost : Losses}

theorem Changed.noted (h : w.Changed name op t) (hc : c.method.onStore) :
    w.Changed name op (noted t c).2 :=
  ⟨h.1.trans (.noted t c), (Used.of_noted hc).earlier h.1 (.noted t c), h.2.2⟩

/-- A change that is made again. -/
theorem Changed.again {store : Versioned}
    (hop : op (op (w.store.specs name)) = op (w.store.specs name)) (h : w.Changed name op t)
    (hs : t.store.Sets store name (op (t.store.specs name))) :
    w.Changed name op { t with store } := by
  obtain ⟨hc, hu, hsets⟩ := h
  refine ⟨hc.write store, hu, fun n => ?_⟩
  have hown : t.store.specs name = op (w.store.specs name) := (hsets name).trans (if_pos rfl)
  rw [hown, hop] at hs
  refine (hs n).trans ?_
  split
  · rfl
  · rename_i hn
    exact (hsets n).trans (if_neg hn)

/-- An update in a quiet world of which the change may have been made before. -/
theorem again_update (hw : w.Quiet)
    (hop : op (op (w.store.specs name)) = op (w.store.specs name)) :
    Update (· = []) Eq (fun _ _ => True) name op
      (fun t => w.Untouched t ∨ w.Changed name op t) (w.Changed name op) where
  others _ _ he := he ▸ Others.refl _
  peers_nil := rfl
  peers_fresh _ h := h.elim (·.1.quiet hw) (·.1.quiet hw)
  fresh_env _ _ h he := he ▸ h
  done_env _ _ h he := he ▸ h
  note t c h hc hk := ⟨trivial, h.imp (fun h => ((quiet_update hw name op).note t c h hc hk).2)
    fun h => h.noted hc⟩
  still _ _ := trivial
  read t writes h hl hp := by
    rcases h with h | h
    · obtain ⟨-, hf, hd⟩ := (quiet_update hw name op).read t writes h hl hp
      exact ⟨trivial, .inl hf, hd⟩
    · obtain rfl := hp
      exact ⟨trivial, .inr h, fun _ => h⟩
  write t store h hs hl := by
    rcases h with h | h
    · exact (quiet_update hw name op).write t store h hs hl
    · exact ⟨trivial, h.again hop hs⟩

/-- What was changed before does not have to be told from what was changed since. -/
theorem updated_of_again {ran : Ran World (Except CallFault WorkloadChange)}
    (h : Update.Ended (fun t => w.Untouched t ∨ w.Changed name op t) (w.Changed name op) ran.value
      ran.state) : w.Updated name op ran := by
  obtain ⟨value, elapsed, state⟩ := ran
  cases value with
  | ok change => exact h
  | error fault => exact h.elim id .inr

theorem run_add_losing (hw : w.Quiet) :
    w.Updated (workloadName profile) (Spec.added profile node cpus)
      ((bounded limit ((losing lost).add r profile node cpus)).run w) :=
  updated_of_again <| ((again_update hw Spec.added_added).add_losing_safe (fun _ _ _ _ => .inr)
    (fun _ hc _ => ⟨trivial, .inl (untouched_noted (.refl w) rfl hc)⟩) hw).run fun _ => rfl

/-- Taking CPUs out twice is taking them out once if no node has two entries. -/
theorem run_remove_losing (hw : w.Quiet)
    (ho : Spec.OneEntry (w.store.specs (workloadName profile))) :
    w.Updated (workloadName profile) (Spec.removed node cpus)
      ((bounded limit ((losing lost).remove r profile node cpus)).run w) :=
  updated_of_again <| ((again_update hw (Spec.removed_removed ho)).remove_losing_safe
    (fun _ _ _ _ => .inr) (fun _ hc _ => ⟨trivial, .inl (untouched_noted (.refl w) rfl hc)⟩)
    hw).run fun _ => rfl

end PowerGrant.World
