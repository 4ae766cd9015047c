import PowerGrant.Proofs.Script.Safe
import PowerGrant.Proofs.Workload.Versions
import PowerGrant.World.Basic

/-!
# Calls in a world of tables

A call is put on record and its fault taken at once; its effect comes later, if it comes at all.

* `Method.onStore`: the calls to the workload store.
* `World.Peers`: what other writers are told to do by the faults of a world.
* `World.Others`: what others may do to a world at any moment.
* `World.call_safe`: a call is safe if its note and its effect are.
-/

namespace PowerGrant

/-- Whether a call goes to the workload store. -/
def Method.onStore : Method → Bool
  | .getWorkload | .createWorkload | .replaceWorkload | .deleteWorkload => true
  | _ => false

namespace Fault

variable {method : Method} {key : String} {f : Fault} {fs : List Fault}

theorem mem_of_take (h : (take method key fs).1 = some f) : f ∈ fs := by
  induction fs with
  | nil => cases h
  | cons g gs ih =>
    simp only [take] at h
    split at h
    · split at h
      · obtain rfl := Option.some.inj h
        exact List.mem_cons_self
      · exact List.mem_cons_of_mem _ (ih h)
    · exact List.mem_cons_of_mem _ (ih h)

/-- A rule strikes only calls of its own method. -/
theorem method_of_take (h : (take method key fs).1 = some f) : f.method = method := by
  induction fs with
  | nil => cases h
  | cons g gs ih =>
    simp only [take] at h
    split at h
    case isTrue ha =>
      split at h
      · obtain rfl := Option.some.inj h
        simp only [applies, Bool.and_eq_true, decide_eq_true_eq] at ha
        exact ha.1.1
      · exact ih h
    case isFalse => exact ih h

/-- The rules left after a call are rules that were there before, but for what they count. -/
theorem exists_rule_of_take (h : f ∈ (take method key fs).2) :
    ∃ g ∈ fs, f = { g with skip := f.skip, times := f.times } := by
  induction fs with
  | nil => cases h
  | cons g gs ih =>
    have hrest (h : f ∈ (take method key gs).2) :
        ∃ k ∈ g :: gs, f = { k with skip := f.skip, times := f.times } := by
      obtain ⟨k, hk, hf⟩ := ih h
      exact ⟨k, List.mem_cons_of_mem _ hk, hf⟩
    simp only [take] at h
    split at h
    · split at h
      · rcases List.mem_cons.1 h with rfl | h
        · exact ⟨g, List.mem_cons_self, rfl⟩
        · exact ⟨f, List.mem_cons_of_mem _ h, rfl⟩
      · rcases List.mem_cons.1 h with rfl | h
        · exact ⟨g, List.mem_cons_self, rfl⟩
        · exact hrest h
    · rcases List.mem_cons.1 h with rfl | h
      · exact ⟨f, List.mem_cons_self, rfl⟩
      · exact hrest h

/-- The rules left after a call tell other writers what rules told them before. -/
theorem exists_peer_of_take (h : f ∈ (take method key fs).2) : ∃ g ∈ fs, f.peer = g.peer := by
  obtain ⟨g, hg, hf⟩ := exists_rule_of_take h
  exact ⟨g, hg, (congrArg Fault.peer hf :)⟩

@[simp] theorem take_nil : take method key [] = (none, []) := rfl

end Fault

/-- A store after writes of others is a later one. -/
theorem Versioned.Later.peers (name : String) (writes : List PeerWrite) (v : Versioned) :
    v.Later (writes.foldl (PeerWrite.apply name) v) := by
  induction writes generalizing v with
  | nil => exact .refl v
  | cons write writes ih =>
    refine Versioned.Later.trans ?_ (ih _)
    cases write with
    | merge node cpus => exact .mergeInto v name node cpus
    | delete => exact .erase v name
    | put spec => exact .put v _

namespace World

/-- The faults of the world tell other writers only what `peers` allows. -/
def Peers (peers : List PeerWrite → Prop) (w : World) : Prop := ∀ f ∈ w.faults, peers f.peer

/-- What others may do to a world: they write to its store, and change all else but the record of
the calls made. -/
def Others (t u : World) : Prop := t.store.Later u.store ∧ u.calls = t.calls

/-- The world after others have written to a workload. -/
def afterPeers (w : World) (name : String) (writes : List PeerWrite) : World :=
  { w with store := writes.foldl (PeerWrite.apply name) w.store }

variable {peers : List PeerWrite → Prop} {w : World} {c : Call}

theorem Others.refl (w : World) : w.Others w := ⟨.refl _, rfl⟩

@[simp] theorem noted_store : (noted w c).2.store = w.store := rfl

@[simp] theorem noted_calls : (noted w c).2.calls = w.calls ++ [c] := rfl

/-- Only the call itself is put on record. -/
theorem eq_of_noted {c' : Call} (h : (noted w c).2.calls = w.calls ++ [c']) : c' = c :=
  (List.singleton_inj.1 (List.append_cancel_left (noted_calls.symm.trans h))).symm

theorem peers_noted (h : w.Peers peers) : (noted w c).2.Peers peers := by
  intro f hf
  obtain ⟨g, hg, hp⟩ := Fault.exists_peer_of_take hf
  exact hp ▸ h g hg

/-- The fault that strikes a call tells other writers only what is allowed. -/
theorem peer_noted (hnil : peers []) (h : w.Peers peers) : peers (noted w c).1.peer := by
  cases ht : (Fault.take c.method c.key w.faults).1 with
  | none => simpa [noted, ht] using hnil
  | some f => simpa [noted, ht] using h f (Fault.mem_of_take ht)

variable {α : Type} {env step : World → World → Prop}
  {post : Answer α → World → Prop} {effect : Fault → World → Answer α × World}

/-- A call is safe if others keep what holds while it waits (`pre`) and what holds at its end
(`post`), and if its note and its effect are safe. -/
theorem call_safe (pre : World → Prop) (hpre : ∀ t u, pre t → env t u → pre u)
    (hpost : ∀ a t u, post a t → env t u → post a u)
    (hnote : step w (noted w c).2 ∧ pre (noted w c).2)
    (hfail : ∀ e t, pre t → post (.error e) t)
    (heffect : ∀ t, pre t → step t (effect (noted w c).1 t).2 ∧
      post (effect (noted w c).1 t).1 (effect (noted w c).1 t).2) :
    (call c effect).Safe env step post w := by
  refine Script.Safe.bind (Script.Safe.modifyGet hnote.1 fun t ht => ?_)
  refine Script.Safe.bind (Script.Safe.sleep fun u hu => ?_)
  have hu : pre u := hpre _ _ (hpre _ _ hnote.2 ht) hu
  show Script.Safe env step post (if _ then _ else _) u
  split
  · exact hfail _ u hu
  · split
    · exact hfail _ u hu
    · refine Script.Safe.bind (Script.Safe.modifyGet (heffect u hu).1 fun x hx => ?_)
      have hx := hpost _ _ _ (heffect u hu).2 hx
      split
      · rename_i he
        rwa [he] at hx
      · rename_i he
        rw [he] at hx
        exact Script.Safe.bind (Script.Safe.sleep fun y hy => hpost _ _ _ hx hy)

end World

end PowerGrant
