import PowerGrant.Proofs.World.CallByCall
import PowerGrant.Proofs.World.Update

/-!
# The records that a script writes

A call to the store is about the record of one name, and so is what other writers are told to do
while it is under way.

* `World.SameBut`: two worlds have the same records but for those of some names.
* `World.WritesOnly`: each step of a script, whatever others do in between, leaves all other records
  as they are. `WritesOnly.add`, `WritesOnly.remove`: an update changes the record of its profile.
-/

namespace PowerGrant

/-- A write of another writer to a workload leaves the others as they are. -/
theorem PeerWrite.find?_foldl_apply {name n : String} (hn : n ≠ name) (writes : List PeerWrite)
    (v : Versioned) : (writes.foldl (PeerWrite.apply name) v).find? n = v.find? n := by
  induction writes generalizing v with
  | nil => rfl
  | cons write writes ih =>
    refine (ih _).trans ?_
    cases write with
    | merge node cpus =>
      simp only [apply, Versioned.mergeInto]
      split
      · rfl
      · rename_i w hw
        rw [Versioned.find?_put, if_neg]
        exact fun h => hn (h.trans (show w.key = name from v.named _ _ hw))
    | delete => rw [apply, Versioned.find?_erase, if_neg hn]
    | put spec =>
      rw [apply, Versioned.find?_put, if_neg]
      exact hn

namespace Versioned

variable {v v' : Versioned} {w : Workload} {n : String}

/-! ## Writes that succeed leave other records alone -/

theorem find?_of_create (h : v.create w = .ok v') (hn : n ≠ w.key) : v'.find? n = v.find? n := by
  unfold create at h
  split at h
  · cases h
  · rw [← Except.ok.inj h, find?_put, if_neg hn]

theorem find?_of_replace (h : v.replace w = .ok v') (hn : n ≠ w.key) :
    v'.find? n = v.find? n := by
  unfold replace at h
  split at h
  · cases h
  · split at h
    · rw [← Except.ok.inj h, find?_put, if_neg hn]
    · cases h

theorem find?_of_delete (h : v.delete w = .ok v') (hn : n ≠ w.key) : v'.find? n = v.find? n := by
  unfold delete at h
  split at h
  · rw [← Except.ok.inj h]
  · split at h
    · rw [← Except.ok.inj h, find?_erase, if_neg hn]
    · cases h

end Versioned

namespace World

/-- All records but those of `names` are the same in both worlds. -/
def SameBut (names : String → Prop) (t u : World) : Prop :=
  ∀ name, ¬ names name → u.store.find? name = t.store.find? name

/-- Whatever others do, the script's own steps change no records but those of `names`. -/
def WritesOnly {α : Type} (names : String → Prop) (x : Script World α) : Prop :=
  ∀ w, x.Safe (fun _ _ => True) (SameBut names) (fun _ _ => True) w

variable {names names' : String → Prop} {t u v : World} {name profile node : String}
  {cpus : List CpuId} {r : Retry} {limit : Nat}

theorem SameBut.of_store (h : u.store = t.store) : t.SameBut names u := fun _ _ => by rw [h]

theorem SameBut.trans (h : t.SameBut names u) (h' : u.SameBut names v) : t.SameBut names v :=
  fun name hn => (h' name hn).trans (h name hn)

theorem SameBut.mono (h : t.SameBut names u) (hn : ∀ n, names n → names' n) :
    t.SameBut names' u := fun name hno => h name (mt (hn name) hno)

namespace WritesOnly

variable {α β : Type} {x : Script World α}

theorem done (a : α) : WritesOnly names (.done a) := fun _ => trivial

theorem bind {f : α → Script World β} (h : WritesOnly names x) (hf : ∀ a, WritesOnly names (f a)) :
    WritesOnly names (x.bind f) :=
  fun w => (h w).seq fun a t _ => hf a t

/-- A call whose effect changes records of `names` only. -/
theorem call {c : Call} {effect : Fault → World → Answer α × World}
    (h : ∀ f (t : World), t.SameBut names (effect f t).2) :
    WritesOnly names (World.call c effect) :=
  fun _ => call_safe (fun _ => True) (fun _ _ _ _ => trivial) (fun _ _ _ _ _ => trivial)
    ⟨.of_store rfl, trivial⟩ (fun _ _ _ => trivial) fun t _ => ⟨h _ t, trivial⟩

/-- A call with the effect of a write that changes one record if it succeeds. -/
theorem write {c : Call} {f : Versioned → Except ServiceError Versioned}
    (h : ∀ v v', f v = .ok v' → ∀ n, n ≠ name → v'.find? n = v.find? n) :
    WritesOnly (· = name) (World.call c (World.write f)) := by
  refine call fun fault t => ?_
  unfold World.write
  split
  · exact h _ _ ‹_›
  · exact .of_store rfl

theorem bounded {x : Script World (Answer α)} (h : WritesOnly names x) :
    WritesOnly names (bounded limit x) := by
  refine fun w => ((h w).within limit (fun _ => True) (fun _ _ _ => trivial)
    (fun _ _ _ _ => trivial) fun _ => trivial).seq fun o t _ => ?_
  match o with
  | some (.ok _) | some (.error _) | none => trivial

/-! ## Writes -/

variable {stored : Workload}

theorem create (hk : stored.key = name) : WritesOnly (· = name) (workloads.create stored) :=
  write fun _ _ h _ hn => Versioned.find?_of_create h (hk ▸ hn)

theorem replace (hk : stored.key = name) : WritesOnly (· = name) (workloads.replace stored) :=
  write fun _ _ h _ hn => Versioned.find?_of_replace h (hk ▸ hn)

theorem delete (hk : stored.key = name) : WritesOnly (· = name) (workloads.delete stored) :=
  write fun _ _ h _ hn => Versioned.find?_of_delete h (hk ▸ hn)

/-! ## Updates -/

/-- What is found under a name is written back under it. -/
theorem get_bind {f : Answer (Option Workload) → Script World β}
    (hnone : WritesOnly (· = name) (f (.ok none)))
    (hsome : ∀ w : Workload, w.key = name → WritesOnly (· = name) (f (.ok (some w))))
    (herror : ∀ e, WritesOnly (· = name) (f (.error e))) :
    WritesOnly (· = name) ((workloads.get name).bind f) := by
  have hfound : ∀ w, (workloads.get name).Safe (fun _ _ => True) (SameBut (· = name))
      (fun a _ => ∀ found, a = .ok (some found) → found.key = name) w := fun w =>
    call_safe (fun _ => True) (fun _ _ _ _ => trivial) (fun _ _ _ h _ => h)
      ⟨.of_store rfl, trivial⟩ (fun _ _ _ _ h => nomatch h) fun t _ =>
        ⟨fun n hn => PeerWrite.find?_foldl_apply hn _ t.store,
          fun found h => t.store.named _ _ (Except.ok.inj h)⟩
  refine fun w => (hfound w).seq fun a t ha => ?_
  match a with
  | .error e => exact herror e t
  | .ok none => exact hnone t
  | .ok (some found) => exact hsome found (ha found rfl) t

theorem wait (ms : Nat) (h : WritesOnly names x) : WritesOnly names (.wait ms x) := fun _ t _ => h t

theorem callByCall (name : String) : CallByCall name (WritesOnly (· = name)) :=
  ⟨done, wait, bind, get_bind, create, replace, delete⟩

theorem add : WritesOnly (· = workloadName profile) (workloads.add r profile node cpus) :=
  (callByCall _).add r node cpus

theorem remove : WritesOnly (· = workloadName profile) (workloads.remove r profile node cpus) :=
  (callByCall _).remove r node cpus

end WritesOnly

end World

end PowerGrant
