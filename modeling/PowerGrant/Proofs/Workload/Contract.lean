import PowerGrant.Proofs.Workload.Versions
import PowerGrant.StandIn

/-!
# The contract of a workload store

What a store promises to a caller whom nobody else disturbs: it gives a version to what it stores,
never the same again, and takes a write only with the version that it holds.

* `Script.Ends`: how a script ends that is carried out undisturbed.
* `StoreView`: how a store's state is looked at. `Keeps`, `Writes`, `Stores`: what may happen to it.
* `WorkloadStore.Conditional`: a write that takes effect only on the version that it carries.
  `WorkloadStore.Abides`: the contract.
* `StoreView.ofVersioned`: the view of a store that numbers its writes.
* **`StandIn.abides`**: the stand-in abides by the contract.
-/

namespace PowerGrant

variable {σ : Type}

namespace Script

variable {α β : Type} {x : Script σ α} {s : σ}

/-- A script that is carried out from `s` ends with a value and in a state as `post` says. -/
def Ends (x : Script σ α) (s : σ) (post : α → σ → Prop) : Prop :=
  post (x.run s).value (x.run s).state

theorem ends_bind {f : α → Script σ β} {post : β → σ → Prop} :
    (x.bind f).Ends s post ↔ x.Ends s fun a t => (f a).Ends t post := by
  simp [Ends, run_bind]

theorem ends_bind_done {f : α → β} {post : β → σ → Prop} :
    (x.bind fun a => .done (f a)).Ends s post ↔ x.Ends s fun a t => post (f a) t := ends_bind

theorem ends_modifyGet {f : σ → α × σ} {post : α → σ → Prop} :
    (modifyGet f).Ends s post ↔ post (f s).1 (f s).2 := Iff.rfl

theorem Ends.mono {post post' : α → σ → Prop} (h : x.Ends s post)
    (hp : ∀ a t, post a t → post' a t) : x.Ends s post' := hp _ _ h

end Script

/-! ## The contract of a store -/

/-- How a store's state is looked at. -/
structure StoreView (σ : Type) where
  /-- The store is up, and nobody else writes to it. -/
  ready : σ → Prop
  held : σ → String → Option Workload
  /-- The versions that something stored had at some time. -/
  given : σ → String → Prop

namespace StoreView

/-- Nothing is written between two states. -/
structure Keeps (view : StoreView σ) (s t : σ) : Prop where
  ready : view.ready t
  given : ∀ v, view.given s v → view.given t v
  held : view.held t = view.held s

/-- Between two states `content` is written under a name, with a version never given before, or what
is there goes away. -/
structure Writes (view : StoreView σ) (s t : σ) (name : String) (content : Option Workload) :
    Prop where
  ready : view.ready t
  given : ∀ v, view.given s v → view.given t v
  held : ∀ n, view.held t n = if n = name then content else view.held s n
  fresh : ∀ w, content = some w → ∃ v, w.version = some v ∧ ¬ view.given s v

/-- Between two states the spec of `w` is written under its name, with a version of the store's
choice. -/
def Stores (view : StoreView σ) (s t : σ) (w : Workload) : Prop :=
  ∃ stored : Workload, stored.spec = w.spec ∧ view.Writes s t w.key (some stored)

end StoreView

namespace WorkloadStore

variable (view : StoreView σ) (served : String → Prop)

/-- A write that takes effect only on the version that it carries: `effect` says what it does then,
and `gone` what it answers if there is nothing under the name. -/
structure Conditional (write : Workload → Script σ (Answer Unit)) (gone : Answer Unit → Prop)
    (effect : σ → σ → Workload → Prop) : Prop where
  gone : ∀ {s w v}, view.ready s → served w.key → w.version = some v →
    view.held s w.key = none →
    (write w).Ends s fun a t => gone a ∧ view.Keeps s t
  stale : ∀ {s w v stored}, view.ready s → served w.key → w.version = some v →
    view.held s w.key = some stored → stored.version ≠ w.version →
    (write w).Ends s fun a t => a = .error (.conflict w.key) ∧ view.Keeps s t
  current : ∀ {s w v stored}, view.ready s → served w.key → w.version = some v →
    view.held s w.key = some stored → stored.version = w.version →
    (write w).Ends s fun a t => a = .ok () ∧ effect s t w

/-- The contract of a store, as far as the names that it serves. -/
structure Abides (store : WorkloadStore σ) : Prop where
  key : ∀ {s name w}, view.held s name = some w → w.key = name
  version : ∀ {s name w}, view.held s name = some w → ∃ v, w.version = some v ∧ view.given s v
  get : ∀ {s name}, view.ready s → served name →
    (store.get name).Ends s fun a t => a = .ok (view.held s name) ∧ view.Keeps s t
  create_taken : ∀ {s w}, view.ready s → served w.key → view.held s w.key ≠ none →
    (store.create w).Ends s fun a t => a = .error (.conflict w.key) ∧ view.Keeps s t
  create_free : ∀ {s w}, view.ready s → served w.key → view.held s w.key = none →
    (store.create w).Ends s fun a t => a = .ok () ∧ view.Stores s t w
  replace : Conditional view served store.replace (fun a => ∃ why, a = .error (.unavailable why))
    view.Stores
  delete : Conditional view served store.delete (· = .ok ()) fun s t w => view.Writes s t w.key none

end WorkloadStore

/-! ## Stores that number their writes -/

namespace StoreView

/-- The view of a store that numbers its writes. -/
def ofVersioned (ready : σ → Prop) (store : σ → Versioned) : StoreView σ where
  ready := ready
  held s := (store s).find?
  given s v := ∃ n, n ≤ (store s).counter ∧ v = toString n

variable {ready : σ → Prop} {store : σ → Versioned} {s t : σ} {name : String} {w : Workload}

theorem ofVersioned_key (h : (ofVersioned ready store).held s name = some w) : w.key = name :=
  (store s).named name w h

theorem ofVersioned_version (h : (ofVersioned ready store).held s name = some w) :
    ∃ v, w.version = some v ∧ (ofVersioned ready store).given s v := by
  obtain ⟨n, hn, hv⟩ := (store s).numbered name w h
  exact ⟨_, hv, n, hn, rfl⟩

theorem ofVersioned_keeps (ht : ready t) (h : store t = store s) :
    (ofVersioned ready store).Keeps s t where
  ready := ht
  given v hv := by simpa only [ofVersioned, h] using hv
  held := by simp only [ofVersioned, h]

/-- The next number is no version that was given before. -/
theorem ofVersioned_stores (ht : ready t) (h : store t = (store s).put w) :
    (ofVersioned ready store).Stores s t w := by
  refine ⟨{ w with version := some (toString ((store s).counter + 1)) }, rfl, ht, ?_,
    fun n => ?_, ?_⟩
  · rintro v ⟨n, hn, rfl⟩
    have hc : (store t).counter = (store s).counter + 1 := by rw [h]; rfl
    exact ⟨n, by omega, rfl⟩
  · simp only [ofVersioned, h, Versioned.find?_put]
  · rintro u hu
    obtain rfl := Option.some.inj hu
    refine ⟨_, rfl, ?_⟩
    rintro ⟨n, hn, he⟩
    have := Versioned.toString_injective he
    omega

/-- Only the name and the spec of what is stored count. -/
theorem Stores.congr {view : StoreView σ} {u : Workload} (h : view.Stores s t u)
    (hkey : u.key = w.key) (hspec : u.spec = w.spec) : view.Stores s t w := by
  obtain ⟨stored, hs, hw⟩ := h
  exact ⟨stored, hs.trans hspec, hkey ▸ hw⟩

theorem ofVersioned_drops (ht : ready t) (h : store t = (store s).erase name) :
    (ofVersioned ready store).Writes s t name none where
  ready := ht
  given v hv := by
    simp only [ofVersioned, h]
    exact hv
  held n := by simp only [ofVersioned, h, Versioned.find?_erase]
  fresh _ hu := nomatch hu

end StoreView

/-! ## The stand-in -/

namespace StandIn

/-- The stand-in while it is not switched to failing and no other writer waits. -/
def view : StoreView StandIn :=
  .ofVersioned (fun s => s.workloadsFail = false ∧ s.pending = []) store

variable {s : StandIn} {name : String} {w : Workload}

theorem read_eq (h : view.ready s) : read name s = (.ok (view.held s name), s) := by
  obtain ⟨hf, hp⟩ := h
  simp [read, hf, hp, takePending, view, StoreView.ofVersioned]

/-! ### Writes that take effect, and others -/

section Writes

variable {f : Versioned → Except ServiceError Versioned} {e : ServiceError} {counts : Bool}

theorem write_stores (h : view.ready s) (hf : f s.store = .ok (s.store.put w)) :
    (write counts f s).1 = .ok () ∧ view.Stores s (write counts f s).2 w := by
  simp only [write, h.1, hf, Bool.false_eq_true, ↓reduceIte]
  exact ⟨trivial, StoreView.ofVersioned_stores ⟨rfl, h.2⟩ rfl⟩

theorem write_drops (h : view.ready s) (hf : f s.store = .ok (s.store.erase name)) :
    (write counts f s).1 = .ok () ∧ view.Writes s (write counts f s).2 name none := by
  simp only [write, h.1, hf, Bool.false_eq_true, ↓reduceIte]
  exact ⟨trivial, StoreView.ofVersioned_drops ⟨rfl, h.2⟩ rfl⟩

theorem write_nothing (h : view.ready s) (hf : f s.store = .ok s.store) :
    (write counts f s).1 = .ok () ∧ view.Keeps s (write counts f s).2 := by
  simp only [write, h.1, hf, Bool.false_eq_true, ↓reduceIte]
  exact ⟨trivial, StoreView.ofVersioned_keeps ⟨rfl, h.2⟩ rfl⟩

theorem write_error (h : view.ready s) (hf : f s.store = .error e) :
    (write counts f s).1 = .error e ∧ view.Keeps s (write counts f s).2 := by
  cases e with
  | conflict name =>
    simp only [write, h.1, hf, Bool.false_eq_true, ↓reduceIte]
    exact ⟨trivial, StoreView.ofVersioned_keeps ⟨rfl, h.2⟩ rfl⟩
  | unavailable why =>
    simp only [write, h.1, hf, Bool.false_eq_true, ↓reduceIte]
    exact ⟨trivial, StoreView.ofVersioned_keeps h rfl⟩

end Writes

/-- The stand-in abides by the contract of a store, whatever the names. -/
theorem abides : workloads.Abides view fun _ => True where
  key := StoreView.ofVersioned_key
  version := StoreView.ofVersioned_version
  get {s name} hs _ := by
    rw [workloads, Script.ends_modifyGet, read_eq hs]
    exact ⟨rfl, StoreView.ofVersioned_keeps hs rfl⟩
  create_taken {s w} hs _ hw := by
    obtain ⟨stored, hw⟩ := Option.ne_none_iff_exists'.1 hw
    replace hw : s.store.find? w.key = some stored := hw
    exact write_error hs (by simp only [Versioned.create, hw])
  create_free {s w} hs _ hw := by
    replace hw : s.store.find? w.key = none := hw
    exact write_stores hs (by simp only [Versioned.create, hw])
  replace := by
    refine ⟨fun {s w v} hs _ _ hw => ?_, fun {s w v stored} hs _ _ hw hne => ?_,
      fun {s w v stored} hs _ _ hw he => ?_⟩
    · replace hw : s.store.find? w.key = none := hw
      have hf : s.store.replace w = .error (.unavailable s!"{w.key} not found") := by
        simp only [Versioned.replace, hw]
      exact (write_error (f := (·.replace w)) hs hf).imp_left fun ha => ⟨_, ha⟩
    · replace hw : s.store.find? w.key = some stored := hw
      exact write_error hs (by simp only [Versioned.replace, hw, hne, ↓reduceIte])
    · replace hw : s.store.find? w.key = some stored := hw
      exact write_stores hs (by simp only [Versioned.replace, hw, he, ↓reduceIte])
  delete := by
    refine ⟨fun {s w v} hs _ _ hw => ?_, fun {s w v stored} hs _ _ hw hne => ?_,
      fun {s w v stored} hs _ _ hw he => ?_⟩
    · replace hw : s.store.find? w.key = none := hw
      exact write_nothing hs (by simp only [Versioned.delete, hw])
    · replace hw : s.store.find? w.key = some stored := hw
      exact write_error hs (by simp only [Versioned.delete, hw, hne, ↓reduceIte])
    · replace hw : s.store.find? w.key = some stored := hw
      exact write_drops hs (by simp only [Versioned.delete, hw, he, ↓reduceIte])

end StandIn

end PowerGrant
