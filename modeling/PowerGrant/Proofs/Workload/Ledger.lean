import Mathlib.Data.List.Forall2
import PowerGrant.Proofs.Workload.Contract

/-!
# What a caller hears from a store

A caller reads workloads, creates some, and replaces or deletes what it has read. What it hears back
does not depend on the versions that a store gives, only on when what was read was last written. The
ledger is a store without versions that answers in this way, and every store that abides by the
contract answers as the ledger does.

* `StoreCall`, `StoreReply`, `Dialogue.talk`: what is asked, what is heard, and a sequence of both.
* `Ledger.answer`: the reply that is due. An object that was read stays current until something is
  written under its name.
* `Abides.ask`: one reply. **`Abides.talk`**: all of them, and what the store holds then.
* `Guards`, `Abides.guards`: what was written since it was read cannot be overwritten, and what is
  gone can be deleted.
-/

namespace PowerGrant

variable {σ : Type}

/-! ## Calls and replies -/

/-- What a caller asks of a store. What is to be replaced or deleted is an object that it has read,
given by its place among these, perhaps with another spec. -/
inductive StoreCall where
  | get (name : String)
  | create (name : String) (version : Option String) (spec : Spec)
  | replace (i : Nat) (spec : Spec)
  | delete (i : Nat) (spec : Spec)
  deriving DecidableEq, Repr

/-- The names that a call says are among those served. -/
def StoreCall.Asks (served : String → Prop) : StoreCall → Prop
  | get name | create name _ _ => served name
  | replace _ _ | delete _ _ => True

/-- What a caller hears. -/
inductive StoreReply where
  | absent
  | found (spec : Spec)
  | done
  | conflict (name : String)
  | unavailable
  /-- There is no object in that place. -/
  | unread
  deriving DecidableEq, Repr

namespace StoreReply

/-- What is heard of a failed call. -/
def ofError : ServiceError → StoreReply
  | .conflict name => .conflict name
  | .unavailable _ => .unavailable

/-- What is heard of a write. -/
def ofWrite : Answer Unit → StoreReply
  | .ok () => .done
  | .error e => .ofError e

end StoreReply

/-- What a caller has read and heard so far, the oldest in front. -/
structure Dialogue where
  read : List Workload := []
  replies : List StoreReply := []

namespace Dialogue

/-- The dialogue with one more reply. -/
def hear (d : Dialogue) (reply : StoreReply) : Dialogue :=
  { d with replies := d.replies ++ [reply] }

/-- The dialogue after a workload was asked for. -/
def hearFound (d : Dialogue) : Answer (Option Workload) → Dialogue
  | .ok none => d.hear .absent
  | .ok (some w) => { d with read := d.read ++ [w] }.hear (.found w.spec)
  | .error e => d.hear (.ofError e)

/-- The dialogue after a write of the object in a place. -/
def rewrite (d : Dialogue) (i : Nat) (write : Workload → Script σ (Answer Unit)) :
    Script σ Dialogue :=
  match d.read[i]? with
  | some w => (write w).bind fun a => .done (d.hear (.ofWrite a))
  | none => .done (d.hear .unread)

/-- The dialogue with one more call. -/
def ask (store : WorkloadStore σ) (d : Dialogue) : StoreCall → Script σ Dialogue
  | .get name => (store.get name).bind fun a => .done (d.hearFound a)
  | .create name version spec =>
    (store.create ⟨some name, version, spec⟩).bind fun a => .done (d.hear (.ofWrite a))
  | .replace i spec => d.rewrite i fun w => store.replace { w with spec }
  | .delete i spec => d.rewrite i fun w => store.delete { w with spec }

/-- The dialogue with some more calls, one after the other. -/
def talk (store : WorkloadStore σ) : List StoreCall → Dialogue → Script σ Dialogue
  | [], d => .done d
  | call :: calls, d => (d.ask store call).bind (talk store calls)

theorem talk_append (store : WorkloadStore σ) (calls more : List StoreCall) (d : Dialogue) :
    talk store (calls ++ more) d = (talk store calls d).bind (talk store more) := by
  induction calls generalizing d with
  | nil => rfl
  | cons call calls ih =>
    simp only [List.cons_append, talk, Script.bind_assoc]
    congr 1
    exact funext ih

theorem ends_talk_concat {store : WorkloadStore σ} {calls : List StoreCall} {call : StoreCall}
    {d : Dialogue} {s : σ} {post : Dialogue → σ → Prop} :
    (talk store (calls ++ [call]) d).Ends s post ↔
      (talk store calls d).Ends s fun d t => (d.ask store call).Ends t post := by
  simp only [talk_append, talk, Script.bind_done, Script.ends_bind]

end Dialogue

/-! ## The ledger -/

/-- A store without versions. It knows of each object that was read under which name, and whether
nothing has been written there since. -/
structure Ledger where
  specs : Specs := fun _ => none
  read : List (String × Bool) := []
  replies : List StoreReply := []

namespace Ledger

/-- The ledger with one more reply. -/
def hear (l : Ledger) (reply : StoreReply) : Ledger :=
  { l with replies := l.replies ++ [reply] }

/-- The ledger with something written under a name, or nothing left there. -/
def write (l : Ledger) (name : String) (s : Option Spec) : Ledger where
  specs n := if n = name then s else l.specs n
  read := l.read.map fun e => (e.1, e.2 && e.1 ≠ name)
  replies := l.replies

/-- The ledger after a write of the object in a place, which leaves `s` under its name if the object
is current; `gone` is the reply if there is nothing any more under that name. -/
def rewrite (l : Ledger) (i : Nat) (s : Option Spec) (gone : StoreReply) : Ledger :=
  match l.read[i]? with
  | none => l.hear .unread
  | some (name, current) =>
    match l.specs name with
    | none => l.hear gone
    | some _ => if current then (l.write name s).hear .done else l.hear (.conflict name)

/-- The ledger with one more call. -/
def answer (l : Ledger) : StoreCall → Ledger
  | .get name =>
    match l.specs name with
    | none => l.hear .absent
    | some spec => { l with read := l.read ++ [(name, true)] }.hear (.found spec)
  | .create name _ spec =>
    match l.specs name with
    | none => (l.write name (some spec)).hear .done
    | some _ => l.hear (.conflict name)
  | .replace i spec => l.rewrite i (some spec) .unavailable
  | .delete i _ => l.rewrite i none .done

/-- The ledger after these calls. -/
def after (calls : List StoreCall) : Ledger := calls.foldl answer {}

end Ledger

/-! ## Every store that abides by the contract answers as the ledger does -/

namespace Ledger

variable {view : StoreView σ} {served : String → Prop} {s t : σ} {l : Ledger} {d : Dialogue}
  {w : Workload} {e : String × Bool} {name : String} {content : Option Workload}
  {reply : StoreReply} {i : Nat}

/-- The ledger knows of `w`, which was read: it is current if its version is the stored one. -/
structure Knows (view : StoreView σ) (served : String → Prop) (s : σ) (w : Workload)
    (e : String × Bool) : Prop where
  name : w.key = e.1
  served : served e.1
  version : ∃ v, w.version = some v ∧ view.given s v
  current : e.2 = true ↔ ∃ stored, view.held s e.1 = some stored ∧ stored.version = w.version

/-- The ledger tells what a caller has read and heard, and what the store holds. -/
structure Tells (l : Ledger) (view : StoreView σ) (served : String → Prop) (s : σ)
    (d : Dialogue) : Prop where
  ready : view.ready s
  specs : ∀ name, (view.held s name).map Workload.spec = l.specs name
  read : List.Forall₂ (Knows view served s) d.read l.read
  replies : d.replies = l.replies

theorem Knows.keeps (h : Knows view served s w e) (hk : view.Keeps s t) :
    Knows view served t w e := by
  obtain ⟨v, hv, hg⟩ := h.version
  refine ⟨h.name, h.served, ⟨v, hv, hk.given v hg⟩, ?_⟩
  rw [hk.held]
  exact h.current

/-- What was read under a name has not the version that a write there gives, since that is new. -/
theorem Knows.writes (h : Knows view served s w e) (hw : view.Writes s t name content) :
    Knows view served t w (e.1, e.2 && e.1 ≠ name) := by
  obtain ⟨v, hv, hg⟩ := h.version
  refine ⟨h.name, h.served, ⟨v, hv, hw.given v hg⟩, ?_⟩
  simp only [hw.held]
  by_cases hn : e.1 = name
  · -- no reading under that name is current any more
    suffices ∀ stored, content = some stored → stored.version ≠ w.version by simpa [hn]
    intro stored hs he
    obtain ⟨v', hv', hf⟩ := hw.fresh stored hs
    rw [hv', hv] at he
    exact hf (Option.some.inj he ▸ hg)
  · simpa [hn] using h.current

namespace Tells

theorem hear (h : l.Tells view served s d) (hk : view.Keeps s t) (reply : StoreReply) :
    (l.hear reply).Tells view served t (d.hear reply) where
  ready := hk.ready
  specs name := by rw [hk.held]; exact h.specs name
  read := h.read.imp fun _ _ hw => hw.keeps hk
  replies := congrArg (· ++ [reply]) h.replies

/-- What has just been read is current. -/
theorem hear_found (h : l.Tells view served s d) (hk : view.Keeps s t)
    (hheld : view.held s name = some w) (hkey : w.key = name) (hname : served name)
    (hv : ∃ v, w.version = some v ∧ view.given s v) :
    ({ l with read := l.read ++ [(name, true)] }.hear (.found w.spec)).Tells view served t
      ({ d with read := d.read ++ [w] }.hear (.found w.spec)) := by
  have hnew : Knows view served s w (name, true) :=
    ⟨hkey, hname, hv, iff_of_true rfl ⟨w, hheld, rfl⟩⟩
  refine Tells.hear (d := { d with read := d.read ++ [w] }) ?_ hk _
  exact ⟨h.ready, h.specs, List.rel_append h.read (.cons hnew .nil), h.replies⟩

theorem hear_write (h : l.Tells view served s d) (hw : view.Writes s t name content)
    (reply : StoreReply) :
    ((l.write name (content.map Workload.spec)).hear reply).Tells view served t
      (d.hear reply) where
  ready := hw.ready
  specs n := by
    rw [hw.held]
    simp only [Ledger.hear, write]
    split
    · rfl
    · exact h.specs n
  read := List.forall₂_map_right_iff.2 (h.read.imp fun _ _ hk => hk.writes hw)
  replies := congrArg (· ++ [reply]) h.replies

/-- What the ledger knows of the object in a place. -/
theorem read_at (h : l.Tells view served s d) (he : l.read[i]? = some e) :
    ∃ w, d.read[i]? = some w ∧ Knows view served s w e := by
  obtain ⟨hi, rfl⟩ := List.getElem?_eq_some_iff.1 he
  have hd : i < d.read.length := h.read.length_eq ▸ hi
  exact ⟨d.read[i], List.getElem?_eq_getElem hd, h.read.get hd hi⟩

theorem not_read (h : l.Tells view served s d) (he : l.read[i]? = none) : d.read[i]? = none := by
  rw [List.getElem?_eq_none_iff] at he ⊢
  rwa [h.read.length_eq]

/-! ### Writes of what was read -/

variable {write : Workload → Script σ (Answer Unit)} {gone : Answer Unit → Prop}
  {effect : σ → σ → Workload → Prop} {current : Bool} {spec : Spec} {left : Option Spec}

theorem rewrite_gone (h : l.Tells view served s d)
    (hc : WorkloadStore.Conditional view served write gone effect)
    (he : l.read[i]? = some (name, current)) (hname : l.specs name = none) :
    (d.rewrite i fun w => write { w with spec }).Ends s fun d' t =>
      (∃ a, gone a ∧ d' = d.hear (.ofWrite a)) ∧ view.Keeps s t := by
  obtain ⟨w, hw, hk⟩ := h.read_at he
  obtain ⟨v, hv, -⟩ := hk.version
  have hkey : w.key = name := hk.name
  rw [← h.specs, Option.map_eq_none_iff, ← hkey] at hname
  rw [Dialogue.rewrite, hw, Script.ends_bind_done]
  exact (hc.gone (w := { w with spec }) h.ready (hk.name ▸ hk.served) hv hname).mono
    fun a t ha => ⟨⟨a, ha.1, rfl⟩, ha.2⟩

/-- What was written since it was read is left alone. -/
theorem rewrite_stale (h : l.Tells view served s d)
    (hc : WorkloadStore.Conditional view served write gone effect)
    (he : l.read[i]? = some (name, false)) (hname : l.specs name ≠ none) :
    (d.rewrite i fun w => write { w with spec }).Ends s fun d' t =>
      d' = d.hear (.conflict name) ∧ view.Keeps s t := by
  obtain ⟨w, hw, hk⟩ := h.read_at he
  obtain ⟨v, hv, -⟩ := hk.version
  rw [← h.specs, ne_eq, Option.map_eq_none_iff] at hname
  obtain ⟨stored, hs⟩ := Option.ne_none_iff_exists'.1 hname
  have hne : stored.version ≠ w.version := fun hver => nomatch hk.current.2 ⟨stored, hs, hver⟩
  have hkey : w.key = name := hk.name
  rw [← hkey] at hs
  rw [Dialogue.rewrite, hw, Script.ends_bind_done]
  refine (hc.stale (w := { w with spec }) h.ready (hk.name ▸ hk.served) hv hs hne).mono ?_
  rintro a t ⟨rfl, ht⟩
  exact ⟨hkey ▸ rfl, ht⟩

theorem rewrite_current (h : l.Tells view served s d)
    (hc : WorkloadStore.Conditional view served write gone effect)
    (he : l.read[i]? = some (name, true)) :
    (d.rewrite i fun w => write { w with spec }).Ends s fun d' t =>
      d' = d.hear .done ∧ ∃ w : Workload, w.key = name ∧ effect s t { w with spec } := by
  obtain ⟨w, hw, hk⟩ := h.read_at he
  obtain ⟨v, hv, -⟩ := hk.version
  obtain ⟨stored, hs, hver⟩ := hk.current.1 rfl
  rw [← hk.name] at hs
  rw [Dialogue.rewrite, hw, Script.ends_bind_done]
  refine (hc.current (w := { w with spec }) h.ready (hk.name ▸ hk.served) hv hs hver).mono ?_
  rintro a t ⟨rfl, ht⟩
  exact ⟨rfl, w, hk.name, ht⟩

/-- A write of what was read is heard as the ledger says, if it leaves `left` under the name. -/
theorem rewrite (h : l.Tells view served s d)
    (hc : WorkloadStore.Conditional view served write gone effect)
    (hgone : ∀ a, gone a → StoreReply.ofWrite a = reply)
    (hleft : ∀ (w : Workload) t, effect s t { w with spec } →
      ∃ content, content.map Workload.spec = left ∧ view.Writes s t w.key content) :
    (d.rewrite i fun w => write { w with spec }).Ends s fun d' t =>
      (l.rewrite i left reply).Tells view served t d' := by
  unfold Ledger.rewrite
  split
  · rename_i hnone
    rw [Dialogue.rewrite, h.not_read hnone]
    exact h.hear ⟨h.ready, fun _ hg => hg, rfl⟩ _
  · rename_i name current he
    split
    · rename_i hname
      refine (h.rewrite_gone hc he hname).mono ?_
      rintro _ t ⟨⟨a, ha, rfl⟩, ht⟩
      rw [hgone a ha]
      exact h.hear ht _
    · rename_i hname
      -- what is current in the ledger has the version that the store holds
      cases current with
      | false =>
        refine (h.rewrite_stale hc he (by simp [hname])).mono ?_
        rintro _ t ⟨rfl, ht⟩
        exact h.hear ht _
      | true =>
        refine (h.rewrite_current hc he).mono ?_
        rintro _ t ⟨rfl, w, rfl, ht⟩
        obtain ⟨content, rfl, hw⟩ := hleft w t ht
        exact h.hear_write hw _

end Tells

end Ledger

namespace WorkloadStore.Abides

variable {store : WorkloadStore σ} {view : StoreView σ} {served : String → Prop} {s : σ}
  {l : Ledger} {d : Dialogue} {call : StoreCall} {calls : List StoreCall}

/-- A call is answered as the ledger says, and leaves in the store what the ledger says. -/
theorem ask (h : store.Abides view served) (hl : l.Tells view served s d)
    (hcall : call.Asks served) :
    (d.ask store call).Ends s fun d' t => (l.answer call).Tells view served t d' := by
  cases call with
  | get name =>
    have hspec := hl.specs name
    rw [Dialogue.ask, Script.ends_bind_done]
    refine (h.get hl.ready hcall).mono ?_
    rintro _ t ⟨rfl, ht⟩
    cases hw : view.held s name with
    | none =>
      rw [hw, Option.map_none] at hspec
      simp only [Ledger.answer, ← hspec, Dialogue.hearFound]
      exact hl.hear ht _
    | some w =>
      rw [hw, Option.map_some] at hspec
      simp only [Ledger.answer, ← hspec, Dialogue.hearFound]
      exact hl.hear_found ht hw (h.key hw) hcall (h.version hw)
  | create name version spec =>
    have hspec := hl.specs name
    rw [Dialogue.ask, Script.ends_bind_done]
    cases hw : view.held s name with
    | none =>
      rw [hw, Option.map_none] at hspec
      refine (h.create_free (w := ⟨some name, version, spec⟩) hl.ready hcall hw).mono ?_
      rintro _ t ⟨rfl, stored, rfl, ht⟩
      simp only [Ledger.answer, ← hspec]
      exact hl.hear_write ht _
    | some w =>
      rw [hw, Option.map_some] at hspec
      have hne : view.held s name ≠ none := by simp [hw]
      refine (h.create_taken (w := ⟨some name, version, spec⟩) hl.ready hcall hne).mono ?_
      rintro _ t ⟨rfl, ht⟩
      simp only [Ledger.answer, ← hspec]
      exact hl.hear ht _
  | replace i spec =>
    refine hl.rewrite h.replace ?_ fun w t ht => ?_
    · rintro _ ⟨why, rfl⟩
      rfl
    · obtain ⟨stored, hspec, ht⟩ := ht
      exact ⟨some stored, congrArg some hspec, ht⟩
  | delete i spec =>
    refine hl.rewrite h.delete ?_ fun w t ht => ⟨none, rfl, ht⟩
    rintro _ rfl
    rfl

/-- A dialogue goes as the ledger says. -/
theorem talk (h : store.Abides view served) (hl : l.Tells view served s d)
    (hcalls : ∀ call ∈ calls, call.Asks served) :
    (Dialogue.talk store calls d).Ends s fun d' t =>
      (calls.foldl Ledger.answer l).Tells view served t d' := by
  induction calls generalizing l d s with
  | nil => exact hl
  | cons call calls ih =>
    obtain ⟨hcall, hcalls⟩ := List.forall_mem_cons.1 hcalls
    rw [Dialogue.talk, Script.ends_bind]
    exact (h.ask hl hcall).mono fun d' t ht => ih ht hcalls

/-- A dialogue with an empty store goes as the ledger says. -/
theorem tells (h : store.Abides view served) (hs : view.ready s)
    (hnone : ∀ name, view.held s name = none) (hcalls : ∀ call ∈ calls, call.Asks served) :
    (Dialogue.talk store calls {}).Ends s fun d t =>
      (Ledger.after calls).Tells view served t d := by
  refine h.talk ⟨hs, fun name => ?_, .nil, rfl⟩ hcalls
  rw [hnone]
  rfl

end WorkloadStore.Abides

/-! ## What was written since it was read -/

/-- After `calls` from `s`, an object that was read before the last write under its name cannot be
written any more while there is something under that name, and it can be deleted once there is
nothing. Neither changes anything. -/
structure WorkloadStore.Guards (store : WorkloadStore σ) (view : StoreView σ) (s : σ)
    (calls : List StoreCall) : Prop where
  stale : ∀ {i name spec call}, (Ledger.after calls).read[i]? = some (name, false) →
    view.held ((Dialogue.talk store calls {}).run s).state name ≠ none →
    call = .replace i spec ∨ call = .delete i spec →
    (Dialogue.talk store (calls ++ [call]) {}).Ends s fun d t =>
      d.replies = ((Dialogue.talk store calls {}).run s).value.replies ++ [.conflict name] ∧
        view.held t = view.held ((Dialogue.talk store calls {}).run s).state
  gone : ∀ {i name current spec}, (Ledger.after calls).read[i]? = some (name, current) →
    view.held ((Dialogue.talk store calls {}).run s).state name = none →
    (Dialogue.talk store (calls ++ [.delete i spec]) {}).Ends s fun d t =>
      d.replies = ((Dialogue.talk store calls {}).run s).value.replies ++ [.done] ∧
        view.held t = view.held ((Dialogue.talk store calls {}).run s).state

theorem WorkloadStore.Abides.guards {store : WorkloadStore σ} {view : StoreView σ}
    {served : String → Prop} {s : σ} {calls : List StoreCall} (h : store.Abides view served)
    (hs : view.ready s) (hnone : ∀ name, view.held s name = none)
    (hcalls : ∀ call ∈ calls, call.Asks served) : store.Guards view s calls := by
  have hl := h.tells hs hnone hcalls
  refine ⟨fun {i name spec call} he hname hcall => ?_, fun {i name current spec} he hname => ?_⟩
  · rw [Dialogue.ends_talk_concat, Script.Ends]
    have hspec : (Ledger.after calls).specs name ≠ none := by
      rwa [← hl.specs, ne_eq, Option.map_eq_none_iff]
    rcases hcall with rfl | rfl
    · refine (hl.rewrite_stale h.replace he hspec).mono ?_
      rintro _ t ⟨rfl, ht⟩
      exact ⟨rfl, ht.held⟩
    · refine (hl.rewrite_stale h.delete he hspec).mono ?_
      rintro _ t ⟨rfl, ht⟩
      exact ⟨rfl, ht.held⟩
  · rw [Dialogue.ends_talk_concat, Script.Ends]
    have hspec : (Ledger.after calls).specs name = none := by
      rw [← hl.specs, hname, Option.map_none]
    refine (hl.rewrite_gone h.delete he hspec).mono ?_
    rintro _ t ⟨⟨_, rfl, rfl⟩, ht⟩
    exact ⟨rfl, ht.held⟩

end PowerGrant
