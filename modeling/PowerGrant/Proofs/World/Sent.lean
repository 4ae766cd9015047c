import PowerGrant.Proofs.World.Writes
import PowerGrant.Reconcile.Basic

/-!
# Records sent to the store

A record that is sent to the store was made of what had been read right before. These are the CPUs
that it may list beside those that were read.

* `World.Sends`: a step that sends a record. `World.SentOnly`: steps that send only records in which
  whatever is new is allowed after the steps before.
* `World.get_steps`, `World.write_steps`: the steps of a read and of a write.
* `World.addOnce_sends`, `World.removeOnce_sends`: an attempt to add CPUs sends those CPUs, and an
  attempt to remove some sends none that is new.
* `World.SendsOnly`: the same of a whole script. It holds of scripts one after the other, of one
  that is cut off (`SendsOnly.bounded`), and of the changes of a phase (`SendsOnly.changeEach`).
-/

namespace PowerGrant.World

/-- A step in which a script sends a record to the store, to create it or to replace one. -/
def Sends (t u : World) (record : Workload) : Prop :=
  ∃ c : Call, u.calls = t.calls ++ [c] ∧
    (c.method = .createWorkload ∨ c.method = .replaceWorkload) ∧ c.detail = .record record

/-- The last of the steps read the workload `name`, and `found` is what it found. -/
def ReadLast (name : String) (found : Option Workload) (steps : List (World × World)) : Prop :=
  ∃ before t u, steps = before ++ [(t, u)] ∧ t.Reading name ∧ u.calls = t.calls ∧
    t.store.find? name = found

/-- Every record sent in the steps is that of a profile, was made of what had been read of it right
before, and what it lists beside that is `allowed` after the steps before. -/
def SentOnly (allowed : List (World × World) → (profile node : String) → CpuId → Prop)
    (steps : List (World × World)) : Prop :=
  ∀ before t u after record, steps = before ++ (t, u) :: after → Sends t u record →
    ∃ profile found, record.key = workloadName profile ∧
      ReadLast (workloadName profile) found before ∧
      ∀ node cpu, NodeEntry.Listed record.spec.nodes node cpu →
        ¬ Spec.Listed (found.map Workload.spec) node cpu → allowed before profile node cpu

/-- No record is sent in the steps. -/
def Unsent (steps : List (World × World)) : Prop := ∀ e ∈ steps, ∀ record, ¬ Sends e.1 e.2 record

variable {w t u : World} {c : Call} {name profile node : String} {cpus : List CpuId} {r : Retry}
  {steps before later : List (World × World)} {record : Workload} {found : Option Workload}
  {allowed allowed' : List (World × World) → String → String → CpuId → Prop}

/-! ## Steps one after the other -/

theorem not_sends_of_calls (h : u.calls = t.calls) : ¬ Sends t u record := by
  rintro ⟨c, hc, -⟩
  simp [h] at hc

/-- The record that is sent with a call. -/
theorem sends_noted (h : Sends w (noted w c).2 record) :
    (c.method = .createWorkload ∨ c.method = .replaceWorkload) ∧ c.detail = .record record := by
  obtain ⟨c', hc, hm⟩ := h
  exact eq_of_noted hc ▸ hm

theorem unsent_nil : Unsent [] := fun _ h => nomatch h

theorem Unsent.append (h : Unsent steps) (h' : Unsent later) : Unsent (steps ++ later) :=
  fun e he => (List.mem_append.1 he).elim (h e) (h' e)

theorem Unsent.of_append (h : Unsent (steps ++ later)) : Unsent steps :=
  fun e he => h e (List.mem_append_left _ he)

/-- A call that sends nothing, up to its effect at most. -/
theorem unsent_noted (hc : c.method ≠ .createWorkload ∧ c.method ≠ .replaceWorkload) :
    Unsent [(w, (noted w c).2)] := by
  intro e he record hs
  rw [List.mem_singleton.1 he] at hs
  exact (sends_noted hs).1.elim hc.1 hc.2

theorem unsent_effect (h : u.calls = t.calls) : Unsent [(t, u)] := by
  intro e he record hs
  rw [List.mem_singleton.1 he] at hs
  exact not_sends_of_calls h hs

/-- A step among steps and later ones is one of either. -/
theorem split_append {e : World × World} {after : List (World × World)}
    (h : steps ++ later = before ++ e :: after) :
    (∃ rest, steps = before ++ e :: rest) ∨
      ∃ first, before = steps ++ first ∧ later = first ++ e :: after := by
  rcases List.append_eq_append_iff.1 h with ⟨first, hb, hl⟩ | ⟨rest, hs, hr⟩
  · exact .inr ⟨first, hb, hl⟩
  · cases rest with
    | nil => exact .inr ⟨[], by simpa using hs.symm, by simpa using hr.symm⟩
    | cons x xs =>
      obtain ⟨rfl, -⟩ := List.cons.inj hr
      exact .inl ⟨xs, hs⟩

theorem ReadLast.append (h : ReadLast name found before) :
    ReadLast name found (steps ++ before) := by
  obtain ⟨first, t, u, rfl, hr⟩ := h
  exact ⟨steps ++ first, t, u, (List.append_assoc _ _ _).symm, hr⟩

namespace SentOnly

theorem of_unsent (h : Unsent steps) : SentOnly allowed steps :=
  fun _ t u _ record hs hsend => absurd hsend (h (t, u) (by simp [hs]) record)

theorem append (h : SentOnly allowed steps)
    (h' : SentOnly (fun before => allowed (steps ++ before)) later) :
    SentOnly allowed (steps ++ later) := by
  intro before t u after record hs hsend
  rcases split_append hs with ⟨rest, hs⟩ | ⟨first, rfl, hl⟩
  · exact h before t u rest record hs hsend
  · obtain ⟨profile, found, hk, hread, hnew⟩ := h' first t u after record hl hsend
    exact ⟨profile, found, hk, hread.append, hnew⟩

theorem of_append (h : SentOnly allowed (steps ++ later)) : SentOnly allowed steps := by
  rintro before t u after record rfl hsend
  exact h before t u (after ++ later) record (by simp) hsend

theorem mono (h : SentOnly allowed steps)
    (ha : ∀ before profile node cpu, allowed before profile node cpu →
      allowed' before profile node cpu) : SentOnly allowed' steps := by
  intro before t u after record hs hsend
  obtain ⟨profile, found, hk, hread, hnew⟩ := h before t u after record hs hsend
  exact ⟨profile, found, hk, hread, fun node cpu hl hn => ha _ _ _ _ (hnew node cpu hl hn)⟩

end SentOnly

/-! ## The single calls -/

/-- The steps of a read: its call, and then the answer if there is one. -/
theorem get_steps (w : World) (name : String) :
    (workloads.get name).Traced Others
      (fun steps a _ => match a with
        | .error _ => steps = [(w, (noted w ⟨.getWorkload, name, .none⟩).2)]
        | .ok found => ∃ t u, steps = [(w, (noted w ⟨.getWorkload, name, .none⟩).2), (t, u)] ∧
            t.Reading name ∧ u.calls = t.calls ∧ t.store.find? name = found) w := by
  refine call_traced (Reading name) (fun t u ht he => (congrArg List.getLast? he.2).trans ht)
    (by simp [Reading]) (fun _ _ _ => rfl) fun t u ht _ => ?_
  exact ⟨t, _, rfl, ht, rfl, rfl⟩

/-- The steps of a write: its call, and no other call after that. -/
theorem write_steps (w : World) (c : Call) (f : Versioned → Except ServiceError Versioned) :
    (call c (World.write f)).Traced Others
      (fun steps _ _ => ∃ rest, steps = (w, (noted w c).2) :: rest ∧
        ∀ e ∈ rest, e.1.calls.getLast? = some c ∧ e.2.calls = e.1.calls) w := by
  refine call_traced (fun t => t.calls.getLast? = some c)
    (fun t u ht he => (congrArg List.getLast? he.2).trans ht) (by simp)
    (fun _ _ _ => ⟨[], rfl, fun _ h => nomatch h⟩)
    fun t u ht _ => ⟨_, rfl, List.forall_mem_singleton.2 ⟨ht, ?_⟩⟩
  unfold World.write
  cases f t.store <;> rfl

/-! ## One attempt -/

/-- Reading a workload sends nothing. -/
theorem get_sends (w : World) (name : String) :
    (workloads.get name).Traced Others
      (fun steps a _ => Unsent steps ∧ ∀ found, a = .ok found →
        ReadLast name found steps ∧ ∀ stored, found = some stored → stored.key = name) w := by
  have hnote : Unsent [(w, (noted w ⟨.getWorkload, name, .none⟩).2)] :=
    unsent_noted ⟨by simp, by simp⟩
  refine (get_steps w name).mono fun steps a _ h => ?_
  cases a with
  | error e => exact ⟨h ▸ hnote, fun _ ha => nomatch ha⟩
  | ok read =>
    obtain ⟨t, u, rfl, ht, hcalls, hfound⟩ := h
    refine ⟨hnote.append (unsent_effect hcalls), fun found ha => ?_⟩
    obtain rfl := Except.ok.inj ha
    exact ⟨⟨[_], t, u, rfl, ht, hcalls, hfound⟩,
      fun stored hs => t.store.named _ _ (hfound.trans hs)⟩

/-- An attempt that ends with a write of what was made of what was found. -/
theorem ofWrite_sends {f : Versioned → Except ServiceError Versioned} {change : WorkloadChange}
    (hb : Unsent before) (hread : ReadLast (workloadName profile) found before)
    (hrecord : ∀ record, c.detail = .record record →
      (c.method = .createWorkload ∨ c.method = .replaceWorkload) →
      record.key = workloadName profile ∧
        ∀ node cpu, NodeEntry.Listed record.spec.nodes node cpu →
          ¬ Spec.Listed (found.map Workload.spec) node cpu → allowed before profile node cpu) :
    ((call c (World.write f)).bind fun a => .done (Attempt.ofWrite change a)).Traced Others
      (fun steps _ _ => SentOnly allowed (before ++ steps)) w := by
  refine (write_steps w c f).seq fun steps a t ⟨rest, hs, hrest⟩ => ?_
  have hr : Unsent rest := fun e he _ => not_sends_of_calls (hrest e he).2
  show SentOnly allowed (before ++ (steps ++ []))
  rw [List.append_nil, hs]
  intro first t u after record hsplit hsend
  rcases split_append hsplit with ⟨rest', h⟩ | ⟨first, rfl, h⟩
  · exact absurd hsend (hb (t, u) (by simp [h]) record)
  · -- only the first step of the write sends
    cases first with
    | nil =>
      obtain ⟨he, -⟩ := List.cons.inj h
      obtain ⟨rfl, rfl⟩ := Prod.mk.inj he
      obtain ⟨hm, hd⟩ := sends_noted hsend
      obtain ⟨hk, hnew⟩ := hrecord record hd hm
      rw [List.append_nil]
      exact ⟨profile, found, hk, hread, hnew⟩
    | cons x xs =>
      obtain ⟨-, rfl⟩ := List.cons.inj h
      exact absurd hsend (hr (t, u) (by simp) record)

/-- An attempt that ends without a write. -/
theorem settled_sends {result : Answer WorkloadChange} (hb : Unsent before) :
    (Script.done (Attempt.settled result)).Traced Others
      (fun steps _ _ => SentOnly allowed (before ++ steps)) w :=
  .of_unsent (hb.append unsent_nil)

/-- An attempt to add CPUs sends them on their node, for their profile. -/
theorem addOnce_sends (w : World) (profile node : String) (cpus : List CpuId) :
    (workloads.addOnce profile node cpus).Traced Others
      (fun steps _ _ =>
        SentOnly (fun _ p n cpu => p = profile ∧ n = node ∧ cpu ∈ cpus) steps) w := by
  refine (get_sends w _).seq fun before a t ⟨hb, hread⟩ => ?_
  match a with
  | .error e => exact settled_sends hb
  | .ok none =>
    dsimp only
    split
    case isTrue hch =>
      have hc : cpus ≠ [] := fun hnil => by simp [Spec.merge, hnil] at hch
      refine ofWrite_sends hb (hread none rfl).1 fun record hr _ => ?_
      obtain rfl := CallDetail.record.inj hr
      refine ⟨rfl, fun n cpu hl _ => ?_⟩
      rw [(Spec.merge_of_ne_nil hc).1] at hl
      exact ⟨rfl, (NodeEntry.listed_merge.1 hl).resolve_left NodeEntry.not_listed_nil⟩
    case isFalse => exact settled_sends hb
  | .ok (some stored) =>
    dsimp only
    split
    case isTrue hch =>
      have hc : cpus ≠ [] := fun hnil => by simp [Spec.merge, hnil] at hch
      obtain ⟨hlast, hkey⟩ := hread _ rfl
      refine ofWrite_sends hb hlast fun record hr _ => ?_
      obtain rfl := CallDetail.record.inj hr
      refine ⟨hkey stored rfl, fun n cpu hl hn => ⟨rfl, ?_⟩⟩
      rw [(Spec.merge_of_ne_nil hc).1] at hl
      exact (NodeEntry.listed_merge.1 hl).resolve_left fun h => hn (Spec.listed_some.2 h)
    case isFalse => exact settled_sends hb

/-- An attempt to remove CPUs sends none that was not listed. -/
theorem removeOnce_sends (w : World) (profile node : String) (cpus : List CpuId) :
    (workloads.removeOnce profile node cpus).Traced Others
      (fun steps _ _ => SentOnly (fun _ _ _ _ => False) steps) w := by
  refine (get_sends w _).seq fun before a t ⟨hb, hread⟩ => ?_
  match a with
  | .error e => exact settled_sends hb
  | .ok none => exact settled_sends hb
  | .ok (some stored) =>
    obtain ⟨hlast, hkey⟩ := hread _ rfl
    dsimp only
    split
    · exact settled_sends hb
    · split
      · exact ofWrite_sends hb hlast fun record _ hm => by simp at hm
      · refine ofWrite_sends hb hlast fun record hr _ => ?_
        obtain rfl := CallDetail.record.inj hr
        refine ⟨hkey stored rfl, fun n cpu hl hn => hn (Spec.listed_some.2 ?_)⟩
        exact NodeEntry.listed_of_remove hl

/-! ## Whole scripts -/

/-- Whatever others do, the script sends only records in which what is new is `allowed`. -/
def SendsOnly {α : Type} (allowed : (profile node : String) → CpuId → Prop)
    (x : Script World α) : Prop :=
  ∀ w, x.Traced Others (fun steps _ _ => SentOnly (fun _ => allowed) steps) w

namespace SendsOnly

variable {α β : Type} {allowed allowed' : String → String → CpuId → Prop} {x : Script World α}

theorem done (a : α) : SendsOnly allowed (.done a) := fun _ => .of_unsent unsent_nil

theorem bind {f : α → Script World β} (h : SendsOnly allowed x)
    (hf : ∀ a, SendsOnly allowed (f a)) : SendsOnly allowed (x.bind f) :=
  fun w => (h w).seq fun _ a t hs => (hf a t).mono fun _ _ _ hl => hs.append hl

theorem mono (h : SendsOnly allowed x) (ha : ∀ p n cpu, allowed p n cpu → allowed' p n cpu) :
    SendsOnly allowed' x :=
  fun w => (h w).mono fun _ _ _ hs => hs.mono fun _ => ha

/-- What is cut off has sent no more. -/
theorem bounded {x : Script World (Answer α)} (h : SendsOnly allowed x) (limit : Nat) :
    SendsOnly allowed (bounded limit x) := by
  refine fun w => ((h w).within limit Others.refl).seq fun steps o t hs => ?_
  have hsent : SentOnly (fun _ => allowed) steps := by
    cases o with
    | some a => exact hs
    | none =>
      obtain ⟨rest, -, -, hs⟩ := hs
      exact hs.of_append
  match o with
  | some (.ok _) | some (.error _) | none => exact hsent.append (.of_unsent unsent_nil)

theorem retryFrom {attempt : Script World Attempt} (h : SendsOnly allowed attempt) :
    ∀ left i, SendsOnly allowed (retryFrom r name attempt left i)
  | 0, _ => done _
  | left + 1, i => by
    refine bind h fun a => ?_
    match a with
    | .settled result => exact done _
    | .contended =>
      dsimp only
      split
      · exact done _
      · exact fun w t _ => retryFrom h left (i + 1) t

theorem add (r : Retry) (profile node : String) (cpus : List CpuId) :
    SendsOnly (fun p n cpu => p = profile ∧ n = node ∧ cpu ∈ cpus)
      (workloads.add r profile node cpus) :=
  retryFrom (fun w => addOnce_sends w profile node cpus) _ _

theorem remove (r : Retry) (profile node : String) (cpus : List CpuId) :
    SendsOnly (fun _ _ _ => False) (workloads.remove r profile node cpus) :=
  retryFrom (fun w => removeOnce_sends w profile node cpus) _ _

/-- The changes of a phase send what the single changes send. -/
theorem changeEach {limit : Nat}
    {change : String → List CpuId → Script World (Answer WorkloadChange)} {shares : Shares}
    (h : ∀ e ∈ shares, SendsOnly allowed (change e.1 e.2)) :
    SendsOnly allowed (changeEach limit change shares) := by
  induction shares with
  | nil => exact done _
  | cons e rest ih =>
    refine bind ((h e List.mem_cons_self).bounded limit) fun result => ?_
    refine bind (ih fun e he => h e (List.mem_cons_of_mem _ he)) fun failures => ?_
    cases result <;> exact done _

end SendsOnly

end PowerGrant.World
