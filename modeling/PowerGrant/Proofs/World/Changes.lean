import PowerGrant.Proofs.World.Sent

/-!
# What is written is what has changed

Merging CPUs into a workload and removing some say whether they changed it. They say so truly of
every workload, also of one that is not well-formed, as another writer may have stored it: one with
two entries of a node, or with CPUs that are out of order, doubled or missing. An update goes by
that word alone when it decides whether to write.

* `Change.written?`: what is to be written after a change.
* `World.WritesJust`: steps in which each read of a workload is followed by the write of what `next`
  makes of what was found, if that is something, and by nothing if it is not. `WritesJust.append`:
  such steps may follow one another as long as no read has ended them.
* **`World.changed_exact`**: the word of both changes, and the writes of both updates.
-/

namespace PowerGrant

/-- What is to be written after a change: the new value if there was a change, or else nothing. -/
def Change.written? {α : Type} (c : Change α) : Option α := if c.changed then some c.value else none

namespace World

/-- A step in which the store answers to a read of the workload `name`. -/
def Reads (name : String) (t u : World) : Prop := t.Reading name ∧ u.calls = t.calls

/-- A step in which a script calls the store to write. -/
def CallsWrite (t u : World) (c : Call) : Prop := u.calls = t.calls ++ [c] ∧ c.method.writes

/-- Such a step, for the workload `name` and with a record that says `s`. -/
def WritesSpec (name : String) (s : Spec) (t u : World) : Prop :=
  ∃ c record, CallsWrite t u c ∧ c.detail = .record record ∧ record.key = name ∧ record.spec = s

/-- Each time that the workload `name` is read, the script goes on to write what `next` makes of
what was found there, and makes no call that writes but these. If that is nothing, it stops. -/
structure WritesJust (name : String) (next : Option Spec → Option Spec)
    (steps : List (World × World)) : Prop where
  /-- Where there is something to write, it is written right after the read. -/
  written : ∀ before t u after s, steps = before ++ (t, u) :: after → Reads name t u →
    next (t.store.specs name) = some s →
    ∃ x y rest, after = (x, y) :: rest ∧ WritesSpec name s x y
  /-- Where there is nothing to write, nothing follows the read. -/
  skipped : ∀ before t u after, steps = before ++ (t, u) :: after → Reads name t u →
    next (t.store.specs name) = none → after = []
  /-- Nothing else is written. -/
  called : ∀ before x y after c, steps = before ++ (x, y) :: after → CallsWrite x y c →
    ∃ first t u s, before = first ++ [(t, u)] ∧ Reads name t u ∧
      next (t.store.specs name) = some s ∧ WritesSpec name s x y

/-- A step that is neither an answer to a read nor a call that writes. -/
def Plain (name : String) (e : World × World) : Prop :=
  ¬ Reads name e.1 e.2 ∧ ∀ c, ¬ CallsWrite e.1 e.2 c

/-- No read in the steps was the last thing to do. -/
def Pressing (name : String) (next : Option Spec → Option Spec) (steps : List (World × World)) :
    Prop :=
  ∀ e ∈ steps, Reads name e.1 e.2 → next (e.1.store.specs name) ≠ none

variable {w t u x y : World} {e : World × World} {c : Call} {name profile node : String}
  {cpus : List CpuId} {r : Retry} {next : Option Spec → Option Spec} {s : Spec} {record : Workload}
  {steps before later : List (World × World)}

/-! ## Steps one after the other -/

/-- The only step among one. -/
theorem split_singleton {e e' : World × World} {after : List (World × World)}
    (h : [e] = before ++ e' :: after) : before = [] ∧ e' = e ∧ after = [] := by
  cases before with
  | nil => simpa [eq_comm] using h
  | cons b bs => simp at h

/-- The one or the other step of two. -/
theorem split_pair {e₁ e₂ e : World × World} {after : List (World × World)}
    (h : [e₁, e₂] = before ++ e :: after) :
    before = [] ∧ e = e₁ ∧ after = [e₂] ∨ before = [e₁] ∧ e = e₂ ∧ after = [] := by
  cases before with
  | nil => exact .inl (by simpa [eq_comm] using h)
  | cons b bs =>
    obtain ⟨rfl, hrest⟩ := List.cons.inj h
    obtain ⟨rfl, he⟩ := split_singleton hrest
    exact .inr ⟨rfl, he⟩

theorem not_callsWrite_of_calls (h : u.calls = t.calls) : ¬ CallsWrite t u c := by
  rintro ⟨hc, -⟩
  simp [h] at hc

theorem not_reads_of_callsWrite (h : CallsWrite t u c) : ¬ Reads name t u :=
  fun hr => not_callsWrite_of_calls hr.2 h

/-- To put a call on record is no answer. -/
theorem plain_noted (hc : c.method.writes = false) : Plain name (w, (noted w c).2) := by
  refine ⟨fun h => by simpa using h.2, fun c' ⟨hc', hw⟩ => ?_⟩
  rw [eq_of_noted hc', hc] at hw
  cases hw

/-- Nor is what comes of a call that writes. -/
theorem plain_of_written (hc : c.method.writes)
    (h : e.1.calls.getLast? = some c ∧ e.2.calls = e.1.calls) : Plain name e := by
  refine ⟨fun hr => ?_, fun _ => not_callsWrite_of_calls h.2⟩
  rw [Option.some.inj (h.1.symm.trans hr.1)] at hc
  cases hc

theorem callsWrite_noted (hc : c.method.writes) : CallsWrite w (noted w c).2 c := ⟨rfl, hc⟩

theorem Pressing.append (h : Pressing name next steps) (h' : Pressing name next later) :
    Pressing name next (steps ++ later) :=
  fun e he => (List.mem_append.1 he).elim (h e) (h' e)

theorem pressing_of_plain (h : ∀ e ∈ steps, Plain name e) : Pressing name next steps :=
  fun e he hr => absurd hr (h e he).1

namespace WritesJust

theorem of_plain (h : ∀ e ∈ steps, Plain name e) : WritesJust name next steps where
  written before t u after s hs hr _ := absurd hr (h (t, u) (by simp [hs])).1
  skipped before t u after hs hr _ := absurd hr (h (t, u) (by simp [hs])).1
  called before x y after c hs hc := absurd hc ((h (x, y) (by simp [hs])).2 c)

/-- Unless a read has ended them, steps may go on with others. -/
theorem append (h : WritesJust name next steps) (hp : Pressing name next steps)
    (h' : WritesJust name next later) : WritesJust name next (steps ++ later) where
  written before t u after s hs hr hn := by
    rcases split_append hs with ⟨rest, rfl⟩ | ⟨first, rfl, hl⟩
    · obtain ⟨x, y, more, rfl, hw⟩ := h.written before t u rest s rfl hr hn
      simp only [List.append_assoc, List.cons_append, List.append_cancel_left_eq,
        List.cons.injEq, true_and] at hs
      exact ⟨x, y, more ++ later, hs.symm, hw⟩
    · exact h'.written first t u after s hl hr hn
  skipped before t u after hs hr hn := by
    rcases split_append hs with ⟨rest, rfl⟩ | ⟨first, rfl, hl⟩
    · exact absurd hn (hp (t, u) (by simp) hr)
    · exact h'.skipped first t u after hl hr hn
  called before x y after c hs hc := by
    rcases split_append hs with ⟨rest, hs⟩ | ⟨first, rfl, hl⟩
    · exact h.called before x y rest c hs hc
    · obtain ⟨first', t, u, s, rfl, hw⟩ := h'.called first x y after c hl hc
      exact ⟨steps ++ first', t, u, s, (List.append_assoc _ _ _).symm, hw⟩

/-- A read after which there is nothing to write. -/
theorem stop (hr : Reads name t u) (hn : next (t.store.specs name) = none) :
    WritesJust name next [(t, u)] where
  written before t' u' after s hs _ hn' := by
    obtain ⟨-, he, -⟩ := split_singleton hs
    obtain ⟨rfl, rfl⟩ := Prod.mk.inj he
    rw [hn] at hn'
    cases hn'
  skipped before t' u' after hs _ _ := (split_singleton hs).2.2
  called before x y after c hs hc := by
    obtain ⟨-, he, -⟩ := split_singleton hs
    obtain ⟨rfl, rfl⟩ := Prod.mk.inj he
    exact absurd hc (not_callsWrite_of_calls hr.2)

/-- A read and the call that writes what is made of it. -/
theorem go_on (hr : Reads name t u) (hn : next (t.store.specs name) = some s)
    (hw : WritesSpec name s x y) : WritesJust name next [(t, u), (x, y)] := by
  have hcall : ¬ Reads name x y := by
    obtain ⟨c, -, hc, -⟩ := hw
    exact not_reads_of_callsWrite hc
  refine ⟨fun before t' u' after s' hs hr' hn' => ?_, fun before t' u' after hs hr' hn' => ?_,
    fun before x' y' after c hs hc => ?_⟩
  · obtain ⟨-, he, rfl⟩ | ⟨-, he, -⟩ := split_pair hs <;> obtain ⟨rfl, rfl⟩ := Prod.mk.inj he
    · obtain rfl : s = s' := Option.some.inj (hn.symm.trans hn')
      exact ⟨x, y, [], rfl, hw⟩
    · exact absurd hr' hcall
  · obtain ⟨-, he, -⟩ | ⟨-, he, -⟩ := split_pair hs <;> obtain ⟨rfl, rfl⟩ := Prod.mk.inj he
    · rw [hn] at hn'
      cases hn'
    · exact absurd hr' hcall
  · obtain ⟨-, he, -⟩ | ⟨rfl, he, -⟩ := split_pair hs <;> obtain ⟨rfl, rfl⟩ := Prod.mk.inj he
    · exact absurd hc (not_callsWrite_of_calls hr.2)
    · exact ⟨[], t, u, s, rfl, hr, hn, hw⟩

end WritesJust

/-! ## One attempt -/

/-- An attempt that went as `WritesJust` says, and has not ended with a read if there will be
another one. -/
def Tried (name : String) (next : Option Spec → Option Spec) (steps : List (World × World))
    (a : Attempt) : Prop :=
  WritesJust name next steps ∧ (a = .contended → Pressing name next steps)

/-- An attempt that ends with the write of what is made of what was read. -/
theorem ofWrite_tried {f : Versioned → Except ServiceError Versioned} {change : WorkloadChange}
    (he : Plain name e) (hr : Reads name t u) (hn : next (t.store.specs name) = some record.spec)
    (hc : c.method.writes) (hd : c.detail = .record record) (hk : record.key = name) :
    ((call c (World.write f)).bind fun a => .done (Attempt.ofWrite change a)).Traced Others
      (fun steps a _ => Tried name next (e :: (t, u) :: steps) a) w := by
  refine (write_steps w c f).seq fun steps a v ⟨rest, hs, hrest⟩ => ?_
  show Tried name next (e :: (t, u) :: (steps ++ [])) _
  have hfirst : ∀ e' ∈ [e], Plain name e' := List.forall_mem_singleton.2 he
  have hlast : ∀ e ∈ rest, Plain name e := fun e he => plain_of_written hc (hrest e he)
  have hw : WritesSpec name record.spec w (noted w c).2 :=
    ⟨c, record, callsWrite_noted hc, hd, hk, rfl⟩
  have hpress : Pressing name next [(t, u), (w, (noted w c).2)] := by
    refine List.forall_mem_cons.2 ⟨fun _ => by simp [hn], List.forall_mem_singleton.2 fun h => ?_⟩
    exact absurd h (not_reads_of_callsWrite (callsWrite_noted hc))
  have hsplit : e :: (t, u) :: (steps ++ []) =
      [e] ++ ([(t, u), (w, (noted w c).2)] ++ rest) := by simp [hs]
  rw [hsplit]
  exact ⟨(WritesJust.of_plain hfirst).append (pressing_of_plain hfirst)
      ((WritesJust.go_on hr hn hw).append hpress (.of_plain hlast)),
    fun _ => (pressing_of_plain hfirst).append (hpress.append (pressing_of_plain hlast))⟩

/-- An attempt that ends with the read since there is nothing to write. -/
theorem unchanged_tried {result : Answer WorkloadChange} (he : Plain name e) (hr : Reads name t u)
    (hn : next (t.store.specs name) = none) :
    Tried name next [e, (t, u)] (.settled result) := by
  have hfirst : ∀ e' ∈ [e], Plain name e' := List.forall_mem_singleton.2 he
  exact ⟨(WritesJust.of_plain hfirst).append (pressing_of_plain hfirst) (.stop hr hn), nofun⟩

/-- An attempt that ends since nothing could be read. -/
theorem unread_tried {result : Answer WorkloadChange} (he : Plain name e) :
    Tried name next [e] (.settled result) :=
  ⟨.of_plain (List.forall_mem_singleton.2 he), nofun⟩

theorem addOnce_tried (w : World) (profile node : String) (cpus : List CpuId) :
    (workloads.addOnce profile node cpus).Traced Others
      (fun steps a _ => Tried (workloadName profile)
        (fun found => ((found.getD ⟨profile, []⟩).merge node cpus).written?) steps a) w := by
  refine (get_steps w _).seq fun steps a v h => ?_
  have hnote (name : String) : Plain name (w, (noted w ⟨.getWorkload, name, .none⟩).2) :=
    plain_noted rfl
  match a, h with
  | .error e, hs =>
    subst hs
    exact unread_tried (hnote _)
  | .ok none, ⟨t, u, hs, hr, hcalls, hfound⟩ =>
    subst hs
    have hspec := Versioned.specs_of_not_found hfound
    dsimp only
    split
    case isTrue hch =>
      exact ofWrite_tried (hnote _) ⟨hr, hcalls⟩ (by simp [hspec, Change.written?, hch]) rfl rfl rfl
    case isFalse hch =>
      exact unchanged_tried (hnote _) ⟨hr, hcalls⟩ (by simp [hspec, Change.written?, hch])
  | .ok (some stored), ⟨t, u, hs, hr, hcalls, hfound⟩ =>
    subst hs
    have hspec := Versioned.specs_of_find? hfound
    have hkey : stored.key = workloadName profile := t.store.named _ _ hfound
    dsimp only
    split
    case isTrue hch =>
      exact ofWrite_tried (hnote _) ⟨hr, hcalls⟩ (by simp [hspec, Change.written?, hch]) rfl rfl
        hkey
    case isFalse hch =>
      exact unchanged_tried (hnote _) ⟨hr, hcalls⟩ (by simp [hspec, Change.written?, hch])

theorem removeOnce_tried (w : World) (profile node : String) (cpus : List CpuId) :
    (workloads.removeOnce profile node cpus).Traced Others
      (fun steps a _ => Tried (workloadName profile)
        (fun found => found.bind fun s => (s.remove node cpus).written?) steps a) w := by
  refine (get_steps w _).seq fun steps a v h => ?_
  have hnote (name : String) : Plain name (w, (noted w ⟨.getWorkload, name, .none⟩).2) :=
    plain_noted rfl
  match a, h with
  | .error e, hs =>
    subst hs
    exact unread_tried (hnote _)
  | .ok none, ⟨t, u, hs, hr, hcalls, hfound⟩ =>
    subst hs
    exact unchanged_tried (hnote _) ⟨hr, hcalls⟩ (by simp [Versioned.specs_of_not_found hfound])
  | .ok (some stored), ⟨t, u, hs, hr, hcalls, hfound⟩ =>
    subst hs
    have hspec := Versioned.specs_of_find? hfound
    have hkey : stored.key = workloadName profile := t.store.named _ _ hfound
    dsimp only
    cases hch : (stored.spec.remove node cpus).changed with
    | false => exact unchanged_tried (hnote _) ⟨hr, hcalls⟩ (by simp [hspec, Change.written?, hch])
    | true =>
      simp only [Bool.not_true, Bool.false_eq_true, if_false]
      -- the write deletes the workload or replaces it
      split
      · exact ofWrite_tried (hnote _) ⟨hr, hcalls⟩ (by simp [hspec, Change.written?, hch]) rfl rfl
          hkey
      · exact ofWrite_tried (hnote _) ⟨hr, hcalls⟩ (by simp [hspec, Change.written?, hch]) rfl rfl
          hkey

/-! ## All attempts -/

/-- Only the last attempt may end with a read. -/
theorem retryFrom_writesJust {attempt : Script World Attempt} {left i : Nat}
    (h : ∀ t, attempt.Traced Others (fun steps a _ => Tried name next steps a) t) (w : World) :
    (retryFrom r name attempt left i).Traced Others
      (fun steps _ _ => WritesJust name next steps) w := by
  induction left generalizing w i with
  | zero => exact .of_plain fun _ h => nomatch h
  | succ left ih =>
    refine (h w).seq fun before a t ⟨hj, hp⟩ => ?_
    match a with
    | .settled result =>
      show WritesJust name next (before ++ [])
      rwa [List.append_nil]
    | .contended =>
      dsimp only
      split
      · show WritesJust name next (before ++ [])
        rwa [List.append_nil]
      · exact fun u _ => (ih u).mono fun _ _ _ hl => hj.append (hp rfl) hl

/-- Merging and removing say that they changed a workload just if it is another one afterwards,
whatever the workload looks like. So merging denies it just if there is nothing to merge, or the
node's first entry rises and has it all; and removing denies it just if the node has no entry, or
its first one is not empty and has none of the CPUs. An update that has read the workload, whatever
others have made of it, writes just if there was a change, and then what came of it. -/
theorem changed_exact :
    (∀ (s : Spec) (node : String) (cpus : List CpuId),
      ((s.merge node cpus).changed = true ↔ (s.merge node cpus).value ≠ s) ∧
      ((s.remove node cpus).changed = true ↔ (s.remove node cpus).value ≠ s) ∧
      ((s.merge node cpus).changed = false ↔
        cpus = [] ∨ ∃ e, s.nodes.find? (fun e => e.node = node) = some e ∧
          Rises e.cpus ∧ ∀ c ∈ cpus, c ∈ e.cpus) ∧
      ((s.remove node cpus).changed = false ↔
        ∀ e, s.nodes.find? (fun e => e.node = node) = some e →
          e.cpus ≠ [] ∧ ∀ c ∈ cpus, c ∉ e.cpus)) ∧
    ∀ (w : World) (r : Retry) (profile node : String) (cpus : List CpuId),
      (workloads.add r profile node cpus).Traced Others
        (fun steps _ _ => WritesJust (workloadName profile)
          (fun found => ((found.getD ⟨profile, []⟩).merge node cpus).written?) steps) w ∧
      (workloads.remove r profile node cpus).Traced Others
        (fun steps _ _ => WritesJust (workloadName profile)
          (fun found => found.bind fun s => (s.remove node cpus).written?) steps) w :=
  ⟨fun _ _ _ => ⟨Spec.changed_iff_merge_ne, Spec.changed_iff_remove_ne, Spec.not_changed_merge_iff,
      NodeEntry.not_changed_remove_iff⟩,
    fun w _ _ _ _ => ⟨retryFrom_writesJust (fun t => addOnce_tried t _ _ _) w,
      retryFrom_writesJust (fun t => removeOnce_tried t _ _ _) w⟩⟩

/-- Merging a CPU that is there changes an entry that is out of order; removing one that is not there
changes an entry that is empty. -/
example :
    let s : Spec := ⟨"perf", [⟨"n1", [3, 1, 1]⟩, ⟨"n2", []⟩]⟩
    s.merge "n1" [1] = ⟨⟨"perf", [⟨"n1", [1, 3]⟩, ⟨"n2", []⟩]⟩, true⟩ ∧
      s.remove "n2" [1] = ⟨⟨"perf", [⟨"n1", [3, 1, 1]⟩]⟩, true⟩ ∧
      s.remove "n1" [2] = ⟨s, false⟩ := by
  decide

end World

end PowerGrant
