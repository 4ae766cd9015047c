import PowerGrant.Proofs.Workload.Entries

/-!
# What adding and removing CPUs makes of a workload

A workload comes into being with the first CPU added to it and goes away with its last node.
`Spec.added` and `Spec.removed` say what becomes of what is stored for a profile, which may be
nothing.

* `Spec.listed_added`, `Spec.listed_removed`, `Spec.not_listed_removed`: the CPUs listed afterwards.
* `Spec.changed_iff_merge_ne`, `Spec.changed_iff_remove_ne`: the changes that either reports.
* `Spec.Sound`: the workload of a profile as it should be; both operations keep it.
* `Spec.added_added`, `Spec.removed_removed`: doing either twice is doing it once.
* `Spec.perm_of_listed`: sound workloads are determined by what they list, up to the order of their
  entries.
-/

namespace PowerGrant.Spec

/-- What is stored once `cpus` were added on `node` for a profile. -/
def added (profile node : String) (cpus : List CpuId) (s : Option Spec) : Option Spec :=
  let merged := (s.getD ⟨profile, []⟩).merge node cpus
  if merged.changed then some merged.value else s

/-- What is stored once `cpus` were taken out on `node`. -/
def removed (node : String) (cpus : List CpuId) : Option Spec → Option Spec
  | none => none
  | some s =>
    let rest := s.remove node cpus
    if rest.changed then if rest.value.nodes = [] then none else some rest.value else some s

/-- `cpu` is listed for `node` in what is stored. -/
def Listed (s : Option Spec) (node : String) (cpu : CpuId) : Prop :=
  ∃ t, s = some t ∧ NodeEntry.Listed t.nodes node cpu

/-- No node has two entries in what is stored. -/
def OneEntry (s : Option Spec) : Prop := ∀ t, s = some t → (t.nodes.map NodeEntry.node).Nodup

/-- What is stored is a workload of the profile, well-formed and not empty. -/
def Sound (profile : String) (s : Option Spec) : Prop :=
  ∀ t, s = some t → t.profile = profile ∧ t.WellFormed ∧ t.nodes ≠ []

variable {profile node n : String} {cpus : List CpuId} {cpu : CpuId} {s : Option Spec} {t : Spec}

@[simp] theorem not_listed_none : ¬ Listed none n cpu := by
  rintro ⟨t, ht, -⟩
  cases ht

@[simp] theorem listed_some : Listed (some t) n cpu ↔ NodeEntry.Listed t.nodes n cpu := by
  simp [Listed]

theorem sound_none : Sound profile none := fun _ h => nomatch h

theorem Sound.oneEntry (h : Sound profile s) : OneEntry s := fun t ht => (h t ht).2.1.1

/-! ## Adding -/

theorem merge_of_ne_nil (hc : cpus ≠ []) :
    (t.merge node cpus).value = ⟨t.profile, (NodeEntry.merge node cpus t.nodes).value⟩ ∧
      (t.merge node cpus).changed = (NodeEntry.merge node cpus t.nodes).changed := by
  simp [merge, hc]

theorem added_nil : added profile node [] s = s := rfl

/-- Adding CPUs leaves the workload with them merged into it, whether that changes it or not. -/
theorem added_eq (hc : cpus ≠ []) :
    added profile node cpus s =
      some ⟨(s.getD ⟨profile, []⟩).profile,
        (NodeEntry.merge node cpus (s.getD ⟨profile, []⟩).nodes).value⟩ := by
  obtain ⟨hv, hch⟩ := @merge_of_ne_nil node cpus (s.getD ⟨profile, []⟩) hc
  simp only [added]
  split
  · rw [hv]
  · rename_i h
    rw [hch, Bool.not_eq_true] at h
    rw [NodeEntry.merge_of_not_changed h]
    cases s with
    | none => simp [NodeEntry.merge] at h
    | some t => rfl

/-- After `cpus` were added on `node`, they are listed there beside what was listed before. -/
theorem listed_added :
    Listed (added profile node cpus s) n cpu ↔ Listed s n cpu ∨ n = node ∧ cpu ∈ cpus := by
  by_cases hc : cpus = []
  · simp [hc, added_nil]
  · rw [added_eq hc, listed_some, NodeEntry.listed_merge]
    cases s <;> simp

theorem Sound.added (h : Sound profile s) (hc : cpus ≠ []) :
    Sound profile (added profile node cpus s) := by
  rw [added_eq hc]
  intro u hu
  obtain rfl := Option.some.inj hu
  cases s with
  | none =>
    exact ⟨rfl, ⟨NodeEntry.nodup_merge List.nodup_nil,
      NodeEntry.wellFormed_merge hc fun e he => nomatch he⟩, NodeEntry.merge_ne_nil⟩
  | some t =>
    obtain ⟨hp, ⟨hd, hw⟩, -⟩ := h t rfl
    exact ⟨hp, ⟨NodeEntry.nodup_merge hd, NodeEntry.wellFormed_merge hc hw⟩,
      NodeEntry.merge_ne_nil⟩

theorem OneEntry.added (h : OneEntry s) : OneEntry (added profile node cpus s) := by
  by_cases hc : cpus = []
  · rwa [hc, added_nil]
  · rw [added_eq hc]
    intro u hu
    obtain rfl := Option.some.inj hu
    cases s with
    | none => exact NodeEntry.nodup_merge List.nodup_nil
    | some t => exact NodeEntry.nodup_merge (h t rfl)

/-- Adding the same CPUs again changes nothing. -/
theorem added_added :
    added profile node cpus (added profile node cpus s) = added profile node cpus s := by
  by_cases hc : cpus = []
  · simp [hc, added_nil]
  · simp only [added_eq hc, Option.getD_some, NodeEntry.merge_merge]

/-- CPUs are added to the entry in which the node's CPUs are looked up. -/
theorem mem_cpusOn_merge {es : List NodeEntry} (hc : cpu ∈ cpus) :
    cpu ∈ cpusOn ⟨profile, (NodeEntry.merge node cpus es).value⟩ node := by
  induction es with
  | nil => simpa [NodeEntry.merge, cpusOn, mem_ascending] using hc
  | cons e es ih =>
    by_cases he : e.node = node
    · simp [cpusOn, NodeEntry.value_merge_own he, he, mem_ascending, hc]
    · simpa [cpusOn, NodeEntry.value_merge_other he, he] using ih

theorem mem_cpusOn_added (hc : cpu ∈ cpus) :
    ∃ t, added profile node cpus s = some t ∧ cpu ∈ t.cpusOn node :=
  ⟨_, added_eq (List.ne_nil_of_mem hc), mem_cpusOn_merge hc⟩

/-- Something is written just if it is not stored yet. -/
theorem changed_merge_iff :
    ((s.getD ⟨profile, []⟩).merge node cpus).changed = true ↔ added profile node cpus s ≠ s := by
  refine ⟨fun hch heq => ?_, fun h => Decidable.byContradiction fun hch => h (if_neg hch)⟩
  have hc : cpus ≠ [] := by
    rintro rfl
    cases hch
  have hstored : some ((s.getD ⟨profile, []⟩).merge node cpus).value = s :=
    (if_pos hch).symm.trans heq
  have hvalue : ((s.getD ⟨profile, []⟩).merge node cpus).value = s.getD ⟨profile, []⟩ :=
    congrArg (fun t => t.getD (⟨profile, []⟩ : Spec)) hstored
  rw [(merge_of_ne_nil hc).2, NodeEntry.changed_merge_iff] at hch
  exact hch (congrArg Spec.nodes ((merge_of_ne_nil hc).1.symm.trans hvalue))

/-- Adding says truly whether it changed the workload. -/
theorem changed_iff_merge_ne :
    (t.merge node cpus).changed = true ↔ (t.merge node cpus).value ≠ t := by
  by_cases hc : cpus = []
  · simp [merge, hc]
  · rw [(merge_of_ne_nil hc).1, (merge_of_ne_nil hc).2, NodeEntry.changed_merge_iff]
    exact not_congr ⟨congrArg (Spec.mk t.profile), congrArg Spec.nodes⟩

/-- Adding CPUs, if any, changes nothing just if the first entry of the node rises and has them
already. -/
theorem not_changed_merge_iff :
    (t.merge node cpus).changed = false ↔
      cpus = [] ∨ ∃ e, t.nodes.find? (fun e => e.node = node) = some e ∧
        Rises e.cpus ∧ ∀ c ∈ cpus, c ∈ e.cpus := by
  by_cases hc : cpus = []
  · simp [merge, hc]
  · rw [(merge_of_ne_nil hc).2, NodeEntry.not_changed_merge_iff, or_iff_right hc]

/-- Adding CPUs, if any, leaves what is stored just if the node's entry there rises and has them
already. -/
theorem added_eq_self_iff :
    added profile node cpus s = s ↔
      cpus = [] ∨ ∃ t e, s = some t ∧ t.nodes.find? (fun e => e.node = node) = some e ∧
        Rises e.cpus ∧ ∀ c ∈ cpus, c ∈ e.cpus := by
  have hch : added profile node cpus s = s ↔
      ((s.getD ⟨profile, []⟩).merge node cpus).changed = false := by
    rw [← Bool.not_eq_true, changed_merge_iff, ne_eq, Decidable.not_not]
  rw [hch, not_changed_merge_iff]
  cases s <;> simp

/-! ## Removing -/

/-- Removing says truly whether it changed the workload. -/
theorem changed_iff_remove_ne :
    (t.remove node cpus).changed = true ↔ (t.remove node cpus).value ≠ t := by
  show (NodeEntry.remove node cpus t.nodes).changed = true ↔ _
  rw [NodeEntry.changed_remove_iff]
  exact not_congr ⟨congrArg (Spec.mk t.profile), congrArg Spec.nodes⟩

/-- Taking out CPUs changes the workload if one of them is among those of the node. -/
theorem changed_remove (hc : cpu ∈ cpus) (h : cpu ∈ t.cpusOn node) :
    (t.remove node cpus).changed = true := by
  rw [← Bool.not_eq_false]
  intro hch
  have hfirst := NodeEntry.not_changed_remove_iff.1 hch
  simp only [cpusOn] at h
  cases hf : t.nodes.find? fun e => e.node = node with
  | none => simp [hf] at h
  | some e => exact (hfirst e hf).2 cpu hc (by simpa [hf] using h)

/-- What is left when the workload is there: it goes away if its last entry did. -/
theorem removed_some :
    removed node cpus (some t) =
      if (t.remove node cpus).changed = true ∧ (NodeEntry.remove node cpus t.nodes).value = [] then
        none
      else some ⟨t.profile, (NodeEntry.remove node cpus t.nodes).value⟩ := by
  simp only [removed]
  by_cases hch : (t.remove node cpus).changed = true
  · simp only [hch, if_true, true_and]
    rfl
  · rw [if_neg hch, if_neg fun h => hch h.1,
      NodeEntry.remove_of_not_changed (Bool.not_eq_true _ ▸ hch)]

theorem removed_eq_some {u : Spec} (h : removed node cpus s = some u) :
    ∃ t, s = some t ∧ u = ⟨t.profile, (NodeEntry.remove node cpus t.nodes).value⟩ := by
  cases s with
  | none => cases h
  | some t =>
    rw [removed_some] at h
    split at h
    · cases h
    · exact ⟨t, rfl, (Option.some.inj h).symm⟩

theorem listed_of_removed (h : Listed (removed node cpus s) n cpu) : Listed s n cpu := by
  obtain ⟨u, hu, hl⟩ := h
  obtain ⟨t, rfl, rfl⟩ := removed_eq_some hu
  exact ⟨t, rfl, NodeEntry.listed_of_remove hl⟩

/-- What is listed stays listed, unless it is one of the CPUs removed from the node. -/
theorem listed_removed (h : Listed s n cpu) (hk : n = node → cpu ∉ cpus) :
    Listed (removed node cpus s) n cpu := by
  obtain ⟨t, rfl, hl⟩ := h
  have hrest := NodeEntry.listed_remove hl hk
  rw [removed_some, if_neg]
  · exact listed_some.2 hrest
  · rintro ⟨-, hr⟩
    rw [hr] at hrest
    exact NodeEntry.not_listed_nil hrest

/-- What was removed is not listed any more if no node has two entries. -/
theorem not_listed_removed (h : OneEntry s) (hc : cpu ∈ cpus) :
    ¬ Listed (removed node cpus s) node cpu := by
  rintro ⟨u, hu, hl⟩
  obtain ⟨t, rfl, rfl⟩ := removed_eq_some hu
  exact NodeEntry.not_listed_remove (h t rfl) hc hl

theorem Sound.removed (h : Sound profile s) : Sound profile (removed node cpus s) := by
  intro u hu
  obtain ⟨t, rfl, rfl⟩ := removed_eq_some hu
  obtain ⟨hp, ⟨hd, hw⟩, hn⟩ := h t rfl
  refine ⟨hp, ⟨NodeEntry.nodup_remove hd, NodeEntry.wellFormed_remove hw⟩, fun hr => ?_⟩
  rw [removed_some] at hu
  split at hu
  · cases hu
  · rename_i hk
    refine hk ⟨?_, hr⟩
    -- without a change the entries are the old ones, of which there are some
    cases hch : (t.remove node cpus).changed with
    | true => rfl
    | false => exact absurd (NodeEntry.remove_of_not_changed hch ▸ hr) hn

theorem OneEntry.removed (h : OneEntry s) : OneEntry (removed node cpus s) := by
  intro u hu
  obtain ⟨t, rfl, rfl⟩ := removed_eq_some hu
  exact NodeEntry.nodup_remove (h t rfl)

/-- Removing the same CPUs again changes nothing if no node has two entries. -/
theorem removed_removed (h : OneEntry s) :
    removed node cpus (removed node cpus s) = removed node cpus s := by
  cases hs : removed node cpus s with
  | none => rfl
  | some u =>
    obtain ⟨t, rfl, rfl⟩ := removed_eq_some hs
    have hr := @NodeEntry.remove_remove node cpus t.nodes (h t rfl)
    rw [removed_some]
    simp only [hr]
    rw [if_neg]
    -- nothing is removed from a workload without nodes
    rintro ⟨hch, hn⟩
    simp [remove, hn, NodeEntry.remove] at hch

/-! ## What is listed decides what is stored -/

/-- Sound workloads that list the same CPUs have the same entries in some order. -/
theorem perm_of_listed {p q : String} {s s' : Option Spec} (hs : Sound p s) (hs' : Sound q s')
    (h : ∀ n cpu, Listed s n cpu ↔ Listed s' n cpu) :
    Option.Rel (fun t t' => t.nodes.Perm t'.nodes) s s' := by
  -- a sound workload lists something
  have hsome {q : String} {t : Spec} (ht : Sound q (some t)) : ∃ n cpu, Listed (some t) n cpu := by
    obtain ⟨-, ⟨-, hw⟩, hn⟩ := ht t rfl
    obtain ⟨e, he⟩ := List.exists_mem_of_ne_nil _ hn
    obtain ⟨cpu, hc⟩ := List.exists_mem_of_ne_nil _ (hw e he).1
    exact ⟨e.node, cpu, listed_some.2 ⟨e, he, rfl, hc⟩⟩
  match s, s' with
  | none, none => exact .none
  | some t, none =>
    obtain ⟨n, cpu, hl⟩ := hsome hs
    exact absurd ((h n cpu).1 hl) not_listed_none
  | none, some t' =>
    obtain ⟨n, cpu, hl⟩ := hsome hs'
    exact absurd ((h n cpu).2 hl) not_listed_none
  | some t, some t' =>
    obtain ⟨-, ⟨hd, hw⟩, -⟩ := hs t rfl
    obtain ⟨-, ⟨hd', hw'⟩, -⟩ := hs' t' rfl
    refine .some (NodeEntry.perm_of_listed hd hd' hw hw' fun n cpu => ?_)
    rw [← listed_some, h, listed_some]

end PowerGrant.Spec
