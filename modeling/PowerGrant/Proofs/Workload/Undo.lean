import PowerGrant.Proofs.Workload.Specs

/-!
# Adding and taking back

What was added to a workload and not listed there before can be taken out again, and the workload is
as it was, up to the order of its entries. What was listed before makes no difference.

* `Spec.added_of_listed`: adding what is listed changes nothing.
* `Spec.added_added_of_listed`: adding is not affected by what was added before, if that is listed
  or added again.
* `Spec.removed_added`: taking out some of what was added is to have added the rest.
-/

namespace PowerGrant

/-- Some of a rising list are the rising list of those. -/
theorem filter_ascending (p : CpuId → Bool) (xs : List CpuId) :
    (ascending xs).filter p = ascending (xs.filter p) := by
  have hrises : Rises ((ascending xs).filter p) := (ascending_rises xs).filter p
  exact hrises.eq_of_mem_iff (ascending_rises _) fun c => by
    simp only [List.mem_filter, mem_ascending]

/-! ## Entries -/

namespace NodeEntry

variable {node : String} {cpus kept gone : List CpuId} {es : List NodeEntry}

/-- Adding what is listed changes nothing. -/
theorem merge_of_listed (hd : (es.map NodeEntry.node).Nodup) (hw : ∀ e ∈ es, e.WellFormed)
    (hne : kept ≠ []) (hk : ∀ c ∈ kept, Listed es node c) : (merge node kept es).value = es := by
  induction es with
  | nil =>
    obtain ⟨c, hc⟩ := List.exists_mem_of_ne_nil _ hne
    exact absurd (hk c hc) not_listed_nil
  | cons e es ih =>
    by_cases he : e.node = node
    · have hcpus : ∀ c ∈ kept, c ∈ e.cpus := fun c hc =>
        (listed_node_iff hd List.mem_cons_self).1 (he ▸ hk c hc)
      rw [value_merge_own he, ascending_append_of_subset hcpus,
        (hw e List.mem_cons_self).2.ascending_eq]
    · rw [value_merge_other he, ih (List.nodup_cons.1 hd).2
        fun f hf => hw f (List.mem_cons_of_mem _ hf)]
      exact fun c hc => (listed_cons.1 (hk c hc)).resolve_left fun h => he h.1

/-- Adding is not affected by what was added before, if that is listed or added again. -/
theorem merge_merge_of_listed (hd : (es.map NodeEntry.node).Nodup)
    (hk : ∀ c ∈ kept, c ∈ cpus ∨ Listed es node c) :
    (merge node cpus (merge node kept es).value).value = (merge node cpus es).value := by
  have hunion {xs : List CpuId} (h : ∀ c ∈ kept, c ∈ cpus ∨ c ∈ xs) :
      ascending (ascending (xs ++ kept) ++ cpus) = ascending (xs ++ cpus) := by
    refine (ascending_rises _).eq_of_mem_iff (ascending_rises _) fun c => ?_
    simp only [mem_ascending, List.mem_append]
    grind
  induction es with
  | nil =>
    show (merge node cpus [⟨node, ascending kept⟩]).value = [⟨node, ascending cpus⟩]
    rw [value_merge_own (e := ⟨node, _⟩) rfl]
    simpa using @hunion [] fun c hc => .inl ((hk c hc).resolve_right not_listed_nil)
  | cons e es ih =>
    by_cases he : e.node = node
    · rw [value_merge_own he, value_merge_own (e := ⟨e.node, ascending (e.cpus ++ kept)⟩) he,
        value_merge_own he, hunion]
      exact fun c hc => (hk c hc).imp_right fun hl =>
        (listed_node_iff hd List.mem_cons_self).1 (he ▸ hl)
    · rw [value_merge_other he, value_merge_other he, value_merge_other he,
        ih (List.nodup_cons.1 hd).2]
      exact fun c hc => (hk c hc).imp_right fun hl =>
        (listed_cons.1 hl).resolve_left fun h => he h.1

/-- CPUs of which none is removed. -/
theorem filter_of_not_listed {xs : List CpuId} (h : ∀ c ∈ gone, c ∉ xs) :
    xs.filter (fun c => !gone.contains c) = xs :=
  List.filter_eq_self.2 fun c hc => by simpa using fun hg => h c hg hc

/-- Removing what is not listed changes nothing. -/
theorem remove_of_not_listed (hw : ∀ e ∈ es, e.WellFormed)
    (hg : ∀ c ∈ gone, ¬ Listed es node c) : (remove node gone es).changed = false := by
  induction es with
  | nil => rfl
  | cons e es ih =>
    by_cases he : e.node = node
    · have hrest := filter_of_not_listed fun c hc hm => hg c hc (listed_cons.2 (.inl ⟨he, hm⟩))
      have hne := (hw e List.mem_cons_self).1
      simp only [remove, if_pos he, hrest, if_neg hne, if_true]
    · simp only [remove, if_neg he]
      exact ih (fun f hf => hw f (List.mem_cons_of_mem _ hf)) fun c hc hl =>
        hg c hc (listed_cons.2 (.inr hl))

/-- Of what was added to other CPUs, some is taken out again. -/
theorem remove_merge (hw : ∀ e ∈ es, e.WellFormed) (hg : ∀ c ∈ gone, ¬ Listed es node c) :
    (remove node gone (merge node cpus es).value).value =
      if cpus.filter (fun c => !gone.contains c) = [] then es
      else (merge node (cpus.filter fun c => !gone.contains c) es).value := by
  induction es with
  | nil =>
    show (remove node gone [⟨node, ascending cpus⟩]).value = _
    rw [value_remove_own (e := ⟨node, _⟩) rfl]
    simp only [left, filter_ascending, ascending_eq_nil]
    rfl
  | cons e es ih =>
    by_cases he : e.node = node
    · have hrest := filter_of_not_listed fun c hc hm => hg c hc (listed_cons.2 (.inl ⟨he, hm⟩))
      obtain ⟨hne, hrises⟩ := hw e List.mem_cons_self
      have hleft : (⟨e.node, ascending (e.cpus ++ cpus)⟩ : NodeEntry).left gone =
          ascending (e.cpus ++ cpus.filter fun c => !gone.contains c) := by
        rw [left, filter_ascending, List.filter_append, hrest]
      rw [value_merge_own he,
        value_remove_own (e := ⟨e.node, ascending (e.cpus ++ cpus)⟩) he, hleft,
        if_neg (by simp [hne]), value_merge_own he]
      split
      · rename_i hnil
        rw [hnil, List.append_nil, hrises.ascending_eq]
      · rfl
    · rw [value_merge_other he, value_remove_other he, ih
        (fun f hf => hw f (List.mem_cons_of_mem _ hf)) fun c hc hl =>
          hg c hc (listed_cons.2 (.inr hl)), value_merge_other he]
      split <;> rfl

end NodeEntry

/-! ## Workloads -/

namespace Spec

variable {profile node : String} {cpus kept gone : List CpuId} {s : Option Spec}

/-- Adding what is listed changes nothing. -/
theorem added_of_listed (h : Sound profile s) (hk : ∀ c ∈ kept, Listed s node c) :
    added profile node kept s = s := by
  by_cases hne : kept = []
  · rw [hne, added_nil]
  · obtain ⟨c, hc⟩ := List.exists_mem_of_ne_nil _ hne
    obtain ⟨t, rfl, -⟩ := hk c hc
    obtain ⟨-, ⟨hd, hw⟩, -⟩ := h t rfl
    rw [added_eq hne, Option.getD_some,
      NodeEntry.merge_of_listed hd hw hne fun c hc => listed_some.1 (hk c hc)]

/-- Adding is not affected by what was added before, if that is listed or added again. -/
theorem added_added_of_listed (h : Sound profile s)
    (hk : ∀ c ∈ kept, c ∈ cpus ∨ Listed s node c) :
    added profile node cpus (added profile node kept s) = added profile node cpus s := by
  by_cases hc : cpus = []
  · subst hc
    rw [added_nil, added_nil,
      added_of_listed h fun c hc => (hk c hc).resolve_left List.not_mem_nil]
  · by_cases hne : kept = []
    · rw [hne, added_nil]
    · rw [added_eq hc, added_eq hc, added_eq hne, Option.getD_some]
      rw [NodeEntry.merge_merge_of_listed]
      · cases s with
        | none => exact List.nodup_nil
        | some t => exact (h t rfl).2.1.1
      · exact fun c hc => (hk c hc).imp_right fun ⟨t, ht, hl⟩ => by rwa [ht]

/-- Removing what is not listed changes nothing. -/
theorem removed_of_not_listed (h : Sound profile s) (hg : ∀ c ∈ gone, ¬ Listed s node c) :
    removed node gone s = s := by
  cases s with
  | none => rfl
  | some t =>
    have hch : (t.remove node gone).changed = false :=
      NodeEntry.remove_of_not_listed (h t rfl).2.1.2 fun c hc hl => hg c hc (listed_some.2 hl)
    simp [removed, hch]

/-- Taking out some of what was added is to have added the rest. -/
theorem removed_added (h : Sound profile s) (hg : ∀ c ∈ gone, ¬ Listed s node c) :
    removed node gone (added profile node cpus s) =
      added profile node (cpus.filter fun c => !gone.contains c) s := by
  by_cases hc : cpus = []
  · subst hc
    rw [added_nil, List.filter_nil, added_nil, removed_of_not_listed h hg]
  · have hw : ∀ e ∈ (s.getD ⟨profile, []⟩).nodes, e.WellFormed := by
      cases s with
      | none => exact fun _ he => nomatch he
      | some t => exact (h t rfl).2.1.2
    have hnl : ∀ c ∈ gone, ¬ NodeEntry.Listed (s.getD ⟨profile, []⟩).nodes node c := by
      cases s with
      | none => exact fun _ _ => NodeEntry.not_listed_nil
      | some t => exact fun c hc hl => hg c hc (listed_some.2 hl)
    have hvalue := @NodeEntry.remove_merge node cpus gone _ hw hnl
    rw [added_eq hc, removed_some]
    by_cases hrest : cpus.filter (fun c => !gone.contains c) = []
    · rw [if_pos hrest] at hvalue
      rw [hrest, added_nil, hvalue]
      cases s with
      | none =>
        -- all that there is was added, so the workload goes away
        refine if_pos ⟨?_, rfl⟩
        refine Decidable.byContradiction fun hch => ?_
        rw [NodeEntry.remove_of_not_changed (Bool.not_eq_true _ ▸ hch)] at hvalue
        exact NodeEntry.merge_ne_nil hvalue
      | some t => exact if_neg fun hgone => (h t rfl).2.2 hgone.2
    · rw [if_neg hrest] at hvalue
      rw [hvalue, added_eq hrest]
      exact if_neg fun hgone => NodeEntry.merge_ne_nil hgone.2

end Spec

end PowerGrant
