import PowerGrant.Workload.Spec

/-!
# What adding and removing CPUs does to the entries of a workload

* `NodeEntry.Listed`: a CPU stands in an entry of a node. Adding lists the CPUs given and nothing
  else (`listed_merge`). Removing unlists none but them (`listed_remove`), and all of them
  if the node has one entry only (`not_listed_remove`).
* `nodup_merge`, `wellFormed_merge`, `nodup_remove`, `wellFormed_remove`: both keep one entry per
  node and CPUs that rise.
* `changed_merge_iff`, `changed_remove_iff`: both say truly whether they changed anything, whatever
  the entries look like. `not_changed_merge_iff`, `not_changed_remove_iff`: when they did not.
* `merge_merge`, `remove_remove`: doing either twice is doing it once.
* `off`: the entries of other nodes, which neither touches (`off_merge`, `off_remove`).
* `perm_of_listed`: well-formed entries are determined by what they list, up to their order.
-/

namespace PowerGrant.NodeEntry

/-- `cpu` stands in one of the entries of `node`. -/
def Listed (es : List NodeEntry) (node : String) (cpu : CpuId) : Prop :=
  ∃ e ∈ es, e.node = node ∧ cpu ∈ e.cpus

variable {node n : String} {cpus : List CpuId} {cpu : CpuId} {e : NodeEntry} {es : List NodeEntry}

@[simp] theorem not_listed_nil : ¬ Listed [] n cpu := by
  rintro ⟨e, he, -⟩
  cases he

@[simp] theorem listed_cons :
    Listed (e :: es) n cpu ↔ e.node = n ∧ cpu ∈ e.cpus ∨ Listed es n cpu := by
  simp [Listed]

/-- Nothing is listed for a node without an entry. -/
theorem not_listed_of_not_mem (h : n ∉ es.map NodeEntry.node) : ¬ Listed es n cpu := by
  rintro ⟨e, he, rfl, -⟩
  exact h (List.mem_map_of_mem he)

/-! ## Adding -/

theorem value_merge_own (he : e.node = node) :
    (merge node cpus (e :: es)).value = { e with cpus := ascending (e.cpus ++ cpus) } :: es := by
  simp only [merge, if_pos he]
  split
  · rename_i hu
    rw [hu]
  · rfl

theorem value_merge_other (he : e.node ≠ node) :
    (merge node cpus (e :: es)).value = e :: (merge node cpus es).value := by
  simp only [merge, if_neg he]

/-- After `cpus` were added on `node`, they are listed there beside what was listed before. -/
theorem listed_merge :
    Listed (merge node cpus es).value n cpu ↔ Listed es n cpu ∨ n = node ∧ cpu ∈ cpus := by
  induction es with
  | nil => simp [merge, eq_comm]
  | cons e es ih =>
    by_cases he : e.node = node
    · simp only [value_merge_own he, listed_cons, mem_ascending, List.mem_append]
      grind
    · rw [value_merge_other he, listed_cons, listed_cons, ih, or_assoc]

/-- Adding keeps the nodes in place and puts a new one at the end. -/
theorem map_node_merge :
    (merge node cpus es).value.map NodeEntry.node =
      if node ∈ es.map NodeEntry.node then es.map NodeEntry.node
      else es.map NodeEntry.node ++ [node] := by
  induction es with
  | nil => simp [merge]
  | cons e es ih =>
    by_cases he : e.node = node
    · simp [value_merge_own he, he]
    · have he' : node ≠ e.node := fun h => he h.symm
      rw [value_merge_other he, List.map_cons, ih]
      simp only [List.map_cons, List.mem_cons, he', false_or]
      split <;> rfl

theorem nodup_merge (h : (es.map NodeEntry.node).Nodup) :
    ((merge node cpus es).value.map NodeEntry.node).Nodup := by
  rw [map_node_merge]
  split
  · exact h
  · rename_i hn
    refine List.nodup_append.2 ⟨h, by simp, ?_⟩
    rintro a ha b hb rfl
    exact hn (List.mem_singleton.1 hb ▸ ha)

theorem wellFormed_merge (hc : cpus ≠ []) (h : ∀ e ∈ es, e.WellFormed) :
    ∀ e ∈ (merge node cpus es).value, e.WellFormed := by
  induction es with
  | nil =>
    intro e he
    obtain rfl := List.mem_singleton.1 he
    exact ⟨by simpa using hc, ascending_rises _⟩
  | cons e es ih =>
    obtain ⟨he, hes⟩ := List.forall_mem_cons.1 h
    by_cases hn : e.node = node
    · rw [value_merge_own hn]
      exact List.forall_mem_cons.2 ⟨⟨by simp [he.1], ascending_rises _⟩, hes⟩
    · rw [value_merge_other hn]
      exact List.forall_mem_cons.2 ⟨he, ih hes⟩

theorem merge_ne_nil : (merge node cpus es).value ≠ [] := by
  cases es with
  | nil => simp [merge]
  | cons e es =>
    by_cases he : e.node = node
    · simp [value_merge_own he]
    · simp [value_merge_other he]

theorem merge_of_not_changed (h : (merge node cpus es).changed = false) :
    (merge node cpus es).value = es := by
  induction es with
  | nil => simp [merge] at h
  | cons e es ih =>
    simp only [merge] at h ⊢
    split at h
    · split at h
      · rename_i he hu
        rw [if_pos he, if_pos hu]
      · cases h
    · rename_i he
      rw [if_neg he, ih h]

/-- Adding says truly whether it changed anything. -/
theorem changed_merge_iff : (merge node cpus es).changed = true ↔ (merge node cpus es).value ≠ es := by
  refine ⟨fun h => ?_, fun h => ?_⟩
  · induction es with
    | nil => exact merge_ne_nil
    | cons e es ih =>
      by_cases he : e.node = node
      · simp only [merge, if_pos he] at h ⊢
        split at h
        · cases h
        · rename_i hu
          rw [if_neg hu]
          exact fun heq => hu (congrArg NodeEntry.cpus (List.cons.inj heq).1)
      · simp only [merge, if_neg he] at h ⊢
        exact fun heq => ih h (List.cons.inj heq).2
  · cases hch : (merge node cpus es).changed with
    | true => rfl
    | false => exact absurd (merge_of_not_changed hch) h

theorem ascending_append_of_subset {xs : List CpuId} (h : ∀ c ∈ cpus, c ∈ xs) :
    ascending (xs ++ cpus) = ascending xs := by
  refine (ascending_rises _).eq_of_mem_iff (ascending_rises _) fun c => ?_
  simp only [mem_ascending, List.mem_append]
  exact ⟨fun hc => hc.elim id (h c), .inl⟩

/-- Adding to a list adds nothing just if the list rises and has all of it. -/
theorem ascending_append_eq_self {xs : List CpuId} :
    ascending (xs ++ cpus) = xs ↔ Rises xs ∧ ∀ c ∈ cpus, c ∈ xs := by
  refine ⟨fun h => ⟨h ▸ ascending_rises _, fun c hc => ?_⟩, fun ⟨hr, hs⟩ => ?_⟩
  · rw [← h]
    exact mem_ascending.2 (List.mem_append_right xs hc)
  · rw [ascending_append_of_subset hs, hr.ascending_eq]

/-- Adding changes nothing just if the first entry of the node rises and has the CPUs already. -/
theorem not_changed_merge_iff :
    (merge node cpus es).changed = false ↔
      ∃ e, es.find? (fun e => e.node = node) = some e ∧ Rises e.cpus ∧ ∀ c ∈ cpus, c ∈ e.cpus := by
  induction es with
  | nil => simp [merge]
  | cons e es ih =>
    by_cases he : e.node = node
    · have hunion : (merge node cpus (e :: es)).changed = false ↔
          ascending (e.cpus ++ cpus) = e.cpus := by
        simp only [merge, if_pos he]
        split <;> simp [*]
      rw [hunion, ascending_append_eq_self]
      simp [he]
    · have hrest : (merge node cpus (e :: es)).changed = (merge node cpus es).changed := by
        simp only [merge, if_neg he]
      rw [hrest, ih]
      simp [he]

/-- Adding the same CPUs again changes nothing. -/
theorem merge_merge :
    (merge node cpus (merge node cpus es).value).value = (merge node cpus es).value := by
  have hunion (xs : List CpuId) :
      ascending (ascending (xs ++ cpus) ++ cpus) = ascending (xs ++ cpus) := by
    rw [ascending_append_of_subset fun c hc => mem_ascending.2 (List.mem_append_right xs hc)]
    exact (ascending_rises _).ascending_eq
  induction es with
  | nil =>
    show (merge node cpus [⟨node, ascending cpus⟩]).value = [⟨node, ascending cpus⟩]
    rw [value_merge_own (e := ⟨node, _⟩) rfl]
    simpa using hunion []
  | cons e es ih =>
    by_cases he : e.node = node
    · rw [value_merge_own he, value_merge_own (e := ⟨e.node, ascending (e.cpus ++ cpus)⟩) he,
        hunion]
    · rw [value_merge_other he, value_merge_other he, ih]

/-! ## Removing -/

/-- The CPUs of an entry that are left without `cpus`. -/
def left (e : NodeEntry) (cpus : List CpuId) : List CpuId :=
  e.cpus.filter fun cpu => !cpus.contains cpu

@[simp] theorem mem_left : cpu ∈ e.left cpus ↔ cpu ∈ e.cpus ∧ cpu ∉ cpus := by simp [left]

theorem left_left : ({ e with cpus := e.left cpus } : NodeEntry).left cpus = e.left cpus := by
  simp [left, List.filter_filter]

theorem remove_own (he : e.node = node) :
    remove node cpus (e :: es) =
      if e.left cpus = [] then ⟨es, true⟩
      else if e.left cpus = e.cpus then ⟨e :: es, false⟩
      else ⟨{ e with cpus := e.left cpus } :: es, true⟩ := if_pos he

theorem value_remove_own (he : e.node = node) :
    (remove node cpus (e :: es)).value =
      if e.left cpus = [] then es else { e with cpus := e.left cpus } :: es := by
  rw [remove_own he]
  by_cases hr : e.left cpus = []
  · rw [if_pos hr, if_pos hr]
  · rw [if_neg hr, if_neg hr]
    split
    · rename_i hs
      rw [hs]
    · rfl

theorem value_remove_other (he : e.node ≠ node) :
    (remove node cpus (e :: es)).value = e :: (remove node cpus es).value := by
  simp only [remove, if_neg he]

theorem value_remove_of_not_mem (h : node ∉ es.map NodeEntry.node) :
    (remove node cpus es).value = es := by
  induction es with
  | nil => rfl
  | cons e es ih =>
    rw [List.map_cons, List.mem_cons, not_or] at h
    rw [value_remove_other (Ne.symm h.1), ih h.2]

theorem listed_of_remove (h : Listed (remove node cpus es).value n cpu) : Listed es n cpu := by
  induction es with
  | nil => exact h
  | cons e es ih =>
    rw [listed_cons]
    by_cases he : e.node = node
    · rw [value_remove_own he] at h
      split at h
      · exact .inr h
      · exact (listed_cons.1 h).imp_left fun ⟨hn, hc⟩ => ⟨hn, (mem_left.1 hc).1⟩
    · rw [value_remove_other he] at h
      exact (listed_cons.1 h).imp_right ih

/-- What is listed stays listed, unless it is one of the CPUs removed from the node. -/
theorem listed_remove (h : Listed es n cpu) (hk : n = node → cpu ∉ cpus) :
    Listed (remove node cpus es).value n cpu := by
  induction es with
  | nil => exact h
  | cons e es ih =>
    by_cases he : e.node = node
    · have hleft : e.node = n → cpu ∈ e.cpus → cpu ∈ e.left cpus := fun hn hc =>
        mem_left.2 ⟨hc, hk (hn.symm.trans he)⟩
      rw [value_remove_own he]
      split
      · rename_i hr
        rcases listed_cons.1 h with ⟨hn, hc⟩ | h
        · exact absurd (hr ▸ hleft hn hc) List.not_mem_nil
        · exact h
      · exact listed_cons.2 ((listed_cons.1 h).imp_left fun ⟨hn, hc⟩ => ⟨hn, hleft hn hc⟩)
    · rw [value_remove_other he]
      exact listed_cons.2 ((listed_cons.1 h).imp_right ih)

/-- What was removed is not listed any more if no node has two entries. -/
theorem not_listed_remove (h : (es.map NodeEntry.node).Nodup) (hc : cpu ∈ cpus) :
    ¬ Listed (remove node cpus es).value node cpu := by
  induction es with
  | nil => exact not_listed_nil
  | cons e es ih =>
    obtain ⟨hn, hd⟩ := List.nodup_cons.1 h
    by_cases he : e.node = node
    · have hes : ¬ Listed es node cpu := not_listed_of_not_mem (he ▸ hn)
      rw [value_remove_own he]
      split
      · exact hes
      · rw [listed_cons]
        rintro (⟨-, hm⟩ | hl)
        · exact (mem_left.1 hm).2 hc
        · exact hes hl
    · rw [value_remove_other he, listed_cons]
      rintro (⟨hn', -⟩ | hl)
      · exact he hn'
      · exact ih hd hl

theorem listed_remove_iff (h : (es.map NodeEntry.node).Nodup) :
    Listed (remove node cpus es).value n cpu ↔ Listed es n cpu ∧ (n = node → cpu ∉ cpus) := by
  refine ⟨fun hl => ⟨listed_of_remove hl, ?_⟩, fun ⟨hl, hk⟩ => listed_remove hl hk⟩
  rintro rfl hc
  exact not_listed_remove h hc hl

/-- The nodes stay in place, but for one that has lost its last CPU. -/
theorem map_node_remove (h : (es.map NodeEntry.node).Nodup) :
    (∃ cpu, Listed (remove node cpus es).value node cpu) ∧
        (remove node cpus es).value.map NodeEntry.node = es.map NodeEntry.node ∨
      (∀ cpu, ¬ Listed (remove node cpus es).value node cpu) ∧
        (remove node cpus es).value.map NodeEntry.node = (es.map NodeEntry.node).erase node := by
  induction es with
  | nil => exact .inr ⟨fun _ => not_listed_nil, rfl⟩
  | cons e es ih =>
    obtain ⟨hn, hd⟩ := List.nodup_cons.1 h
    by_cases he : e.node = node
    · rw [value_remove_own he]
      split
      · refine .inr ⟨fun _ => not_listed_of_not_mem (he ▸ hn), ?_⟩
        rw [List.map_cons, he, List.erase_cons_head]
      · rename_i hleft
        obtain ⟨cpu, hc⟩ := List.exists_mem_of_ne_nil _ hleft
        exact .inl ⟨⟨cpu, listed_cons.2 (.inl ⟨he, hc⟩)⟩, rfl⟩
    · simp only [value_remove_other he, listed_cons, he, false_and, false_or, List.map_cons]
      rcases ih hd with ⟨hl, heq⟩ | ⟨hl, heq⟩
      · exact .inl ⟨hl, by rw [heq]⟩
      · exact .inr ⟨hl, by rw [List.erase_cons_tail (by simpa using he), heq]⟩

theorem sublist_remove :
    ((remove node cpus es).value.map NodeEntry.node).Sublist (es.map NodeEntry.node) := by
  induction es with
  | nil => exact List.Sublist.refl _
  | cons e es ih =>
    by_cases he : e.node = node
    · rw [value_remove_own he]
      split
      · exact List.sublist_cons_self _ _
      · exact List.Sublist.refl _
    · rw [value_remove_other he]
      exact ih.cons_cons _

theorem nodup_remove (h : (es.map NodeEntry.node).Nodup) :
    ((remove node cpus es).value.map NodeEntry.node).Nodup :=
  h.sublist sublist_remove

theorem wellFormed_remove (h : ∀ e ∈ es, e.WellFormed) :
    ∀ e ∈ (remove node cpus es).value, e.WellFormed := by
  induction es with
  | nil => exact h
  | cons e es ih =>
    obtain ⟨he, hes⟩ := List.forall_mem_cons.1 h
    by_cases hn : e.node = node
    · rw [value_remove_own hn]
      split
      · exact hes
      · rename_i hr
        exact List.forall_mem_cons.2 ⟨⟨hr, he.2.filter _⟩, hes⟩
    · rw [value_remove_other hn]
      exact List.forall_mem_cons.2 ⟨he, ih hes⟩

theorem remove_of_not_changed (h : (remove node cpus es).changed = false) :
    (remove node cpus es).value = es := by
  induction es with
  | nil => rfl
  | cons e es ih =>
    simp only [remove] at h ⊢
    split at h
    · split at h
      · cases h
      · split at h
        · rename_i he hr hs
          rw [if_pos he, if_neg hr, if_pos hs]
        · cases h
    · rename_i he
      rw [if_neg he, ih h]

/-- Removing says truly whether it changed anything. -/
theorem changed_remove_iff :
    (remove node cpus es).changed = true ↔ (remove node cpus es).value ≠ es := by
  refine ⟨fun h heq => ?_, fun h => ?_⟩
  · induction es with
    | nil => cases h
    | cons e es ih =>
      by_cases he : e.node = node
      · rw [remove_own he] at h heq
        split at h
        · rename_i hr
          rw [if_pos hr] at heq
          exact List.cons_ne_self e es heq.symm
        · split at h
          · cases h
          · rename_i hr hs
            rw [if_neg hr, if_neg hs] at heq
            exact hs (congrArg NodeEntry.cpus (List.cons.inj heq).1)
      · simp only [remove, if_neg he] at h heq
        exact ih h (List.cons.inj heq).2
  · cases hch : (remove node cpus es).changed with
    | true => rfl
    | false => exact absurd (remove_of_not_changed hch) h

theorem left_eq_self : e.left cpus = e.cpus ↔ ∀ c ∈ cpus, c ∉ e.cpus := by
  simp only [left, List.filter_eq_self, Bool.not_eq_true', List.contains_eq_mem,
    decide_eq_false_iff_not]
  exact ⟨fun h c hc hm => h c hm hc, fun h c hm hc => h c hc hm⟩

/-- Removing changes nothing just if the node has no entry, or its first one is not empty and has
none of the CPUs. -/
theorem not_changed_remove_iff :
    (remove node cpus es).changed = false ↔
      ∀ e, es.find? (fun e => e.node = node) = some e → e.cpus ≠ [] ∧ ∀ c ∈ cpus, c ∉ e.cpus := by
  induction es with
  | nil => simp [remove]
  | cons e es ih =>
    by_cases he : e.node = node
    · have hleft : (remove node cpus (e :: es)).changed = false ↔
          e.cpus ≠ [] ∧ e.left cpus = e.cpus := by
        rw [remove_own he]
        grind
      rw [hleft, left_eq_self]
      simp [he]
    · have hrest : (remove node cpus (e :: es)).changed = (remove node cpus es).changed := by
        simp only [remove, if_neg he]
      rw [hrest, ih]
      simp [he]

/-- Removing the same CPUs again changes nothing if no node has two entries. -/
theorem remove_remove (h : (es.map NodeEntry.node).Nodup) :
    (remove node cpus (remove node cpus es).value).value = (remove node cpus es).value := by
  induction es with
  | nil => rfl
  | cons e es ih =>
    obtain ⟨hn, hd⟩ := List.nodup_cons.1 h
    by_cases he : e.node = node
    · rw [value_remove_own he]
      split
      · exact value_remove_of_not_mem (he ▸ hn)
      · rename_i hr
        rw [value_remove_own (e := ⟨e.node, e.left cpus⟩) he, left_left, if_neg hr]
    · rw [value_remove_other he, value_remove_other he, ih hd]

/-! ## The entries of other nodes -/

variable {nodes : List String}

/-- The entries that are not of `nodes`. -/
def off (nodes : List String) (es : List NodeEntry) : List NodeEntry :=
  es.filter fun e => e.node ∉ nodes

theorem off_cons {e : NodeEntry} :
    off nodes (e :: es) = if e.node ∈ nodes then off nodes es else e :: off nodes es := by
  by_cases he : e.node ∈ nodes <;> simp [off, he]

/-- Without the entries of more nodes it does not matter whether those of one were kept. -/
theorem off_off (h : node ∈ nodes) : off nodes (off [node] es) = off nodes es := by
  rw [off, off, List.filter_filter]
  refine List.filter_congr fun e _ => ?_
  by_cases he : e.node = node <;> simp [he, h]

theorem off_merge (h : node ∈ nodes) : off nodes (merge node cpus es).value = off nodes es := by
  induction es with
  | nil => simp [merge, off, h]
  | cons e es ih =>
    by_cases he : e.node = node
    · rw [value_merge_own he, off_cons, off_cons, if_pos (he ▸ h), if_pos (he ▸ h)]
    · rw [value_merge_other he, off_cons, off_cons, ih]

theorem off_remove (h : node ∈ nodes) : off nodes (remove node cpus es).value = off nodes es := by
  induction es with
  | nil => rfl
  | cons e es ih =>
    by_cases he : e.node = node
    · have hnode : e.node ∈ nodes := he ▸ h
      rw [value_remove_own he, @off_cons es, if_pos hnode]
      split
      · rfl
      · rw [off_cons, if_pos hnode]
    · rw [value_remove_other he, off_cons, off_cons, ih]

/-! ## What is listed decides the entries -/

theorem nodup_of_nodup_map (h : (es.map NodeEntry.node).Nodup) : es.Nodup :=
  List.Pairwise.of_map NodeEntry.node (fun _ _ hne heq => hne (congrArg _ heq)) h

/-- With one entry per node, a CPU is listed for a node only in its entry. -/
theorem listed_node_iff (h : (es.map NodeEntry.node).Nodup) (he : e ∈ es) :
    Listed es e.node cpu ↔ cpu ∈ e.cpus := by
  induction es with
  | nil => cases he
  | cons a es ih =>
    obtain ⟨hn, hd⟩ := List.nodup_cons.1 h
    rw [listed_cons]
    rcases List.mem_cons.1 he with rfl | he
    · exact ⟨fun hl => hl.elim And.right fun hl => absurd hl (not_listed_of_not_mem hn),
        fun hc => .inl ⟨rfl, hc⟩⟩
    · have hne : a.node ≠ e.node := fun heq => hn (heq ▸ List.mem_map_of_mem he)
      rw [← ih hd he]
      exact ⟨fun hl => hl.resolve_left fun h => hne h.1, .inr⟩

variable {es' : List NodeEntry}

/-- An entry stands wherever the same CPUs are listed. -/
theorem mem_of_listed (hd : (es.map NodeEntry.node).Nodup) (hd' : (es'.map NodeEntry.node).Nodup)
    (hw : ∀ e ∈ es, e.WellFormed) (hw' : ∀ e ∈ es', e.WellFormed)
    (h : ∀ n cpu, Listed es n cpu ↔ Listed es' n cpu) (he : e ∈ es) : e ∈ es' := by
  obtain ⟨cpu, hc⟩ := List.exists_mem_of_ne_nil _ (hw e he).1
  obtain ⟨f, hf, hn, -⟩ := (h e.node cpu).1 ⟨e, he, rfl, hc⟩
  have hcpus : e.cpus = f.cpus := by
    refine (hw e he).2.eq_of_mem_iff (hw' f hf).2 fun c => ?_
    rw [← listed_node_iff hd he, h, ← hn, listed_node_iff hd' hf]
  obtain ⟨node, cpus⟩ := e
  obtain ⟨node', cpus'⟩ := f
  obtain rfl : node' = node := hn
  obtain rfl : cpus = cpus' := hcpus
  exact hf

theorem perm_of_listed (hd : (es.map NodeEntry.node).Nodup) (hd' : (es'.map NodeEntry.node).Nodup)
    (hw : ∀ e ∈ es, e.WellFormed) (hw' : ∀ e ∈ es', e.WellFormed)
    (h : ∀ n cpu, Listed es n cpu ↔ Listed es' n cpu) : es.Perm es' :=
  (List.perm_ext_iff_of_nodup (nodup_of_nodup_map hd) (nodup_of_nodup_map hd')).2 fun _ =>
    ⟨mem_of_listed hd hd' hw hw' h, mem_of_listed hd' hd hw' hw fun n c => (h n c).symm⟩

end PowerGrant.NodeEntry
