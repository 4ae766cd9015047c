import PowerGrant.Grant.Shares

/-!
# What pods hold

* `Grant.Holds`: a pod holds a CPU on its node with a profile. `GrantTable.HeldByOther`: a pod other
  than a given one does.
* `Shares.Has`: a CPU is among the shares of a profile. `has_stale`, `has_releasable`: which CPUs an
  earlier grant leaves to be taken back, and which of those are taken.
* `Shares.Distinct`: each profile has one share; all shares that are made are of this kind.
-/

namespace PowerGrant

/-- A grant holds `cpu` on `node` with `profile`. -/
def Grant.Holds (g : Grant) (node profile : String) (cpu : CpuId) : Prop :=
  g.node = node ∧ ∃ c ∈ g.containers, c.profile = profile ∧ cpu ∈ c.cpus

namespace GrantTable

/-- Some pod of the table holds `cpu` on `node` with `profile`. -/
def Holds (t : GrantTable) (node profile : String) (cpu : CpuId) : Prop :=
  ∃ key g, t.find? key = some g ∧ g.Holds node profile cpu

/-- A pod of the table other than `key` holds `cpu` on `node` with `profile`. -/
def HeldByOther (t : GrantTable) (key : PodKey) (node profile : String) (cpu : CpuId) : Prop :=
  ∃ k g, k ≠ key ∧ t.find? k = some g ∧ g.Holds node profile cpu

variable {t : GrantTable} {key : PodKey} {g : Grant} {node profile : String} {cpu : CpuId}

/-- What is held is held by the pod `key` or by another one. -/
theorem Holds.other_or_own (h : t.Holds node profile cpu) (key : PodKey) :
    t.HeldByOther key node profile cpu ∨
      ∃ g, t.find? key = some g ∧ g.Holds node profile cpu := by
  obtain ⟨k, g, hf, hg⟩ := h
  by_cases hk : k = key
  · exact .inr ⟨g, hk ▸ hf, hg⟩
  · exact .inl ⟨k, g, hk, hf, hg⟩

theorem holds_insert :
    Holds (t.insert key g) node profile cpu ↔
      g.Holds node profile cpu ∨ t.HeldByOther key node profile cpu := by
  constructor
  · rintro ⟨k, h, hf, hh⟩
    rw [Table.find?_insert] at hf
    split at hf
    · exact .inl (Option.some.inj hf ▸ hh)
    · exact .inr ⟨k, h, ‹_›, hf, hh⟩
  · rintro (hg | ⟨k, h, hk, hf, hh⟩)
    · exact ⟨key, g, by rw [Table.find?_insert, if_pos rfl], hg⟩
    · exact ⟨k, h, by rw [Table.find?_insert, if_neg hk, hf], hh⟩

/-- What others hold does not depend on what is recorded for the pod. -/
theorem heldByOther_insert_self :
    HeldByOther (t.insert key g) key node profile cpu ↔ t.HeldByOther key node profile cpu := by
  constructor
  · rintro ⟨k, h, hk, hf, hh⟩
    rw [Table.find?_insert, if_neg hk] at hf
    exact ⟨k, h, hk, hf, hh⟩
  · rintro ⟨k, h, hk, hf, hh⟩
    exact ⟨k, h, hk, by rw [Table.find?_insert, if_neg hk, hf], hh⟩

theorem holds_erase :
    Holds (t.erase key) node profile cpu ↔ t.HeldByOther key node profile cpu := by
  constructor
  · rintro ⟨k, g, hf, hg⟩
    rw [Table.find?_erase] at hf
    split at hf
    · cases hf
    · exact ⟨k, g, ‹_›, hf, hg⟩
  · rintro ⟨k, g, hk, hf, hg⟩
    exact ⟨k, g, by rw [Table.find?_erase, if_neg hk, hf], hg⟩

end GrantTable

namespace Shares

/-- `cpu` is in a share of `profile`. -/
def Has (s : Shares) (profile : String) (cpu : CpuId) : Prop :=
  ∃ cpus, (profile, cpus) ∈ s ∧ cpu ∈ cpus

/-- No profile has two shares. -/
def Distinct (s : Shares) : Prop := (s.map Prod.fst).Nodup

variable {s : Shares} {cs next : List ContainerGrant} {t : GrantTable} {key : PodKey} {g : Grant}
  {keep : String → List CpuId} {node profile : String} {cpu : CpuId}

/-! ## CPUs of containers -/

@[simp] theorem mem_cpusOf :
    cpu ∈ cpusOf cs profile ↔ ∃ c ∈ cs, c.profile = profile ∧ cpu ∈ c.cpus := by
  simp [cpusOf, and_assoc]

theorem mem_ofContainers {cpus : List CpuId} :
    (profile, cpus) ∈ ofContainers cs ↔
      (∃ c ∈ cs, c.profile = profile) ∧ cpus = cpusOf cs profile := by
  simp only [ofContainers, List.mem_map, mem_ascending, Prod.mk.injEq]
  constructor
  · rintro ⟨p, hp, rfl, rfl⟩
    exact ⟨hp, rfl⟩
  · rintro ⟨hp, rfl⟩
    exact ⟨profile, hp, rfl, rfl⟩

theorem has_ofContainers : (ofContainers cs).Has profile cpu ↔ cpu ∈ cpusOf cs profile := by
  simp only [Has, mem_ofContainers]
  constructor
  · rintro ⟨cpus, ⟨-, rfl⟩, h⟩
    exact h
  · intro h
    obtain ⟨c, hc, hp, -⟩ := mem_cpusOf.1 h
    exact ⟨_, ⟨⟨c, hc, hp⟩, rfl⟩, h⟩

theorem holds_iff_mem_cpusOf :
    g.Holds node profile cpu ↔ g.node = node ∧ cpu ∈ cpusOf g.containers profile := by
  simp [Grant.Holds]

theorem ofContainers_ne_nil (h : cs ≠ []) : ofContainers cs ≠ [] := by
  simpa [ofContainers] using h

/-- The shares are in the order of their profiles. -/
theorem rises_ofContainers (cs : List ContainerGrant) : Rises ((ofContainers cs).map Prod.fst) := by
  have h : (ofContainers cs).map Prod.fst = ascending (cs.map ContainerGrant.profile) := by
    simp [ofContainers, Function.comp_def]
  rw [h]
  exact ascending_rises _

theorem distinct_ofContainers (cs : List ContainerGrant) : (ofContainers cs).Distinct := by
  refine (rises_ofContainers cs).imp fun {a b} hab => ?_
  rintro rfl
  simp at hab

/-! ## Shares without what is kept -/

theorem mem_without {rest : List CpuId} :
    (profile, rest) ∈ s.without keep ↔
      ∃ cpus, (profile, cpus) ∈ s ∧
        rest = cpus.filter (fun cpu => !(keep profile).contains cpu) ∧ rest ≠ [] := by
  simp only [without, List.mem_filter, List.mem_map, Prod.mk.injEq]
  constructor
  · rintro ⟨⟨⟨p, cpus⟩, hm, rfl, rfl⟩, hne⟩
    exact ⟨cpus, hm, rfl, by simpa using hne⟩
  · rintro ⟨cpus, hm, rfl, hne⟩
    exact ⟨⟨(profile, cpus), hm, rfl, rfl⟩, by simpa using hne⟩

theorem has_without :
    (s.without keep).Has profile cpu ↔ s.Has profile cpu ∧ cpu ∉ keep profile := by
  constructor
  · rintro ⟨rest, hm, hc⟩
    obtain ⟨cpus, hs, rfl, -⟩ := mem_without.1 hm
    rw [List.mem_filter] at hc
    exact ⟨⟨cpus, hs, hc.1⟩, by simpa using hc.2⟩
  · rintro ⟨⟨cpus, hm, hc⟩, hk⟩
    have hc' : cpu ∈ cpus.filter fun cpu => !(keep profile).contains cpu := by
      simp [List.mem_filter, hc, hk]
    exact ⟨_, mem_without.2 ⟨cpus, hm, rfl, List.ne_nil_of_mem hc'⟩, hc'⟩

/-- The shares that are left stay in their order. -/
theorem map_fst_without_sublist : ((s.without keep).map Prod.fst).Sublist (s.map Prod.fst) := by
  have hsub := (List.filter_sublist.map Prod.fst : ((s.without keep).map Prod.fst).Sublist _)
  rwa [List.map_map] at hsub

theorem Distinct.without (h : s.Distinct) : (s.without keep).Distinct :=
  List.Nodup.sublist map_fst_without_sublist h

theorem rises_without (h : Rises (s.map Prod.fst)) : Rises ((s.without keep).map Prod.fst) :=
  List.Pairwise.sublist map_fst_without_sublist h

/-! ## What is taken back -/

theorem mem_heldByOthers :
    cpu ∈ heldByOthers t key node profile ↔ t.HeldByOther key node profile cpu := by
  simp only [heldByOthers, mem_cpusOf, GrantTable.onNode, List.mem_flatMap, List.mem_filter,
    decide_eq_true_eq, GrantTable.HeldByOther, Grant.Holds]
  constructor
  · rintro ⟨c, ⟨⟨k, g⟩, ⟨⟨hm, hn⟩, hk⟩, hc⟩, hp, hcpu⟩
    exact ⟨k, g, hk, (t.mem_entries_iff k g).1 hm, hn, c, hc, hp, hcpu⟩
  · rintro ⟨k, g, hk, hf, hn, c, hc, hp, hcpu⟩
    exact ⟨c, ⟨(k, g), ⟨⟨(t.mem_entries_iff k g).2 hf, hn⟩, hk⟩, hc⟩, hp, hcpu⟩

/-- What an earlier grant holds is stale unless it is held on the same node again. -/
theorem has_stale :
    (stale g node next).Has profile cpu ↔
      cpu ∈ cpusOf g.containers profile ∧ ¬ (g.node = node ∧ cpu ∈ cpusOf next profile) := by
  rw [stale, has_without, has_ofContainers]
  split
  · simp [*]
  · simp [*]

/-- What is taken back from a node are the shares without what other pods hold there. -/
theorem has_releasable :
    (releasable t key node s).Has profile cpu ↔
      s.Has profile cpu ∧ ¬ t.HeldByOther key node profile cpu := by
  rw [releasable, has_without, mem_heldByOthers]

/-- A pod that holds what it is to hold has nothing that is stale. -/
theorem stale_self (g : Grant) : stale g g.node g.containers = [] := by
  refine List.eq_nil_iff_forall_not_mem.2 fun ⟨p, cpus⟩ hm => ?_
  have hne : cpus ≠ [] := (mem_without.1 hm).elim fun _ h => h.2.2
  obtain ⟨cpu, hc⟩ := List.exists_mem_of_ne_nil cpus hne
  obtain ⟨h, hn⟩ := has_stale.1 ⟨cpus, hm, hc⟩
  exact hn ⟨rfl, h⟩

theorem distinct_stale (g : Grant) (node : String) (next : List ContainerGrant) :
    (stale g node next).Distinct := (distinct_ofContainers g.containers).without

theorem Distinct.releasable (h : s.Distinct) : (releasable t key node s).Distinct := h.without

end Shares

end PowerGrant
