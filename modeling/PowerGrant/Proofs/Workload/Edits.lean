import Mathlib.Data.Finset.Lattice.Lemmas
import Mathlib.Data.Finset.SDiff
import PowerGrant.Proofs.Workload.Specs

/-!
# A workload under edits is a set of CPUs for each node

`Spec.merge` and `Spec.remove` work on a list of entries, which they lengthen and shorten. What
they compute is simpler: `NodeSets` has a set of CPUs for each node and the nodes whose set is not
empty, in the order in which they came.

* `Represents.edit`: an edit of a well-formed spec is the union or the difference of sets.
* `editedAt_edit`: it leaves the entries of the other nodes, and their order, as they were.
* `edited_represents`: so do any number of edits, one after another, of any nodes with any CPUs.
-/

namespace PowerGrant

/-- What is done to a spec: CPUs are added on a node, or taken out. -/
inductive Spec.Edit
  | merge (node : String) (cpus : List CpuId)
  | remove (node : String) (cpus : List CpuId)

namespace Spec.Edit

/-- The node whose CPUs are added or taken out. -/
def node : Edit → String
  | merge node _ => node
  | remove node _ => node

end Spec.Edit

/-- A set of CPUs for each node. The nodes that have one are in the order in which they came. -/
structure NodeSets where
  nodes : List String
  cpus : String → Finset CpuId

namespace NodeSets

open Spec (Edit)

/-- The sets with `cpus` as that of `node`, which goes if the set is empty and comes last if it had
none. -/
def put (m : NodeSets) (node : String) (cpus : Finset CpuId) : NodeSets where
  nodes :=
    if cpus = ∅ then m.nodes.erase node
    else if node ∈ m.nodes then m.nodes
    else m.nodes ++ [node]
  cpus := Function.update m.cpus node cpus

/-- Adding is the union with the set of the node, and taking out the difference. -/
def edit (m : NodeSets) : Edit → NodeSets
  | .merge node cpus => m.put node (m.cpus node ∪ cpus.toFinset)
  | .remove node cpus => m.put node (m.cpus node \ cpus.toFinset)

variable {m : NodeSets} {node n : String} {cpus : Finset CpuId}

theorem mem_cpus_put {cpu : CpuId} :
    cpu ∈ (m.put node cpus).cpus n ↔ if n = node then cpu ∈ cpus else cpu ∈ m.cpus n := by
  by_cases hn : n = node
  · subst hn
    simp [put]
  · simp [put, hn]

theorem put_self (h : node ∈ m.nodes ↔ m.cpus node ≠ ∅) : m.put node (m.cpus node) = m := by
  obtain ⟨nodes, cpus⟩ := m
  simp only [put, Function.update_eq_self, mk.injEq, and_true]
  split
  · rename_i hempty
    exact List.erase_of_not_mem fun hmem => h.1 hmem hempty
  · rename_i hsome
    exact if_pos (h.2 hsome)

end NodeSets

/-! ## Edits one after another -/

namespace Spec

/-- The spec after an edit. -/
def edit (s : Spec) : Edit → Spec
  | .merge node cpus => (s.merge node cpus).value
  | .remove node cpus => (s.remove node cpus).value

/-- The spec after edits one after another. -/
def edited (s : Spec) (edits : List Edit) : Spec := edits.foldl edit s

/-- The set of CPUs of each node. -/
def sets (s : Spec) : NodeSets where
  nodes := s.nodes.map NodeEntry.node
  cpus node := (s.cpusOn node).toFinset

/-- The entries of `s` are those of `m`, in its order: a node without CPUs has none. -/
structure Represents (s : Spec) (m : NodeSets) : Prop where
  wellFormed : s.WellFormed
  nodes : s.nodes.map NodeEntry.node = m.nodes
  cpus : ∀ e ∈ s.nodes, e.cpus.toFinset = m.cpus e.node
  present : ∀ node, node ∈ s.nodes.map NodeEntry.node ↔ m.cpus node ≠ ∅

/-- `t` is `s` but for the entry of `node`. The others keep their order, and if that of `node` is
new, it comes last. -/
structure EditedAt (node : String) (s t : Spec) : Prop where
  profile : t.profile = s.profile
  others : NodeEntry.off [node] t.nodes = NodeEntry.off [node] s.nodes
  order : (t.nodes.map NodeEntry.node).Sublist (s.nodes.map NodeEntry.node) ∨
    t.nodes.map NodeEntry.node = s.nodes.map NodeEntry.node ++ [node]

variable {s : Spec} {m : NodeSets} {node : String} {cpu : CpuId} {edits : List Edit} {e : Edit}

theorem mem_nodes_iff_listed (h : s.WellFormed) :
    node ∈ s.nodes.map NodeEntry.node ↔ ∃ cpu, NodeEntry.Listed s.nodes node cpu := by
  refine ⟨fun hmem => ?_, fun ⟨_, hl⟩ => by_contra fun hmem =>
    NodeEntry.not_listed_of_not_mem hmem hl⟩
  obtain ⟨e, he, rfl⟩ := List.mem_map.1 hmem
  obtain ⟨cpu, hc⟩ := List.exists_mem_of_ne_nil _ (h.2 e he).1
  exact ⟨cpu, e, he, rfl, hc⟩

theorem mem_cpusOn_iff (h : (s.nodes.map NodeEntry.node).Nodup) :
    cpu ∈ s.cpusOn node ↔ NodeEntry.Listed s.nodes node cpu := by
  obtain ⟨profile, es⟩ := s
  induction es with
  | nil => simp [cpusOn]
  | cons e es ih =>
    obtain ⟨hn, hd⟩ := List.nodup_cons.1 h
    rw [NodeEntry.listed_cons]
    by_cases he : e.node = node
    · have hes : ¬ NodeEntry.Listed es node cpu := NodeEntry.not_listed_of_not_mem (he ▸ hn)
      simp [cpusOn, he, hes]
    · simpa [cpusOn, he] using ih hd

/-- It is enough to know what is listed. -/
theorem Represents.of_listed (hw : s.WellFormed) (hn : s.nodes.map NodeEntry.node = m.nodes)
    (hl : ∀ n cpu, NodeEntry.Listed s.nodes n cpu ↔ cpu ∈ m.cpus n) : s.Represents m where
  wellFormed := hw
  nodes := hn
  cpus e he := by
    ext cpu
    rw [List.mem_toFinset, ← NodeEntry.listed_node_iff hw.1 he, hl]
  present n := by
    simp only [mem_nodes_iff_listed hw, hl, ← Finset.nonempty_iff_ne_empty, Finset.Nonempty]

theorem Represents.listed (h : s.Represents m) (n : String) (cpu : CpuId) :
    NodeEntry.Listed s.nodes n cpu ↔ cpu ∈ m.cpus n := by
  constructor
  · rintro ⟨e, he, rfl, hc⟩
    rw [← h.cpus e he]
    exact List.mem_toFinset.2 hc
  · intro hc
    obtain ⟨e, he, rfl⟩ := List.mem_map.1 ((h.present n).2 (Finset.ne_empty_of_mem hc))
    rw [← h.cpus e he, List.mem_toFinset] at hc
    exact ⟨e, he, rfl, hc⟩

/-- A well-formed spec represents its own sets. -/
theorem represents_sets (h : s.WellFormed) : s.Represents s.sets :=
  .of_listed h rfl fun n cpu => by rw [sets, List.mem_toFinset, mem_cpusOn_iff h.1]

theorem Represents.merge {cpus : List CpuId} (h : s.Represents m) :
    (s.merge node cpus).value.Represents (m.put node (m.cpus node ∪ cpus.toFinset)) := by
  by_cases hc : cpus = []
  · -- adding nothing puts the set that was there
    have hpresent : node ∈ m.nodes ↔ m.cpus node ≠ ∅ := by rw [← h.nodes, h.present]
    subst hc
    rwa [List.toFinset_nil, Finset.union_empty, NodeSets.put_self hpresent]
  · rw [(merge_of_ne_nil hc).1]
    refine .of_listed ⟨NodeEntry.nodup_merge h.wellFormed.1,
      NodeEntry.wellFormed_merge hc h.wellFormed.2⟩ ?_ fun n cpu => ?_
    · have hsome : m.cpus node ∪ cpus.toFinset ≠ ∅ := by simp [Finset.union_eq_empty, hc]
      simp only [NodeSets.put, if_neg hsome, NodeEntry.map_node_merge, h.nodes]
    · rw [NodeEntry.listed_merge, h.listed, NodeSets.mem_cpus_put]
      by_cases hn : n = node <;> simp [hn]

theorem Represents.remove {cpus : List CpuId} (h : s.Represents m) :
    (s.remove node cpus).value.Represents (m.put node (m.cpus node \ cpus.toFinset)) := by
  have hd := h.wellFormed.1
  have hlisted (n : String) (cpu : CpuId) :
      NodeEntry.Listed (NodeEntry.remove node cpus s.nodes).value n cpu ↔
        cpu ∈ (m.put node (m.cpus node \ cpus.toFinset)).cpus n := by
    rw [NodeEntry.listed_remove_iff hd, h.listed, NodeSets.mem_cpus_put]
    by_cases hn : n = node <;> simp [hn]
  refine .of_listed ⟨NodeEntry.nodup_remove hd, NodeEntry.wellFormed_remove h.wellFormed.2⟩ ?_
    hlisted
  show (NodeEntry.remove node cpus s.nodes).value.map NodeEntry.node = _
  rcases @NodeEntry.map_node_remove node cpus s.nodes hd with ⟨⟨cpu, hleft⟩, heq⟩ | ⟨hgone, heq⟩
  · rw [hlisted, NodeSets.mem_cpus_put, if_pos rfl] at hleft
    have hmem : node ∈ m.nodes := by
      rw [← h.nodes, h.present]
      exact Finset.ne_empty_of_mem (Finset.mem_sdiff.1 hleft).1
    rw [heq, NodeSets.put, if_neg (Finset.ne_empty_of_mem hleft), if_pos hmem, h.nodes]
  · have hempty : m.cpus node \ cpus.toFinset = ∅ := Finset.eq_empty_of_forall_notMem fun cpu hc =>
      hgone cpu ((hlisted node cpu).2 (NodeSets.mem_cpus_put.2 (by rwa [if_pos rfl])))
    rw [heq, NodeSets.put, if_pos hempty, h.nodes]

/-- An edit of a spec is the same edit of its sets. -/
theorem Represents.edit (h : s.Represents m) (e : Edit) : (s.edit e).Represents (m.edit e) :=
  match e with
  | .merge _ _ => h.merge
  | .remove _ _ => h.remove

theorem editedAt_merge {cpus : List CpuId} : EditedAt node s (s.merge node cpus).value := by
  by_cases hc : cpus = []
  · subst hc
    exact ⟨rfl, rfl, .inl (List.Sublist.refl _)⟩
  · rw [(merge_of_ne_nil hc).1]
    refine ⟨rfl, NodeEntry.off_merge (List.mem_singleton_self _), ?_⟩
    simp only [NodeEntry.map_node_merge]
    split
    · exact .inl (List.Sublist.refl _)
    · exact .inr rfl

theorem editedAt_remove {cpus : List CpuId} : EditedAt node s (s.remove node cpus).value where
  profile := rfl
  others := NodeEntry.off_remove (List.mem_singleton_self _)
  order := .inl NodeEntry.sublist_remove

/-- An edit leaves all but the entry of its node as it is. -/
theorem editedAt_edit : (e : Edit) → EditedAt e.node s (s.edit e)
  | .merge _ _ => editedAt_merge
  | .remove _ _ => editedAt_remove

theorem EditedAt.off_eq {t : Spec} {nodes : List String} (h : EditedAt node s t)
    (hn : node ∈ nodes) : NodeEntry.off nodes t.nodes = NodeEntry.off nodes s.nodes := by
  rw [← NodeEntry.off_off hn, h.others, NodeEntry.off_off hn]

theorem edited_append_singleton : s.edited (edits ++ [e]) = (s.edited edits).edit e := by
  simp [edited]

theorem Represents.edited (h : s.Represents m) (edits : List Edit) :
    (s.edited edits).Represents (edits.foldl NodeSets.edit m) := by
  induction edits generalizing s m with
  | nil => exact h
  | cons e edits ih => exact ih (h.edit e)

theorem profile_edited : (s.edited edits).profile = s.profile := by
  induction edits generalizing s with
  | nil => rfl
  | cons e edits ih => exact ih.trans (editedAt_edit e).profile

theorem off_edited {nodes : List String} (h : ∀ e ∈ edits, e.node ∈ nodes) :
    NodeEntry.off nodes (s.edited edits).nodes = NodeEntry.off nodes s.nodes := by
  induction edits generalizing s with
  | nil => rfl
  | cons e edits ih =>
    obtain ⟨he, hedits⟩ := List.forall_mem_cons.1 h
    exact (ih hedits).trans ((editedAt_edit e).off_eq he)

/-- Edits of a well-formed spec compute the unions and differences of its sets, at every stage. Each
of them touches the entry of its own node only, so that the entries of the nodes that none of them
names are what they were. -/
theorem edited_represents (h : s.WellFormed) (edits : List Edit) :
    (∀ before, before <+: edits →
      (s.edited before).Represents (before.foldl NodeSets.edit s.sets)) ∧
    (∀ before e, before ++ [e] <+: edits →
      EditedAt e.node (s.edited before) (s.edited (before ++ [e]))) ∧
    (s.edited edits).profile = s.profile ∧
    NodeEntry.off (edits.map Edit.node) (s.edited edits).nodes =
      NodeEntry.off (edits.map Edit.node) s.nodes := by
  refine ⟨fun before _ => (represents_sets h).edited before, fun before e _ => ?_, profile_edited,
    off_edited fun e he => List.mem_map_of_mem he⟩
  rw [edited_append_singleton]
  exact editedAt_edit e

/-- A node that lost its last CPU comes back behind those that came in between. -/
theorem edited_represents_emptied :
    let s : Spec := ⟨"fast", [⟨"a", [1, 2]⟩, ⟨"b", [3]⟩]⟩
    let edits : List Edit :=
      [.remove "a" [2, 1, 2], .merge "c" [5, 4, 5], .merge "a" [1], .merge "b" [], .remove "d" [7]]
    s.WellFormed ∧
      s.edited edits = ⟨"fast", [⟨"b", [3]⟩, ⟨"c", [4, 5]⟩, ⟨"a", [1]⟩]⟩ ∧
      (s.edited edits).Represents (edits.foldl NodeSets.edit s.sets) := by
  intro s edits
  have hs : s.WellFormed := ⟨by decide, by simp only [s, NodeEntry.WellFormed]; decide⟩
  exact ⟨hs, by decide, (edited_represents hs edits).1 edits (List.prefix_refl _)⟩

end Spec

end PowerGrant
