import Mathlib.Data.List.Forall2
import PowerGrant.Grant.Basic
import PowerGrant.Profile
import PowerGrant.Workload.Spec

/-!
# What is written of a record is read back

A record is written in one way and read from many. `Spells` has the ways in which an object may
give it: the members in any order, others among them, and for some fields a value left out.

* `slots_of_spells`: each field gets what the object gives for it, however it is spelled.
* `RoundTrip`: a value is read back from what is written of it, and from every other spelling.
* `records_roundTrip`: so it is for workloads, grants and power profiles, with all they hold. A
  profile that is read is empty just if nothing but `null` was given for its fields.
-/

namespace PowerGrant.Json

/-! ## Lists -/

section Lists

variable {α β : Type}

/-- All items are read just if each of them is. -/
theorem mapM_eq_some_iff {f : α → Option β} {as : List α} {bs : List β} :
    as.mapM f = some bs ↔ List.Forall₂ (fun a b => f a = some b) as bs := by
  induction as generalizing bs with
  | nil => simp [eq_comm]
  | cons a as ih =>
    simp only [List.mapM_cons, List.forall₂_cons_left_iff, ← ih, Option.bind_eq_bind,
      Option.bind_eq_some_iff, Option.pure_def, Option.some.injEq]
    constructor
    · rintro ⟨b, hb, bs, hbs, rfl⟩
      exact ⟨b, bs, hb, hbs, rfl⟩
    · rintro ⟨b, bs, hb, hbs, rfl⟩
      exact ⟨b, hb, bs, hbs, rfl⟩

end Lists

/-! ## The members of an object -/

section Objects

variable {record : List (String × Option Json)} {r : String × Option Json}
  {others fields : List (String × Json)} {form : List (String × (Option Json → Prop))} {j : Json}
  {names : List String} {given : List (Option Json)} {items : List Json}

theorem filter_members_present (hd : (record.map Prod.fst).Nodup) (hr : r ∈ record) :
    ((present record).members.filter fun f => f.1 = r.1) = (r.2.map (r.1, ·)).toList := by
  induction record with
  | nil => cases hr
  | cons s record ih =>
    obtain ⟨hs, hd⟩ := List.nodup_cons.1 hd
    simp only [present, members, List.filterMap_cons] at ih ⊢
    rcases List.mem_cons.1 hr with rfl | hr
    · -- no later member has this name
      have hrest :
          (record.filterMap fun f => f.2.map (f.1, ·)).filter (fun f => f.1 = r.1) = [] := by
        rw [List.filter_eq_nil_iff]
        rintro f hf
        obtain ⟨s, hm, hv⟩ := List.mem_filterMap.1 hf
        obtain ⟨j, -, rfl⟩ := Option.map_eq_some_iff.1 hv
        rw [decide_eq_true_eq]
        exact fun heq => hs (heq ▸ List.mem_map_of_mem hm)
      cases hr2 : r.2 <;> simp [hrest]
    · have hne : s.1 ≠ r.1 := fun heq => hs (heq ▸ List.mem_map_of_mem hr)
      cases hs2 : s.2 <;> simp [hne, ih hd hr]

/-- A field gets the member of its name. -/
theorem slot_of_perm (hd : (record.map Prod.fst).Nodup)
    (ho : ∀ o ∈ others, o.1 ∉ record.map Prod.fst)
    (hp : fields.Perm ((present record).members ++ others)) (hr : r ∈ record) :
    slot fields r.1 = some r.2 := by
  have hothers : others.filter (fun f => f.1 = r.1) = [] := by
    rw [List.filter_eq_nil_iff]
    intro o hm
    rw [decide_eq_true_eq]
    exact fun heq => ho o hm (heq ▸ List.mem_map_of_mem hr)
  rw [slot_perm hp, slot, List.filter_append, filter_members_present hd hr, hothers]
  cases r.2 <;> rfl

/-- The object `j` has a member for each field that is given, as `form` asks of it, and others of
other names, in any order. -/
def Spells (form : List (String × (Option Json → Prop))) (j : Json) : Prop :=
  ∃ record others fields,
    List.Forall₂ (fun f r => f.1 = r.1 ∧ f.2 r.2) form record ∧
      (∀ o ∈ others, o.1 ∉ form.map Prod.fst) ∧
      fields.Perm ((present record).members ++ others) ∧ j = .object fields

theorem names_of_forall₂
    (h : List.Forall₂ (fun f (r : String × Option Json) => f.1 = r.1 ∧ f.2 r.2) form record) :
    record.map Prod.fst = form.map Prod.fst := by
  induction h with
  | nil => rfl
  | cons h _ ih => rw [List.map_cons, List.map_cons, h.1, ih]

/-- Each field is given what the form asks for. -/
theorem slots_of_spells (hd : (form.map Prod.fst).Nodup) (h : Spells form j) :
    ∃ given, slots (form.map Prod.fst) j = some given ∧
      List.Forall₂ (fun f g => f.2 g) form given := by
  obtain ⟨record, others, fields, hform, ho, hp, rfl⟩ := h
  rw [← names_of_forall₂ hform] at hd ho ⊢
  refine ⟨record.map Prod.snd, mapM_eq_some_iff.2 ?_, ?_⟩
  · rw [List.forall₂_map_left_iff, List.forall₂_map_right_iff, List.forall₂_same]
    exact fun r hr => slot_of_perm hd ho hp hr
  · rw [List.forall₂_map_right_iff]
    exact hform.imp fun _ _ h => h.2

theorem spells_present
    (h : List.Forall₂ (fun f (r : String × Option Json) => f.1 = r.1 ∧ f.2 r.2) form record) :
    Spells form (present record) :=
  ⟨record, [], _, h, by simp, by rw [List.append_nil]; exact .refl _, rfl⟩

theorem spells_object {members : List (String × Json)}
    (h : List.Forall₂ (fun f (m : String × Json) => f.1 = m.1 ∧ f.2 (some m.2)) form members) :
    Spells form (.object members) := by
  have hall : present (members.map fun m => (m.1, some m.2)) = .object members := by
    simp [present, List.filterMap_map]
  rw [← hall]
  exact spells_present (List.forall₂_map_right_iff.2 h)

/-- What a name is given is the member of that name. -/
theorem eq_slot_iff {name : String} {g : Option Json} (hg : slot fields name = some g) :
    some j = g ↔ (name, j) ∈ fields := by
  have hmem : (name, j) ∈ fields ↔ (name, j) ∈ fields.filter fun f => f.1 = name := by simp
  rw [hmem]
  simp only [slot] at hg
  split at hg
  · rename_i hnone
    obtain rfl := Option.some.inj hg
    simp [hnone]
  · rename_i f hone
    obtain rfl := Option.some.inj hg
    have hf : f ∈ fields.filter fun f => f.1 = name := hone ▸ List.mem_singleton_self f
    obtain rfl : f.1 = name := by simpa using (List.mem_filter.1 hf).2
    simp [hone, Prod.ext_iff]
  · cases hg

/-- What an object gives for the fields are its members of their names. -/
theorem mem_slots_object (h : slots names (.object fields) = some given) :
    some j ∈ given ↔ ∃ name ∈ names, (name, j) ∈ fields := by
  have hall := mapM_eq_some_iff.1 h
  clear h
  induction hall with
  | nil => simp
  | cons hg _ ih => simp [eq_slot_iff hg, ih]

theorem mem_slots_array (h : slots names (.array items) = some given) :
    some j ∈ given ↔ j ∈ items := by
  simp only [slots] at h
  split at h
  · obtain rfl := Option.some.inj h
    simp
  · cases h

end Objects

/-! ## Values and fields -/

/-- A value is read back from what is written of it, and from all else that spells it. -/
def RoundTrip {α : Type} (write : α → Json) (read? : Json → Option α) (Spelled : α → Json → Prop) :
    Prop :=
  ∀ a, read? (write a) = some a ∧ Spelled a (write a) ∧ ∀ j, Spelled a j → read? j = some a

section Values

variable {α : Type} {write : α → Json} {read? : Json → Option α} {Spelled : α → Json → Prop}
  {a default : α} {v : Option α} {g : Option Json}

theorem RoundTrip.of (hw : ∀ a, Spelled a (write a))
    (hr : ∀ a j, Spelled a j → read? j = some a) : RoundTrip write read? Spelled := fun a =>
  ⟨hr a _ (hw a), hw a, hr a⟩

theorem RoundTrip.written (h : RoundTrip write read? Spelled) (a : α) : Spelled a (write a) :=
  (h a).2.1

theorem RoundTrip.read (h : RoundTrip write read? Spelled) {j : Json} (hj : Spelled a j) :
    read? j = some a := (h a).2.2 j hj

/-- The value has no other spelling than the one that is written. -/
def Plain (write : α → Json) (a : α) (j : Json) : Prop := j = write a

theorem RoundTrip.plain (h : ∀ a, read? (write a) = some a) :
    RoundTrip write read? (Plain write) :=
  .of (fun _ => rfl) fun a _ hj => hj ▸ h a

theorem uint32?_nat (n : UInt32) : (nat n.toNat).uint32? = some n := by
  simp [nat, uint32?, n.toNat_lt]

theorem roundTrip_text : RoundTrip text text? (Plain text) := .plain fun _ => rfl

theorem roundTrip_number :
    RoundTrip (fun n : UInt32 => nat n.toNat) uint32? (Plain fun n => nat n.toNat) :=
  .plain uint32?_nat

/-- The items spell those of a list, one by one. -/
def ListSpelled (Spelled : α → Json → Prop) (as : List α) (j : Json) : Prop :=
  ∃ items, j = .array items ∧ List.Forall₂ Spelled as items

theorem RoundTrip.list (h : RoundTrip write read? Spelled) :
    RoundTrip (fun as => .array (as.map write)) (listOf? read?) (ListSpelled Spelled) := by
  refine .of (fun as => ⟨_, rfl, ?_⟩) ?_
  · rw [List.forall₂_map_right_iff, List.forall₂_same]
    exact fun a _ => h.written a
  · rintro as _ ⟨items, rfl, hitems⟩
    exact mapM_eq_some_iff.2 (hitems.imp fun _ _ hj => h.read hj).flip

/-- The field is given, as a value with this property. -/
def Given (P : Json → Prop) (g : Option Json) : Prop := ∃ j, g = some j ∧ P j

theorem RoundTrip.required? (h : RoundTrip write read? Spelled) (hg : Given (Spelled a) g) :
    required? read? g = some a := by
  obtain ⟨j, rfl, hj⟩ := hg
  exact h.read hj

/-- The field is given, or it is missing and has its default. -/
def GivenUnless (default : Prop) (P : Json → Prop) (g : Option Json) : Prop :=
  Given P g ∨ default ∧ g = none

theorem RoundTrip.orDefault? (h : RoundTrip write read? Spelled)
    (hg : GivenUnless (a = default) (Spelled a) g) : orDefault? default read? g = some a := by
  rcases hg with ⟨j, rfl, hj⟩ | ⟨rfl, rfl⟩
  · exact h.read hj
  · rfl

/-- The field is given if it has a value, and missing or `null` if not. -/
def GivenIfAny (Spelled : α → Json → Prop) (v : Option α) (g : Option Json) : Prop :=
  v.elim (∀ j ∈ g, j = .null) fun a => Given (Spelled a) g

theorem optional?_of_ne_null {j : Json} (h : j ≠ .null) :
    Json.optional? read? j = (read? j).map some := by
  cases j with
  | null => exact absurd rfl h
  | _ => rfl

/-- What is read from an optional field is nothing just if nothing but `null` is given. -/
theorem eq_none_iff_of_optional (h : Json.orDefault? none (optional? read?) g = some v) :
    v = none ↔ ∀ j ∈ g, j = .null := by
  cases g with
  | none =>
    obtain rfl := Option.some.inj h
    simp
  | some j =>
    by_cases hj : j = .null
    · subst hj
      obtain rfl := Option.some.inj h
      simp
    · have hread : (read? j).map some = some v := (optional?_of_ne_null hj).symm.trans h
      obtain ⟨a, -, rfl⟩ := Option.map_eq_some_iff.1 hread
      simpa using hj

theorem RoundTrip.optional? (h : RoundTrip write read? Spelled) (hnull : read? .null = none)
    (hg : GivenIfAny Spelled v g) : Json.orDefault? none (optional? read?) g = some v := by
  cases v with
  | none =>
    cases g with
    | none => rfl
    | some j =>
      obtain rfl : j = .null := hg j rfl
      rfl
  | some a =>
    obtain ⟨j, rfl, hj⟩ := hg
    have hread := h.read hj
    have hne : j ≠ .null := by
      rintro rfl
      cases hnull.symm.trans hread
    show Json.optional? read? j = some (some a)
    rw [optional?_of_ne_null hne, hread, Option.map_some]

theorem RoundTrip.givenIfAny (h : RoundTrip write read? Spelled) (v : Option α) :
    GivenIfAny Spelled v (v.map write) := by
  cases v with
  | none => exact fun j hj => nomatch hj
  | some a => exact ⟨_, rfl, h.written a⟩

end Values

end PowerGrant.Json

namespace PowerGrant

open Json

/-! ## Workloads -/

namespace NodeEntry

/-- The fields of an entry. -/
def form (e : NodeEntry) : List (String × (Option Json → Prop)) :=
  [("nodeName", Given (Plain .text e.node)),
    ("cpuIds", GivenUnless (e.cpus = []) (ListSpelled (Plain fun n => .nat n.toNat) e.cpus))]

/-- `j` gives the entry. -/
def Spelled (e : NodeEntry) : Json → Prop := Spells e.form

theorem roundTrip : RoundTrip toJson ofJson? Spelled := by
  refine .of (fun e => ?_) fun e j h => ?_
  · exact spells_object (.cons ⟨rfl, _, rfl, rfl⟩
      (.cons ⟨rfl, .inl ⟨_, rfl, roundTrip_number.list.written _⟩⟩ .nil))
  · obtain ⟨_, hs, _ | ⟨hnode, _ | ⟨hcpus, _ | _⟩⟩⟩ := slots_of_spells (by simp [form]) h
    have hs : slots ["nodeName", "cpuIds"] j = _ := hs
    simp [ofJson?, hs, roundTrip_text.required? hnode, roundTrip_number.list.orDefault? hcpus]

end NodeEntry

namespace Spec

/-- The fields of a spec. -/
def form (s : Spec) : List (String × (Option Json → Prop)) :=
  [("profileName", Given (Plain .text s.profile)),
    ("nodes", GivenUnless (s.nodes = []) (ListSpelled NodeEntry.Spelled s.nodes))]

/-- `j` gives the spec. -/
def Spelled (s : Spec) : Json → Prop := Spells s.form

theorem roundTrip : RoundTrip toJson ofJson? Spelled := by
  refine .of (fun s => ?_) fun s j h => ?_
  · exact spells_object (.cons ⟨rfl, _, rfl, rfl⟩
      (.cons ⟨rfl, .inl ⟨_, rfl, NodeEntry.roundTrip.list.written _⟩⟩ .nil))
  · obtain ⟨_, hs, _ | ⟨hprofile, _ | ⟨hnodes, _ | _⟩⟩⟩ := slots_of_spells (by simp [form]) h
    have hs : slots ["profileName", "nodes"] j = _ := hs
    simp [ofJson?, hs, roundTrip_text.required? hprofile,
      NodeEntry.roundTrip.list.orDefault? hnodes]

end Spec

/-! ## Grants -/

namespace ContainerGrant

/-- The fields of a container's grant. -/
def form (c : ContainerGrant) : List (String × (Option Json → Prop)) :=
  [("name", Given (Plain .text c.name)), ("id", Given (Plain .text c.id)),
    ("exclusiveCpus", Given (ListSpelled (Plain fun n => .nat n.toNat) c.cpus)),
    ("powerProfile", Given (Plain .text c.profile))]

/-- `j` gives the container's grant. -/
def Spelled (c : ContainerGrant) : Json → Prop := Spells c.form

theorem roundTrip : RoundTrip toJson ofJson? Spelled := by
  refine .of (fun c => ?_) fun c j h => ?_
  · exact spells_object (.cons ⟨rfl, _, rfl, rfl⟩ (.cons ⟨rfl, _, rfl, rfl⟩
      (.cons ⟨rfl, _, rfl, roundTrip_number.list.written _⟩ (.cons ⟨rfl, _, rfl, rfl⟩ .nil))))
  · obtain ⟨_, hs, _ | ⟨hname, _ | ⟨hid, _ | ⟨hcpus, _ | ⟨hprofile, _ | _⟩⟩⟩⟩⟩ :=
      slots_of_spells (by simp [form]) h
    have hs : slots ["name", "id", "exclusiveCpus", "powerProfile"] j = _ := hs
    simp [ofJson?, hs, roundTrip_text.required? hname, roundTrip_text.required? hid,
      roundTrip_number.list.required? hcpus, roundTrip_text.required? hprofile]

end ContainerGrant

namespace Grant

/-- The fields of a grant. -/
def form (g : Grant) : List (String × (Option Json → Prop)) :=
  [("node", Given (Plain .text g.node)), ("name", Given (Plain .text g.name)),
    ("namespace", Given (Plain .text g.ns)), ("uid", Given (Plain .text g.uid)),
    ("containers", Given (ListSpelled ContainerGrant.Spelled g.containers))]

/-- `j` gives the grant. -/
def Spelled (g : Grant) : Json → Prop := Spells g.form

theorem roundTrip : RoundTrip toJson ofJson? Spelled := by
  refine .of (fun g => ?_) fun g j h => ?_
  · exact spells_object (.cons ⟨rfl, _, rfl, rfl⟩ (.cons ⟨rfl, _, rfl, rfl⟩
      (.cons ⟨rfl, _, rfl, rfl⟩ (.cons ⟨rfl, _, rfl, rfl⟩
        (.cons ⟨rfl, _, rfl, ContainerGrant.roundTrip.list.written _⟩ .nil)))))
  · obtain ⟨_, hs, _ | ⟨hnode, _ | ⟨hname, _ | ⟨hns, _ | ⟨huid, _ | ⟨hcontainers, _ | _⟩⟩⟩⟩⟩⟩ :=
      slots_of_spells (by simp [form]) h
    have hs : slots ["node", "name", "namespace", "uid", "containers"] j = _ := hs
    simp [ofJson?, hs, roundTrip_text.required? hnode, roundTrip_text.required? hname,
      roundTrip_text.required? hns, roundTrip_text.required? huid,
      ContainerGrant.roundTrip.list.required? hcontainers]

end Grant

/-! ## Power profiles -/

namespace Profile

/-- The names of the fields of a profile. -/
def names : List String := ["id", "name", "min_freq", "max_freq", "epp"]

/-- The fields of a profile. -/
def form (p : Profile) : List (String × (Option Json → Prop)) :=
  [("id", GivenIfAny (Plain fun n => .nat n.toNat) p.id),
    ("name", GivenIfAny (Plain .text) p.name),
    ("min_freq", GivenIfAny (Plain fun n => .nat n.toNat) p.minFreq),
    ("max_freq", GivenIfAny (Plain fun n => .nat n.toNat) p.maxFreq),
    ("epp", GivenIfAny (Plain .text) p.epp)]

/-- `j` gives the profile. -/
def Spelled (p : Profile) : Json → Prop := Spells p.form

theorem optUInt32?_of_givenIfAny {v : Option UInt32} {g : Option Json}
    (h : GivenIfAny (Plain fun n => .nat n.toNat) v g) : optUInt32? g = some v :=
  roundTrip_number.optional? rfl h

theorem optText?_of_givenIfAny {v : Option String} {g : Option Json}
    (h : GivenIfAny (Plain .text) v g) : optText? g = some v :=
  roundTrip_text.optional? rfl h

theorem roundTrip : RoundTrip toJson ofJson? Spelled := by
  refine .of (fun p => ?_) fun p j h => ?_
  · exact spells_present (.cons ⟨rfl, roundTrip_number.givenIfAny _⟩
      (.cons ⟨rfl, roundTrip_text.givenIfAny _⟩ (.cons ⟨rfl, roundTrip_number.givenIfAny _⟩
        (.cons ⟨rfl, roundTrip_number.givenIfAny _⟩ (.cons ⟨rfl, roundTrip_text.givenIfAny _⟩
          .nil)))))
  · obtain ⟨_, hs, _ | ⟨hid, _ | ⟨hname, _ | ⟨hmin, _ | ⟨hmax, _ | ⟨hepp, _ | _⟩⟩⟩⟩⟩⟩ :=
      slots_of_spells (by simp [form]) h
    have hs : slots ["id", "name", "min_freq", "max_freq", "epp"] j = _ := hs
    simp [ofJson?, hs, optUInt32?_of_givenIfAny hid, optText?_of_givenIfAny hname,
      optUInt32?_of_givenIfAny hmin, optUInt32?_of_givenIfAny hmax, optText?_of_givenIfAny hepp]

variable {p : Profile} {j : Json}

/-- A profile that is read is empty just if nothing but `null` was given for its fields. -/
theorem isEmpty_iff_of_ofJson? (h : ofJson? j = some p) :
    ∃ given, slots names j = some given ∧ (p.isEmpty = true ↔ ∀ g ∈ given, ∀ v ∈ g, v = .null) := by
  simp only [ofJson?] at h
  split at h
  · rename_i id name minFreq maxFreq epp hs
    simp only [Option.bind_eq_bind, Option.bind_eq_some_iff, Option.pure_def,
      Option.some.injEq] at h
    obtain ⟨_, hid, _, hname, _, hmin, _, hmax, _, hepp, rfl⟩ := h
    refine ⟨_, hs, ?_⟩
    simp only [isEmpty, decide_eq_true_eq, mk.injEq, List.forall_mem_cons, List.not_mem_nil,
      false_implies, implies_true, and_true, eq_none_iff_of_optional hid,
      eq_none_iff_of_optional hname, eq_none_iff_of_optional hmin, eq_none_iff_of_optional hmax,
      eq_none_iff_of_optional hepp]
  · cases h

end Profile

/-! ## All records -/

/-- What is written of a workload, a grant or a power profile, or of an item of theirs, is read
back, and so is every other spelling of it. A profile that is read from an object is empty just if
each of its fields was missing or `null`, and one that is read from an array if all items were. -/
theorem records_roundTrip :
    (RoundTrip Spec.toJson Spec.ofJson? Spec.Spelled ∧
      RoundTrip NodeEntry.toJson NodeEntry.ofJson? NodeEntry.Spelled ∧
      RoundTrip ContainerGrant.toJson ContainerGrant.ofJson? ContainerGrant.Spelled ∧
      RoundTrip Grant.toJson Grant.ofJson? Grant.Spelled ∧
      RoundTrip Profile.toJson Profile.ofJson? Profile.Spelled) ∧
    (∀ fields p, Profile.ofJson? (.object fields) = some p →
      (p.isEmpty = true ↔ ∀ name ∈ Profile.names, ∀ v, (name, v) ∈ fields → v = .null)) ∧
    ∀ items p, Profile.ofJson? (.array items) = some p →
      (p.isEmpty = true ↔ ∀ v ∈ items, v = .null) := by
  refine ⟨⟨Spec.roundTrip, NodeEntry.roundTrip, ContainerGrant.roundTrip, Grant.roundTrip,
    Profile.roundTrip⟩, fun fields p h => ?_, fun items p h => ?_⟩
  · obtain ⟨given, hs, hempty⟩ := Profile.isEmpty_iff_of_ofJson? h
    rw [hempty]
    refine ⟨fun hg name hn v hv => hg _ ((mem_slots_object hs).2 ⟨name, hn, hv⟩) v rfl,
      fun hf g hg v hv => ?_⟩
    obtain ⟨name, hn, hm⟩ := (mem_slots_object hs).1 (hv ▸ hg)
    exact hf name hn v hm
  · obtain ⟨given, hs, hempty⟩ := Profile.isEmpty_iff_of_ofJson? h
    rw [hempty]
    exact ⟨fun hg v hv => hg _ ((mem_slots_array hs).2 hv) v rfl,
      fun hi g hg v hv => hi v ((mem_slots_array hs).1 (hv ▸ hg))⟩

/-- A workload whose members stand backwards behind others, in its entry as well, and profiles of
which nothing but `null` is given. -/
theorem records_roundTrip_backwards :
    Spec.ofJson? (.object [("kept", .bool true),
        ("nodes", .array [.object [("zone", .null), ("cpuIds", .array [.nat 2, .nat 3]),
          ("nodeName", .text "a")]]),
        ("profileName", .text "fast")]) = some ⟨"fast", [⟨"a", [2, 3]⟩]⟩ ∧
      (∃ p, Profile.ofJson? (.object [("epp", .null), ("mode", .text "turbo")]) = some p ∧
        p.isEmpty = true) ∧
      ∃ p, Profile.ofJson? (.array [.null]) = some p ∧ p.isEmpty = true := by
  have hentry : NodeEntry.Spelled ⟨"a", [2, 3]⟩ (.object [("zone", .null),
      ("cpuIds", .array [.nat 2, .nat 3]), ("nodeName", .text "a")]) := by
    refine ⟨[("nodeName", some (.text "a")), ("cpuIds", some (.array [.nat 2, .nat 3]))],
      [("zone", .null)], _, ?_, by decide, (List.reverse_perm _).symm, rfl⟩
    exact .cons ⟨rfl, _, rfl, rfl⟩ (.cons ⟨rfl, .inl ⟨_, rfl, _, rfl, .cons rfl (.cons rfl .nil)⟩⟩
      .nil)
  refine ⟨(records_roundTrip.1.1 ⟨"fast", [⟨"a", [2, 3]⟩]⟩).2.2 _ ?_,
    ⟨{}, rfl, (records_roundTrip.2.1 [("epp", .null), ("mode", .text "turbo")] {} rfl).2 ?_⟩,
    ⟨{}, rfl, (records_roundTrip.2.2 [.null] {} rfl).2 ?_⟩⟩
  · refine ⟨[("profileName", some (.text "fast")), ("nodes", some (.array [_]))],
      [("kept", .bool true)], _, ?_, by decide, (List.reverse_perm _).symm, rfl⟩
    exact .cons ⟨rfl, _, rfl, rfl⟩ (.cons ⟨rfl, .inl ⟨_, rfl, _, rfl, .cons hentry .nil⟩⟩ .nil)
  · simp [Profile.names]
  · simp

end PowerGrant
