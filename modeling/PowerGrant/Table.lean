import PowerGrant.Ascending

/-!
# Tables

A table maps keys to values. Its entries are kept by rising key, so a table is determined by what
it holds (`Table.ext_find?`) and listing it needs no sorting.

* `Table.find?_insert`, `Table.find?_erase`: what a look-up finds after a change.
* `Table.mem_entries_iff`: the entries are exactly what look-ups find.
-/

namespace PowerGrant

/-- A finite map from `κ` to `α`. -/
structure Table (κ α : Type) [Ord κ] where
  /-- The pairs held, by rising key. -/
  entries : List (κ × α)
  /-- Each key occurs once, and the keys rise. -/
  rises : Rises (entries.map Prod.fst)
  deriving DecidableEq

namespace Table

variable {κ α : Type} [Ord κ]

/-- The table that holds nothing. -/
def empty : Table κ α := ⟨[], List.Pairwise.nil⟩

instance : EmptyCollection (Table κ α) := ⟨empty⟩

instance : Inhabited (Table κ α) := ⟨empty⟩

/-- The keys held, rising. -/
def keys (t : Table κ α) : List κ := t.entries.map Prod.fst

/-- How many keys are held. -/
def size (t : Table κ α) : Nat := t.entries.length

/-- Whether nothing is held. -/
def isEmpty (t : Table κ α) : Bool := t.entries.isEmpty

/-- The value of the first pair with key `k`. -/
def findIn (k : κ) : List (κ × α) → Option α
  | [] => none
  | (k', v) :: rest => if compare k k' = .eq then some v else findIn k rest

/-- What the table holds under `k`. -/
def find? (t : Table κ α) (k : κ) : Option α := findIn k t.entries

/-- Whether the table holds something under `k`. -/
def contains (t : Table κ α) (k : κ) : Bool := (t.find? k).isSome

/-- The pair `(k, v)` put at its place, replacing a pair with that key. -/
def insertIn (k : κ) (v : α) : List (κ × α) → List (κ × α)
  | [] => [(k, v)]
  | (k', v') :: rest =>
    match compare k k' with
    | .lt => (k, v) :: (k', v') :: rest
    | .eq => (k', v) :: rest
    | .gt => (k', v') :: insertIn k v rest

theorem map_fst_insertIn (k : κ) (v : α) (es : List (κ × α)) :
    (insertIn k v es).map Prod.fst = insertRising k (es.map Prod.fst) := by
  induction es with
  | nil => rfl
  | cons e es ih =>
    obtain ⟨k', v'⟩ := e
    simp only [insertIn, List.map_cons, insertRising]
    split <;> simp_all

/-- The table with `v` under `k`. -/
def insert [Std.TransOrd κ] [Std.LawfulEqOrd κ] (t : Table κ α) (k : κ) (v : α) : Table κ α :=
  ⟨insertIn k v t.entries, by rw [map_fst_insertIn]; exact t.rises.insertRising⟩

/-- The table without what it holds under `k`. -/
def erase (t : Table κ α) (k : κ) : Table κ α :=
  ⟨t.entries.filter fun e => compare k e.1 ≠ .eq,
    t.rises.sublist (List.filter_sublist.map Prod.fst)⟩

/-- The table of a list of pairs; of two pairs with one key the later one counts. -/
def ofList [Std.TransOrd κ] [Std.LawfulEqOrd κ] (es : List (κ × α)) : Table κ α :=
  es.foldl (fun t e => t.insert e.1 e.2) empty

@[simp] theorem find?_empty (k : κ) : (empty : Table κ α).find? k = none := rfl

section Lookup

variable [Std.LawfulEqOrd κ]

theorem findIn_cons (k k₀ : κ) (v₀ : α) (es : List (κ × α)) [DecidableEq κ] :
    findIn k ((k₀, v₀) :: es) = if k = k₀ then some v₀ else findIn k es := by
  simp [findIn]

theorem findIn_insertIn [DecidableEq κ] (k k' : κ) (v : α) (es : List (κ × α)) :
    findIn k' (insertIn k v es) = if k' = k then some v else findIn k' es := by
  induction es with
  | nil => simp [insertIn, findIn]
  | cons e es ih =>
    obtain ⟨k₀, v₀⟩ := e
    simp only [insertIn]
    split
    · simp only [findIn_cons]
    · rename_i h
      have : k = k₀ := Std.LawfulEqOrd.eq_of_compare h
      subst this
      by_cases hk : k' = k <;> simp [findIn_cons, hk]
    · rename_i h
      have hne : k ≠ k₀ := by rintro rfl; simp at h
      by_cases hk : k' = k
      · subst hk; simp [findIn_cons, hne, ih]
      · simp [findIn_cons, hk, ih]

/-- After `v` was put under `k`, `k` finds `v` and every other key what it found before. -/
theorem find?_insert [Std.TransOrd κ] [DecidableEq κ] (t : Table κ α) (k k' : κ) (v : α) :
    (t.insert k v).find? k' = if k' = k then some v else t.find? k' :=
  findIn_insertIn k k' v t.entries

/-- After `k` was erased, `k` finds nothing and every other key what it found before. -/
theorem find?_erase [DecidableEq κ] (t : Table κ α) (k k' : κ) :
    (t.erase k).find? k' = if k' = k then none else t.find? k' := by
  unfold find? erase
  simp only
  induction t.entries with
  | nil => simp [findIn]
  | cons e es ih =>
    obtain ⟨k₀, v₀⟩ := e
    by_cases hk : k = k₀
    · subst hk
      simp only [ne_eq, Std.LawfulEqOrd.compare_eq_iff_eq, decide_not, List.filter_cons, decide_true,
        Bool.not_true, Bool.false_eq_true, ↓reduceIte] at ih ⊢
      rw [ih]
      by_cases h : k' = k <;> simp [findIn_cons, h]
    · simp only [ne_eq, Std.LawfulEqOrd.compare_eq_iff_eq, decide_not, List.filter_cons, hk,
        decide_false, Bool.not_false, ↓reduceIte, findIn_cons] at ih ⊢
      rw [ih]
      by_cases h : k' = k
      · subst h; simp [hk]
      · simp [h]

theorem findIn_eq_some_iff {es : List (κ × α)} (h : Rises (es.map Prod.fst)) (k : κ) (v : α) :
    findIn k es = some v ↔ (k, v) ∈ es := by
  induction es with
  | nil => simp [findIn]
  | cons e es ih =>
    obtain ⟨k₀, v₀⟩ := e
    rw [List.map_cons, Rises, List.pairwise_cons] at h
    rcases Decidable.em (compare k k₀ = .eq) with hk | hk
    · have := Std.LawfulEqOrd.eq_of_compare hk
      subst this
      simp only [findIn, Std.LawfulEqOrd.compare_eq_iff_eq, ↓reduceIte, Option.some.injEq,
        List.mem_cons, Prod.mk.injEq, true_and]
      constructor
      · rintro rfl; exact .inl rfl
      · rintro (rfl | hm)
        · rfl
        · have := h.1 k (List.mem_map.2 ⟨(k, v), hm, rfl⟩)
          simp at this
    · have hne : k ≠ k₀ := fun e => hk (Std.LawfulEqOrd.compare_eq_iff_eq.2 e)
      simp [findIn, hne, ih h.2]

/-- The entries are what look-ups find. -/
theorem mem_entries_iff (t : Table κ α) (k : κ) (v : α) :
    (k, v) ∈ t.entries ↔ t.find? k = some v :=
  (findIn_eq_some_iff t.rises k v).symm

theorem mem_keys_iff (t : Table κ α) (k : κ) : k ∈ t.keys ↔ ∃ v, t.find? k = some v := by
  simp [keys, List.mem_map, ← mem_entries_iff]

omit [Std.LawfulEqOrd κ] in
theorem nodup_keys [Std.TransOrd κ] (t : Table κ α) : t.keys.Nodup :=
  t.rises.imp fun h e => by simp [e] at h

omit [Std.LawfulEqOrd κ] in
theorem findIn_eq_none_of_forall_lt {k : κ} {es : List (κ × α)}
    (h : ∀ e ∈ es, compare k e.1 = .lt) : findIn k es = none := by
  induction es with
  | nil => rfl
  | cons e es ih =>
    have := h e (by simp)
    simp [findIn, this, ih fun e he => h e (List.mem_cons_of_mem _ he)]

theorem entries_eq_of_findIn_eq [Std.TransOrd κ] {es fs : List (κ × α)} (he : Rises (es.map Prod.fst))
    (hf : Rises (fs.map Prod.fst)) (h : ∀ k, findIn k es = findIn k fs) : es = fs := by
  have hk : es.map Prod.fst = fs.map Prod.fst := by
    refine he.eq_of_mem_iff hf fun k => ?_
    simp only [List.mem_map]
    constructor
    · rintro ⟨⟨_, v⟩, hm, rfl⟩
      exact ⟨(_, v), (findIn_eq_some_iff hf _ v).1 (h _ ▸ (findIn_eq_some_iff he _ v).2 hm), rfl⟩
    · rintro ⟨⟨_, v⟩, hm, rfl⟩
      exact ⟨(_, v), (findIn_eq_some_iff he _ v).1 (h _ ▸ (findIn_eq_some_iff hf _ v).2 hm), rfl⟩
  induction es generalizing fs with
  | nil => cases fs with
    | nil => rfl
    | cons f fs => simp at hk
  | cons e es ih =>
    cases fs with
    | nil => simp at hk
    | cons f fs =>
      obtain ⟨k, v⟩ := e
      obtain ⟨k', v'⟩ := f
      simp only [List.map_cons, List.cons.injEq] at hk
      obtain ⟨rfl, hk⟩ := hk
      have hv := h k
      simp only [findIn, Std.LawfulEqOrd.compare_eq_iff_eq, ↓reduceIte, Option.some.injEq] at hv
      subst hv
      rw [List.map_cons, Rises, List.pairwise_cons] at he hf
      refine congrArg _ (ih he.2 hf.2 (fun q => ?_) hk)
      rcases Decidable.em (compare q k = .eq) with hq | hq
      · have := Std.LawfulEqOrd.eq_of_compare hq
        subst this
        rw [findIn_eq_none_of_forall_lt fun e he' => he.1 e.1 (List.mem_map_of_mem he'),
          findIn_eq_none_of_forall_lt fun e he' => hf.1 e.1 (List.mem_map_of_mem he')]
      · simpa only [findIn, hq, if_false] using h q

/-- A table is determined by what it holds. -/
theorem ext_find? [Std.TransOrd κ] {t u : Table κ α} (h : ∀ k, t.find? k = u.find? k) : t = u := by
  obtain ⟨es, he⟩ := t
  obtain ⟨fs, hf⟩ := u
  have := entries_eq_of_findIn_eq he hf h
  subst this; rfl

end Lookup

end Table

end PowerGrant
