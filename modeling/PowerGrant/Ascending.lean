/-!
# Ascending lists

A finite set is kept as the list of its members in rising order, each once. `ascending xs` is that
list for the members of `xs`.

* `mem_ascending`: it has the members of `xs` and no others.
* `ascending_rises`: it rises strictly.
* `Rises.eq_of_mem_iff`: a rising list is determined by its members, so equality of such lists is
  equality of sets.
-/

namespace PowerGrant

variable {α : Type _} [Ord α]

/-- `xs` rises strictly: each member is below every later one. -/
def Rises (xs : List α) : Prop := xs.Pairwise fun a b => compare a b = .lt

instance (xs : List α) : Decidable (Rises xs) :=
  inferInstanceAs (Decidable (xs.Pairwise fun a b => compare a b = .lt))

/-- `x` put at its place in a rising list; a member is not repeated. -/
def insertRising (x : α) : List α → List α
  | [] => [x]
  | y :: ys =>
    match compare x y with
    | .lt => x :: y :: ys
    | .eq => y :: ys
    | .gt => y :: insertRising x ys

/-- The members of `xs` in rising order, each once. -/
def ascending (xs : List α) : List α := xs.foldr insertRising []

@[simp] theorem ascending_nil : ascending ([] : List α) = [] := rfl

@[simp] theorem ascending_cons (x : α) (xs : List α) :
    ascending (x :: xs) = insertRising x (ascending xs) := rfl

section Members

variable [Std.LawfulEqOrd α]

theorem mem_insertRising {a x : α} {xs : List α} : a ∈ insertRising x xs ↔ a = x ∨ a ∈ xs := by
  induction xs with
  | nil => simp [insertRising]
  | cons y ys ih =>
    simp only [insertRising]
    split
    · simp
    · rename_i h
      have : x = y := Std.LawfulEqOrd.eq_of_compare h
      simp [this]
    · simp only [List.mem_cons, ih]
      grind

@[simp] theorem mem_ascending {a : α} {xs : List α} : a ∈ ascending xs ↔ a ∈ xs := by
  induction xs with
  | nil => simp
  | cons x xs ih => simp [mem_insertRising, ih]

@[simp] theorem ascending_eq_nil {xs : List α} : ascending xs = [] ↔ xs = [] := by
  constructor
  · intro h
    cases xs with
    | nil => rfl
    | cons x xs =>
      have : x ∈ ascending (x :: xs) := mem_ascending.2 (by simp)
      simp [h] at this
  · rintro rfl; rfl

end Members

section Order

variable [Std.TransOrd α] [Std.LawfulEqOrd α]

theorem Rises.insertRising {x : α} {xs : List α} (h : Rises xs) : Rises (insertRising x xs) := by
  induction xs with
  | nil => simp [PowerGrant.insertRising, Rises]
  | cons y ys ih =>
    rw [Rises, List.pairwise_cons] at h
    simp only [PowerGrant.insertRising]
    split
    · rename_i hxy
      refine List.pairwise_cons.2 ⟨?_, List.pairwise_cons.2 h⟩
      intro z hz
      rcases List.mem_cons.1 hz with rfl | hz
      · exact hxy
      · exact Std.TransCmp.lt_trans hxy (h.1 z hz)
    · exact List.pairwise_cons.2 h
    · rename_i hxy
      refine List.pairwise_cons.2 ⟨?_, ih h.2⟩
      intro z hz
      rcases mem_insertRising.1 hz with rfl | hz
      · exact Std.OrientedCmp.lt_of_gt hxy
      · exact h.1 z hz

/-- The ascending list of any list rises. -/
theorem ascending_rises (xs : List α) : Rises (ascending xs) := by
  induction xs with
  | nil => exact List.Pairwise.nil
  | cons x xs ih => exact ih.insertRising

/-- A rising list is determined by its members. -/
theorem Rises.eq_of_mem_iff {xs ys : List α} (hx : Rises xs) (hy : Rises ys)
    (h : ∀ a, a ∈ xs ↔ a ∈ ys) : xs = ys := by
  induction xs generalizing ys with
  | nil =>
    cases ys with
    | nil => rfl
    | cons y ys => exact absurd ((h y).2 (by simp)) (by simp)
  | cons x xs ih =>
    cases ys with
    | nil => exact absurd ((h x).1 (by simp)) (by simp)
    | cons y ys =>
      rw [Rises, List.pairwise_cons] at hx hy
      have hxy : x = y := by
        rcases List.mem_cons.1 ((h x).1 (by simp)) with e | hm
        · exact e
        rcases List.mem_cons.1 ((h y).2 (by simp)) with e | hm'
        · exact e.symm
        have h1 := hy.1 x hm
        have h2 := hx.1 y hm'
        have h3 : compare x x = .lt := Std.TransCmp.lt_trans h2 h1
        simp at h3
      subst hxy
      refine congrArg (x :: ·) (ih hx.2 hy.2 fun a => ?_)
      constructor
      · intro ha
        rcases List.mem_cons.1 ((h a).1 (List.mem_cons_of_mem _ ha)) with rfl | h'
        · have := hx.1 a ha; simp at this
        · exact h'
      · intro ha
        rcases List.mem_cons.1 ((h a).2 (List.mem_cons_of_mem _ ha)) with rfl | h'
        · have := hy.1 a ha; simp at this
        · exact h'

/-- A rising list is its own ascending list. -/
theorem Rises.ascending_eq {xs : List α} (h : Rises xs) : ascending xs = xs :=
  (ascending_rises xs).eq_of_mem_iff h fun _ => mem_ascending

end Order

end PowerGrant
