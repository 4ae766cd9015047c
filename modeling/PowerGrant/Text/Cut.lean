/-!
# Cutting text at a separator

* `pieces sep cs`: the pieces between the separators, of which there is always at least one.
* `cut? sep cs`: what stands before and after the first separator.
* `cutText? sep cs`: the same for a separator of several characters.

`intercalate_pieces`, `cut?_eq_some_iff` and `cutText?_eq_some_iff` say that nothing else is lost or
moved.
-/

namespace PowerGrant.Text

/-- The pieces of `cs` between its separators, in order. -/
def pieces (sep : Char) : List Char → List (List Char)
  | [] => [[]]
  | c :: cs =>
    if c = sep then [] :: pieces sep cs
    else
      match pieces sep cs with
      | [] => [[c]]
      | p :: ps => (c :: p) :: ps

/-- What stands before and after the first `sep` in `cs`. -/
def cut? (sep : Char) : List Char → Option (List Char × List Char)
  | [] => none
  | c :: cs => if c = sep then some ([], cs) else (cut? sep cs).map fun r => (c :: r.1, r.2)

/-- What follows `head` in `cs`, if `cs` begins with it. -/
def after? (head cs : List Char) : Option (List Char) :=
  if head.isPrefixOf cs then some (cs.drop head.length) else none

/-- What stands before and after the first occurrence of `sep` in `cs`. -/
def cutText? (sep : List Char) : List Char → Option (List Char × List Char)
  | [] => if sep.isEmpty then some ([], []) else none
  | c :: cs =>
    match after? sep (c :: cs) with
    | some rest => some ([], rest)
    | none => (cutText? sep cs).map fun r => (c :: r.1, r.2)

theorem pieces_ne_nil (sep : Char) (cs : List Char) : pieces sep cs ≠ [] := by
  induction cs with
  | nil => simp [pieces]
  | cons c cs ih =>
    simp only [pieces]
    split
    · simp
    · split <;> simp

/-- Text without separators is its only piece. -/
theorem pieces_of_not_mem {sep : Char} {cs : List Char} (h : sep ∉ cs) : pieces sep cs = [cs] := by
  induction cs with
  | nil => rfl
  | cons c cs ih =>
    simp only [List.mem_cons, not_or] at h
    simp [pieces, Ne.symm h.1, ih h.2]

/-- The pieces of two texts around a separator are those of the first and then of the second. -/
theorem pieces_append_sep (sep : Char) (as bs : List Char) :
    pieces sep (as ++ sep :: bs) = pieces sep as ++ pieces sep bs := by
  induction as with
  | nil => simp [pieces]
  | cons a as ih =>
    simp only [List.cons_append, pieces, ih]
    split
    · simp
    · cases h : pieces sep as with
      | nil => exact absurd h (pieces_ne_nil sep as)
      | cons p ps => simp

/-- The pieces around separators again are the text. -/
theorem intercalate_pieces (sep : Char) (cs : List Char) :
    [sep].intercalate (pieces sep cs) = cs := by
  induction cs with
  | nil => rfl
  | cons c cs ih =>
    simp only [pieces]
    cases h : pieces sep cs with
    | nil => exact absurd h (pieces_ne_nil sep cs)
    | cons p ps =>
      rw [h] at ih
      split
      · rename_i hc
        rw [List.intercalate_cons_cons, ih, hc]
        rfl
      · cases ps with
        | nil =>
          rw [List.intercalate_singleton] at ih ⊢
          rw [ih]
        | cons q ps =>
          rw [List.intercalate_cons_cons] at ih ⊢
          rw [← ih]
          rfl

/-- `cut?` finds the separator that has none before it. -/
theorem cut?_eq_some_iff {sep : Char} {cs a b : List Char} :
    cut? sep cs = some (a, b) ↔ cs = a ++ sep :: b ∧ sep ∉ a := by
  induction cs generalizing a with
  | nil => simp [cut?]
  | cons c cs ih =>
    by_cases h : c = sep
    · subst h
      simp only [cut?, ↓reduceIte, Option.some.injEq, Prod.mk.injEq]
      cases a with
      | nil => simp
      | cons x a =>
        simp only [List.cons_append, List.cons.injEq, List.mem_cons, not_or, reduceCtorEq, false_and,
          false_iff, not_and]
        intro hx; simp [hx.1]
    · simp only [cut?, h, ↓reduceIte, Option.map_eq_some_iff, Prod.mk.injEq, Prod.exists]
      constructor
      · rintro ⟨a', b', hc, rfl, rfl⟩
        obtain ⟨rfl, hn⟩ := ih.1 hc
        simp [hn, Ne.symm h]
      · rintro ⟨he, hn⟩
        cases a with
        | nil => simp [h] at he
        | cons x a =>
          simp only [List.cons_append, List.cons.injEq] at he
          obtain ⟨rfl, rfl⟩ := he
          exact ⟨a, b, ih.2 ⟨rfl, fun hm => hn (by simp [hm])⟩, rfl, rfl⟩

theorem cut?_eq_none_iff {sep : Char} {cs : List Char} : cut? sep cs = none ↔ sep ∉ cs := by
  induction cs with
  | nil => simp [cut?]
  | cons c cs ih =>
    by_cases h : c = sep
    · simp [cut?, h]
    · simp [cut?, h, ih, Ne.symm h]

theorem after?_eq_some_iff {head cs rest : List Char} :
    after? head cs = some rest ↔ cs = head ++ rest := by
  unfold after?
  split
  case isTrue h =>
    obtain ⟨tail, rfl⟩ := List.isPrefixOf_iff_prefix.1 h
    simp
  case isFalse h =>
    simp only [reduceCtorEq, false_iff]
    rintro rfl
    exact h (List.isPrefixOf_iff_prefix.2 (List.prefix_append head rest))

theorem after?_eq_none_iff {head cs : List Char} :
    after? head cs = none ↔ ∀ rest, cs ≠ head ++ rest := by
  simp [Option.eq_none_iff_forall_ne_some, after?_eq_some_iff]

/-- `cutText?` finds the separator that has the least before it. -/
theorem cutText?_eq_some_iff {sep cs a b : List Char} :
    cutText? sep cs = some (a, b) ↔
      cs = a ++ sep ++ b ∧ ∀ a' b', cs = a' ++ sep ++ b' → a.length ≤ a'.length := by
  induction cs generalizing a with
  | nil => cases sep <;> simp [cutText?, and_comm, eq_comm]
  | cons c cs ih =>
    unfold cutText?
    split
    case h_1 rest hr =>
      have hr := after?_eq_some_iff.1 hr
      simp only [Option.some.injEq, Prod.mk.injEq]
      constructor
      · rintro ⟨rfl, rfl⟩
        exact ⟨by simpa using hr, fun _ _ _ => Nat.zero_le _⟩
      · rintro ⟨he, hmin⟩
        obtain rfl : a = [] := List.eq_nil_of_length_eq_zero (Nat.le_zero.1 (hmin [] rest hr))
        exact ⟨rfl, List.append_cancel_left (hr.symm.trans he)⟩
    case h_2 hn =>
      have hn := after?_eq_none_iff.1 hn
      simp only [Option.map_eq_some_iff, Prod.mk.injEq, Prod.exists]
      constructor
      · rintro ⟨a', b', hc, rfl, rfl⟩
        obtain ⟨rfl, hmin⟩ := ih.1 hc
        refine ⟨rfl, fun x y hx => ?_⟩
        -- an earlier occurrence would begin with the text or lie in its tail
        cases x with
        | nil => exact absurd hx (hn y)
        | cons d x => exact Nat.succ_le_succ (hmin x y (List.cons.inj hx).2)
      · rintro ⟨he, hmin⟩
        cases a with
        | nil => exact absurd he (hn b)
        | cons d a =>
          obtain ⟨rfl, hcs⟩ := List.cons.inj he
          refine ⟨a, b, ih.2 ⟨hcs, fun x y hx => ?_⟩, rfl, rfl⟩
          exact Nat.le_of_succ_le_succ (hmin (c :: x) y (congrArg _ hx))

theorem cutText?_eq_none_iff {sep cs : List Char} :
    cutText? sep cs = none ↔ ∀ a b, cs ≠ a ++ sep ++ b := by
  induction cs with
  | nil => cases sep <;> simp [cutText?]
  | cons c cs ih =>
    unfold cutText?
    split
    case h_1 rest hr =>
      simp only [reduceCtorEq, false_iff]
      exact fun h => h [] rest (after?_eq_some_iff.1 hr)
    case h_2 hn =>
      simp only [Option.map_eq_none_iff, ih]
      constructor
      · intro h a b he
        cases a with
        | nil => exact after?_eq_none_iff.1 hn b he
        | cons d a => exact h a b (List.cons.inj he).2
      · exact fun h a b he => h (c :: a) b (congrArg _ he)

end PowerGrant.Text
