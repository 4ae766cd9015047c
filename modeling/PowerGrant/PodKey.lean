import PowerGrant.Table

/-!
# Pod keys

A pod is known by its namespace and its name. Keys are ordered by namespace and then by name, each
in the order of their characters.
-/

namespace PowerGrant

/-- What a pod is known by. -/
structure PodKey where
  ns : String
  name : String
  deriving DecidableEq, Repr, Inhabited

namespace PodKey

instance : Ord PodKey :=
  ⟨compareLex (compareOn PodKey.ns) (compareOn PodKey.name)⟩

instance : Std.TransOrd PodKey :=
  inferInstanceAs (Std.TransCmp (compareLex (compareOn PodKey.ns) (compareOn PodKey.name)))

theorem compare_eq (a b : PodKey) :
    compare a b = (compare a.ns b.ns).then (compare a.name b.name) := rfl

instance : Std.LawfulEqOrd PodKey where
  eq_of_compare := by
    intro a b h
    rw [compare_eq, Ordering.then_eq_eq] at h
    obtain ⟨ns, name⟩ := a
    obtain ⟨ns', name'⟩ := b
    simp only [Std.LawfulEqOrd.compare_eq_iff_eq] at h
    simp [h.1, h.2]

/-- The key as text: namespace and name around a slash. -/
def text (k : PodKey) : String := s!"{k.ns}/{k.name}"

end PodKey

end PowerGrant
