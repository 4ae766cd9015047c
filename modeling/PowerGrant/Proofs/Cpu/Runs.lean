import PowerGrant.Cpu.List

/-!
# Runs of consecutive CPUs

A rising list of CPUs falls into its runs, from the lowest to the highest: each as long as it can
be, and two of them with a gap between.

* `CpuList.flatMap_runs`: the runs have the CPUs of the list, in its order.
* `CpuList.Apart`: ranges that rise with gaps between them. The runs are such (`runs_apart`).
* `CpuList.IsRun`: consecutive members of a set that cannot be extended. `CpuList.mem_runs_iff`: the
  runs of a list are those of the set of its members.
-/

namespace PowerGrant.CpuList

/-- From `first` to `last` all CPUs are members of `S`, and those next to them are not. -/
structure IsRun (S : CpuId → Prop) (first last : CpuId) : Prop where
  le : first.toNat ≤ last.toNat
  member : ∀ cpu, first.toNat ≤ cpu.toNat → cpu.toNat ≤ last.toNat → S cpu
  below : ∀ cpu, cpu.toNat + 1 = first.toNat → ¬ S cpu
  above : ∀ cpu, cpu.toNat = last.toNat + 1 → ¬ S cpu

/-- The CPUs of a range. -/
def idsOf (range : CpuId × CpuId) : List CpuId :=
  idsFrom range.1 (range.2.toNat - range.1.toNat + 1)

/-- Ranges rise, with a gap between any two of them. -/
structure Apart (ranges : List (CpuId × CpuId)) : Prop where
  le : ∀ r ∈ ranges, r.1.toNat ≤ r.2.toNat
  gaps : ranges.Pairwise fun r r' => r.2.toNat + 1 < r'.1.toNat

variable {x y cpu first last : CpuId} {xs : List CpuId} {r r' : CpuId × CpuId}
  {ranges : List (CpuId × CpuId)}

theorem toNat_lt_of_compare (h : compare x y = .lt) : x.toNat < y.toNat :=
  UInt32.lt_iff_toNat_lt.1 (Std.compare_eq_lt.1 h)

/-- What is no greater than a CPU's number is a CPU's number. -/
theorem exists_toNat_eq {n : Nat} (h : n ≤ x.toNat) : ∃ c : CpuId, c.toNat = n :=
  ⟨UInt32.ofNat n, UInt32.toNat_ofNat_of_lt' (Nat.lt_of_le_of_lt h x.toNat_lt)⟩

/-! ## The CPUs of a range -/

theorem idsOf_self : idsOf (x, x) = [x] := by
  simp [idsOf, idsFrom]

/-- A range that begins one lower has one CPU more. -/
theorem idsOf_cons (h : x.toNat + 1 = first.toNat) (hle : first.toNat ≤ last.toNat) :
    idsOf (x, last) = x :: idsOf (first, last) := by
  have hlen : last.toNat - x.toNat + 1 = (last.toNat - first.toNat + 1) + 1 := by omega
  simp only [idsOf, idsFrom, hlen, List.range_succ_eq_map, List.map_cons, List.map_map,
    Nat.add_zero, UInt32.ofNat_toNat]
  refine congrArg _ (List.cons_eq_cons.2 ⟨?_, List.map_congr_left fun i _ => ?_⟩)
  · rw [h, UInt32.ofNat_toNat]
  · simp only [Function.comp_apply, ← h]
    congr 1
    omega

theorem mem_idsOf (h : r.1.toNat ≤ r.2.toNat) :
    cpu ∈ idsOf r ↔ r.1.toNat ≤ cpu.toNat ∧ cpu.toNat ≤ r.2.toNat := by
  simp only [idsOf, idsFrom, List.mem_map, List.mem_range]
  constructor
  · rintro ⟨i, hi, rfl⟩
    have hlt : r.1.toNat + i < UInt32.size := Nat.lt_of_le_of_lt (by omega) r.2.toNat_lt
    rw [UInt32.toNat_ofNat_of_lt' hlt]
    omega
  · rintro ⟨hl, hu⟩
    refine ⟨cpu.toNat - r.1.toNat, by omega, ?_⟩
    rw [show r.1.toNat + (cpu.toNat - r.1.toNat) = cpu.toNat by omega, UInt32.ofNat_toNat]

/-! ## The runs of a list -/

/-- The highest CPU has none after it, and the number of another one is one higher. -/
theorem next?_eq_some_iff : next? x = some y ↔ x.toNat + 1 = y.toNat := by
  unfold next?
  split
  · rename_i h
    rw [Option.some.injEq, ← UInt32.toNat_inj, UInt32.toNat_add, UInt32.toNat_one,
      Nat.mod_eq_of_lt h]
  · rename_i h
    have := y.toNat_lt
    simp only [reduceCtorEq, false_iff]
    simp only [UInt32.size] at h
    omega

/-- A run goes on in the same way wherever it has begun. -/
theorem exists_runsFrom (x : CpuId) (xs : List CpuId) :
    ∃ last rest, ∀ first, runsFrom first x xs = (first, last) :: rest := by
  induction xs generalizing x with
  | nil => exact ⟨x, [], fun _ => rfl⟩
  | cons y ys ih =>
    by_cases h : next? x = some y
    · obtain ⟨last, rest, hr⟩ := ih y
      exact ⟨last, rest, fun first => by rw [runsFrom, if_pos h, hr]⟩
    · exact ⟨x, runsFrom y y ys, fun first => by rw [runsFrom, if_neg h]⟩

/-- The first run begins with the first CPU. -/
theorem exists_runs_cons (x : CpuId) (xs : List CpuId) :
    ∃ last rest, runs (x :: xs) = (x, last) :: rest := by
  obtain ⟨last, rest, h⟩ := exists_runsFrom x xs
  exact ⟨last, rest, h x⟩

/-- How the runs go on in front of a run that begins with `y`. -/
theorem runs_cons_of_eq {rest : List (CpuId × CpuId)} (h : runs xs = (y, last) :: rest) :
    runs (x :: xs) =
      if x.toNat + 1 = y.toNat then (x, last) :: rest else (x, x) :: (y, last) :: rest := by
  cases xs with
  | nil => cases h
  | cons z zs =>
    obtain ⟨end', rest', hr⟩ := exists_runsFrom z zs
    obtain ⟨hfirst, rfl⟩ := List.cons.inj ((hr z).symm.trans h)
    obtain ⟨rfl, rfl⟩ := Prod.mk.inj hfirst
    simp only [runs, runsFrom, next?_eq_some_iff, hr]

theorem runs_le (xs : List CpuId) : ∀ r ∈ runs xs, r.1.toNat ≤ r.2.toNat := by
  induction xs with
  | nil => exact fun _ h => nomatch h
  | cons x xs ih =>
    cases xs with
    | nil => simp [runs, runsFrom]
    | cons y ys =>
      obtain ⟨last, rest, h⟩ := exists_runs_cons y ys
      rw [h] at ih
      obtain ⟨hy, hrest⟩ := List.forall_mem_cons.1 ih
      rw [runs_cons_of_eq h]
      split
      · have hx : x.toNat ≤ last.toNat := by simp only at hy; omega
        exact List.forall_mem_cons.2 ⟨hx, hrest⟩
      · exact List.forall_mem_cons.2 ⟨Nat.le_refl _, List.forall_mem_cons.2 ⟨hy, hrest⟩⟩

/-- The runs of a list have its CPUs, in its order. -/
theorem flatMap_runs (xs : List CpuId) : (runs xs).flatMap idsOf = xs := by
  induction xs with
  | nil => rfl
  | cons x xs ih =>
    cases xs with
    | nil => simp [runs, runsFrom, idsOf_self]
    | cons y ys =>
      obtain ⟨last, rest, h⟩ := exists_runs_cons y ys
      have hle := runs_le (y :: ys) (y, last)
      rw [h] at ih hle
      rw [runs_cons_of_eq h]
      split
      · rename_i hx
        rw [List.flatMap_cons, idsOf_cons hx (hle List.mem_cons_self), List.cons_append,
          ← List.flatMap_cons, ih]
      · rw [List.flatMap_cons, ih, idsOf_self]
        rfl

/-- The runs of a rising list have gaps between them. -/
theorem runs_apart (h : Rises xs) : Apart (runs xs) := by
  refine ⟨runs_le xs, ?_⟩
  induction xs with
  | nil => exact List.Pairwise.nil
  | cons x xs ih =>
    obtain ⟨hx, hxs⟩ := List.pairwise_cons.1 h
    cases xs with
    | nil => simp [runs, runsFrom]
    | cons y ys =>
      obtain ⟨last, rest, hr⟩ := exists_runs_cons y ys
      have hlt : x.toNat < y.toNat := toNat_lt_of_compare (hx y List.mem_cons_self)
      have hle := runs_le (y :: ys)
      have ih := ih hxs
      rw [hr] at ih hle
      obtain ⟨hgap, hrest⟩ := List.pairwise_cons.1 ih
      rw [runs_cons_of_eq hr]
      split
      · exact List.pairwise_cons.2 ⟨hgap, hrest⟩
      · refine List.pairwise_cons.2 ⟨fun r' hr' => ?_, ih⟩
        rcases List.mem_cons.1 hr' with rfl | hr'
        · simp only
          omega
        · have h₁ := hgap r' hr'
          have h₂ := hle (y, last) List.mem_cons_self
          simp only at h₁ h₂ ⊢
          omega

/-! ## Runs of a set -/

/-- Two ranges are the same or have a gap between them. -/
theorem Apart.gap (h : Apart ranges) (hr : r ∈ ranges) (hr' : r' ∈ ranges) :
    r = r' ∨ r.2.toNat + 1 < r'.1.toNat ∨ r'.2.toNat + 1 < r.1.toNat := by
  have hp := h.gaps
  induction ranges with
  | nil => cases hr
  | cons q ranges ih =>
    obtain ⟨hq, hrest⟩ := List.pairwise_cons.1 hp
    rcases List.mem_cons.1 hr with hr | hr <;> rcases List.mem_cons.1 hr' with hr' | hr'
    · exact .inl (hr.trans hr'.symm)
    · exact .inr (.inl (hr ▸ hq r' hr'))
    · exact .inr (.inr (hr' ▸ hq r hr))
    · exact ih ⟨fun s hs => h.le s (List.mem_cons_of_mem _ hs), hrest⟩ hr hr' hrest

/-- The CPUs of ranges that are apart have the ranges as their runs. -/
theorem Apart.isRun (h : Apart ranges) (hr : r ∈ ranges) :
    IsRun (· ∈ ranges.flatMap idsOf) r.1 r.2 := by
  have hle := h.le r hr
  have hmem : ∀ cpu, cpu ∈ ranges.flatMap idsOf ↔
      ∃ r' ∈ ranges, r'.1.toNat ≤ cpu.toNat ∧ cpu.toNat ≤ r'.2.toNat := fun cpu => by
    rw [List.mem_flatMap]
    exact exists_congr fun r' => and_congr_right fun hr' => mem_idsOf (h.le r' hr')
  refine ⟨hle, fun cpu hl hu => (hmem cpu).2 ⟨r, hr, hl, hu⟩, fun cpu hc => ?_,
    fun cpu hc => ?_⟩ <;>
  · rw [hmem]
    rintro ⟨r', hr', hl, hu⟩
    have hgap := h.gap hr hr'
    grind

/-- The runs of a rising list are those of the set of its members. -/
theorem mem_runs_iff (h : Rises xs) : (first, last) ∈ runs xs ↔ IsRun (· ∈ xs) first last := by
  have hrun : ∀ r ∈ runs xs, IsRun (· ∈ xs) r.1 r.2 := fun r hr => by
    have := (runs_apart h).isRun hr
    rwa [flatMap_runs] at this
  refine ⟨hrun (first, last), fun hs => ?_⟩
  have hfirst : first ∈ (runs xs).flatMap idsOf := by
    rw [flatMap_runs]
    exact hs.member first (Nat.le_refl _) hs.le
  obtain ⟨⟨a, b⟩, hr, hm⟩ := List.mem_flatMap.1 hfirst
  obtain ⟨hl, hu⟩ := (mem_idsOf (runs_le xs _ hr)).1 hm
  have hr' := hrun _ hr
  simp only at hl hu hr'
  -- a run that goes on below or above the other one has a CPU next to that
  have ha : a = first := by
    rw [← UInt32.toNat_inj]
    refine Decidable.byContradiction fun hne => ?_
    obtain ⟨c, hc⟩ := exists_toNat_eq (Nat.sub_le first.toNat 1)
    exact hs.below c (by omega) (hr'.member c (by omega) (by omega))
  have hb : b = last := by
    rw [← UInt32.toNat_inj]
    rcases Nat.lt_trichotomy b.toNat last.toNat with hlt | heq | hlt
    · obtain ⟨c, hc⟩ := exists_toNat_eq (Nat.succ_le_of_lt hlt)
      exact absurd (hs.member c (by omega) (by omega)) (hr'.above c hc)
    · exact heq
    · obtain ⟨c, hc⟩ := exists_toNat_eq (Nat.succ_le_of_lt hlt)
      have hle := hs.le
      exact absurd (hr'.member c (by omega) (by omega)) (hs.above c hc)
  rwa [← ha, ← hb]

end PowerGrant.CpuList
