import PowerGrant.Proofs.Cpu.Runs
import PowerGrant.Proofs.Text.Numeral

/-!
# Reading a printed CPU list

A set of CPUs is printed by its runs, one token for each. A token is read as the run it was printed
for, unless that is too wide to be read; so a printed set is read as the set, in rising order, or
refused for the first of its runs that is too wide.

* `CpuList.readToken_token`: how the token of a run is read.
* `parseCpuList_formatCpuList`: how a printed set is read.
-/

namespace PowerGrant

namespace CpuList

/-- A range covers more CPUs than one may. -/
def TooWide (range : CpuId × CpuId) : Prop :=
  maxRangeWidth ≤ range.2.toNat - range.1.toNat

instance : DecidablePred TooWide := fun range =>
  inferInstanceAs (Decidable (maxRangeWidth ≤ range.2.toNat - range.1.toNat))

/-- What the first range that is too wide makes of a list, and the CPUs of them all without one. -/
def readRanges (ranges : List (CpuId × CpuId)) : Except CpuListError (List CpuId) :=
  match ranges.find? (TooWide ·) with
  | some r => .error (.rangeTooWide r.1 r.2)
  | none => .ok (ranges.flatMap idsOf)

variable {xs : List CpuId} {r : CpuId × CpuId} {ranges : List (CpuId × CpuId)} {list : String}

theorem readCpu_toDigits (x : CpuId) : readCpu (Nat.toDigits 10 x.toNat) = .ok x := by
  have htrim : Text.trim (Nat.toDigits 10 x.toNat) = Nat.toDigits 10 x.toNat :=
    Text.trim_of_no_blank fun _ hc => Text.isBlank_of_isDigit (Text.isDigit_of_mem_toDigits hc)
  simp only [readCpu, htrim, Text.readUInt32_toDigits]

/-! ## Tokens -/

/-- A run of one CPU is printed as the CPU, a longer one by its ends. -/
theorem toList_token (r : CpuId × CpuId) :
    (token r).toList =
      if r.1 = r.2 then Nat.toDigits 10 r.1.toNat
      else Nat.toDigits 10 r.1.toNat ++ '-' :: Nat.toDigits 10 r.2.toNat := by
  unfold token
  split
  · exact Nat.toList_repr
  · simp [toString, String.toList_append, Nat.toList_repr]

/-- A token has digits and dashes only. -/
theorem mem_token {c : Char} (hc : c ∈ (token r).toList) : c.isDigit = true ∨ c = '-' := by
  rw [toList_token] at hc
  split at hc
  · exact .inl (Text.isDigit_of_mem_toDigits hc)
  · rcases List.mem_append.1 hc with hc | hc
    · exact .inl (Text.isDigit_of_mem_toDigits hc)
    · rcases List.mem_cons.1 hc with rfl | hc
      · exact .inr rfl
      · exact .inl (Text.isDigit_of_mem_toDigits hc)

theorem token_ne_nil (r : CpuId × CpuId) : (token r).toList ≠ [] := by
  rw [toList_token]
  split
  · exact Nat.toDigits_ne_nil
  · simp

theorem trim_token (r : CpuId × CpuId) : Text.trim (token r).toList = (token r).toList := by
  refine Text.trim_of_no_blank fun c hc => ?_
  rcases mem_token hc with h | rfl
  · exact Text.isBlank_of_isDigit h
  · decide

theorem comma_not_mem_token (r : CpuId × CpuId) : ',' ∉ (token r).toList := fun h => by
  rcases mem_token h with h | h <;> exact absurd h (by decide)

theorem dash_not_mem_toDigits (n : Nat) : '-' ∉ Nat.toDigits 10 n := fun h =>
  absurd (Text.isDigit_of_mem_toDigits h) (by decide)

/-- The ends of a range in order are expanded, up to the width that is allowed. -/
theorem expand_of_le (h : r.1.toNat ≤ r.2.toNat) :
    expand r.1 r.2 = if TooWide r then .error (.rangeTooWide r.1 r.2) else .ok (idsOf r) := by
  have hlt : ¬ r.2 < r.1 := fun hlt => Nat.not_lt.2 h (UInt32.lt_iff_toNat_lt.1 hlt)
  rw [expand, if_neg hlt]
  rfl

/-- The token of a run is read as the run, up to the width that is allowed. -/
theorem readToken_token (h : r.1.toNat ≤ r.2.toNat) :
    readToken list (token r).toList =
      if TooWide r then .error (.rangeTooWide r.1 r.2) else .ok (idsOf r) := by
  have hne := token_ne_nil r
  unfold readToken
  rw [trim_token]
  split
  · rename_i hnil
    exact absurd hnil hne
  · rw [toList_token]
    by_cases heq : r.1 = r.2
    · have hself : r = (r.1, r.1) := Prod.ext rfl heq.symm
      have hnarrow : ¬ TooWide r := by
        rw [hself]
        simp [TooWide, maxRangeWidth]
      rw [if_pos heq, if_neg hnarrow, Text.cut?_eq_none_iff.2 (dash_not_mem_toDigits _), hself,
        idsOf_self]
      simp only [readCpu_toDigits]
      rfl
    · rw [if_neg heq, Text.cut?_eq_some_iff.2 ⟨rfl, dash_not_mem_toDigits _⟩, ← expand_of_le h]
      simp only [readCpu_toDigits]
      rfl

theorem readTokens_token (h : ∀ r ∈ ranges, r.1.toNat ≤ r.2.toNat) :
    readTokens list (ranges.map fun r => (token r).toList) = readRanges ranges := by
  induction ranges with
  | nil => rfl
  | cons r ranges ih =>
    obtain ⟨hr, hrest⟩ := List.forall_mem_cons.1 h
    rw [List.map_cons, readTokens, readToken_token hr, ih hrest]
    by_cases hwide : TooWide r
    · simp only [readRanges, hwide, if_true, List.find?_cons_of_pos, decide_true]
      rfl
    · simp only [readRanges, hwide, if_false, List.find?_cons_of_neg, decide_false,
        Bool.false_eq_true, not_false_eq_true, List.flatMap_cons]
      cases ranges.find? (TooWide ·) <;> rfl

/-! ## The first run that is too wide -/

/-- The run that is found lies below all others that are too wide. -/
theorem le_of_find?_runs (h : Rises xs) (hf : (runs xs).find? (TooWide ·) = some r)
    {first last : CpuId} (hrun : IsRun (· ∈ xs) first last) (hwide : TooWide (first, last)) :
    r.1.toNat ≤ first.toNat := by
  obtain ⟨-, before, after, heq, hbefore⟩ := List.find?_eq_some_iff_append.1 hf
  have hmem : (first, last) ∈ before ++ r :: after := heq ▸ (mem_runs_iff h).2 hrun
  rcases List.mem_append.1 hmem with hm | hm
  · exact absurd (hbefore _ hm) (by simpa using hwide)
  · rcases List.mem_cons.1 hm with rfl | hm
    · exact Nat.le_refl _
    · have hgaps := (runs_apart h).gaps
      rw [heq] at hgaps
      have hle := runs_le xs r (heq ▸ List.mem_append_right _ List.mem_cons_self)
      have hgap := (List.pairwise_cons.1 (List.pairwise_append.1 hgaps).2.1).1 _ hm
      simp only at hgap
      omega

/-! ## Printed sets -/

/-- The tokens of a printed set stand between its commas; of the empty set nothing is printed. -/
theorem pieces_formatCpuList (cpus : List CpuId) :
    Text.pieces ',' (formatCpuList cpus).toList =
      if cpus = [] then [[]] else (runs (ascending cpus)).map fun r => (token r).toList := by
  have hlist : (formatCpuList cpus).toList =
      [','].intercalate ((runs (ascending cpus)).map fun r => (token r).toList) := by
    simp [formatCpuList, String.toList_intercalate, Function.comp_def]
  rw [hlist]
  split
  · rename_i h
    subst h
    rfl
  · rename_i h
    refine Text.pieces_intercalate (fun hnil => ?_) fun p hp => ?_
    · have hcpus := flatMap_runs (ascending cpus)
      rw [List.map_eq_nil_iff.1 hnil] at hcpus
      exact h (ascending_eq_nil.1 hcpus.symm)
    · obtain ⟨r, -, rfl⟩ := List.mem_map.1 hp
      exact comma_not_mem_token r

/-- All blanks are read as the empty set is. -/
theorem trim_formatCpuList {cpus : List CpuId} :
    Text.trim (formatCpuList cpus).toList = [] ↔ cpus = [] := by
  constructor
  · intro h
    have hblank := Text.trim_eq_nil_iff.1 h
    have hcomma : ',' ∉ (formatCpuList cpus).toList := fun hc =>
      absurd (hblank ',' hc) (by decide)
    have hpieces := pieces_formatCpuList cpus
    rw [Text.pieces_of_not_mem hcomma] at hpieces
    refine Decidable.byContradiction fun hne => ?_
    rw [if_neg hne] at hpieces
    obtain ⟨r, -, hr⟩ := List.mem_map.1 (hpieces ▸ List.mem_singleton_self _)
    exact token_ne_nil r (by rw [← trim_token r, hr, h])
  · rintro rfl
    rfl

end CpuList

open CpuList in
/-- A printed set is read as the set in rising order, unless it is empty or has too wide a run. -/
theorem parseCpuList_formatCpuList (cpus : List CpuId) :
    parseCpuList (formatCpuList cpus) =
      if cpus = [] then .error (.emptyToken (formatCpuList cpus))
      else
        match (runs (ascending cpus)).find? (TooWide ·) with
        | some r => .error (.rangeTooWide r.1 r.2)
        | none => .ok (ascending cpus) := by
  rw [parseCpuList, pieces_formatCpuList]
  split
  · rfl
  · rw [readTokens_token (runs_le _), readRanges, flatMap_runs]

end PowerGrant
