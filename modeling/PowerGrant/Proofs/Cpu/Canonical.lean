import Mathlib.Data.List.Perm.Subperm
import PowerGrant.Proofs.Cpu.Grammar
import PowerGrant.Proofs.Cpu.Printed

/-!
# Printed CPU lists

A set of CPUs is printed by its maximal runs. That is the shortest list for the set, and it depends
on the set alone. Reading it gives the set back, as long as no run is too wide to be read.

* `CpuList.FirstWide`: the first of the runs that are too wide. `parseCpuList_printed`: what is read
  of a printed set.
* `CpuList.Canonical`: a text is the canonical list of a set. `length_le_of_covers`: ranges that
  cover a set are at least as many as its runs.
* `formatCpuList_canonical`: a printed set is its canonical list.
-/

namespace PowerGrant

namespace CpuList

/-- The run is too wide to be read, and none before it is. -/
structure FirstWide (S : CpuId → Prop) (first last : CpuId) : Prop where
  run : IsRun S first last
  wide : TooWide (first, last)
  least : ∀ first' last', IsRun S first' last' → TooWide (first', last') →
    first.toNat ≤ first'.toNat

/-- The CPUs of the ranges are the members of `S`. -/
def Covers (ranges : List (CpuId × CpuId)) (S : CpuId → Prop) : Prop :=
  ∀ cpu, S cpu ↔ ∃ r ∈ ranges, r.1 ≤ cpu ∧ cpu ≤ r.2

/-- The text is the canonical list of the members of `S`: that of these ranges. -/
structure Canonical (S : CpuId → Prop) (text : String) (ranges : List (CpuId × CpuId)) : Prop where
  printed : text = ",".intercalate (ranges.map token)
  pieces : ranges ≠ [] → Text.pieces ',' text.toList = ranges.map fun r => (token r).toList
  /-- A range is named by the number of its only CPU or by both its ends. -/
  names : ∀ r ∈ ranges, Names (token r).toList r.1 r.2
  apart : Apart ranges
  covers : Covers ranges S
  /-- The ranges are the maximal runs. -/
  runs : ∀ first last, (first, last) ∈ ranges ↔ IsRun S first last
  /-- Any list of the same CPUs has as many tokens or more. -/
  shortest : ∀ (other : String) (named : List (CpuId × CpuId)),
    List.Forall₂ (fun t r => Names t r.1 r.2) (Text.pieces ',' other.toList) named →
      Covers named S → ranges.length ≤ (Text.pieces ',' other.toList).length

variable {S : CpuId → Prop} {cpus other : List CpuId} {first last : CpuId} {r r' : CpuId × CpuId}
  {ranges named : List (CpuId × CpuId)}

/-! ## The first run that is too wide -/

theorem isRun_ascending : IsRun (· ∈ cpus) first last ↔ (first, last) ∈ runs (ascending cpus) := by
  rw [mem_runs_iff (ascending_rises cpus)]
  simp only [mem_ascending]

theorem find?_runs_eq_none_iff :
    (runs (ascending cpus)).find? (TooWide ·) = none ↔
      ∀ first last, IsRun (· ∈ cpus) first last → ¬ TooWide (first, last) := by
  simp [List.find?_eq_none, isRun_ascending]

theorem firstWide_of_find? (h : (runs (ascending cpus)).find? (TooWide ·) = some r) :
    FirstWide (· ∈ cpus) r.1 r.2 where
  run := isRun_ascending.2 (List.mem_of_find?_eq_some h)
  wide := by simpa using List.find?_some h
  least first' last' hrun hwide := by
    refine le_of_find?_runs (ascending_rises cpus) h ?_ hwide
    simpa only [mem_ascending] using hrun

/-- There is one first run that is too wide at most. -/
theorem FirstWide.unique (h : FirstWide (· ∈ cpus) r.1 r.2) (h' : FirstWide (· ∈ cpus) r'.1 r'.2) :
    r = r' := by
  have hle := h.least _ _ h'.run h'.wide
  have hle' := h'.least _ _ h.run h.wide
  have hl := h.run.le
  have hl' := h'.run.le
  have hgap : r = r' ∨ r.2.toNat + 1 < r'.1.toNat ∨ r'.2.toNat + 1 < r.1.toNat :=
    (runs_apart (ascending_rises cpus)).gap (isRun_ascending.1 h.run) (isRun_ascending.1 h'.run)
  rcases hgap with heq | hgap | hgap
  · exact heq
  · omega
  · omega

theorem find?_runs_eq_some_iff :
    (runs (ascending cpus)).find? (TooWide ·) = some r ↔ FirstWide (· ∈ cpus) r.1 r.2 := by
  refine ⟨firstWide_of_find?, fun h => ?_⟩
  cases hf : (runs (ascending cpus)).find? (TooWide ·) with
  | none => exact absurd h.wide (find?_runs_eq_none_iff.1 hf _ _ h.run)
  | some r' => rw [(firstWide_of_find? hf).unique h]

/-! ## What ranges cover -/

theorem covers_runs (cpus : List CpuId) : Covers (runs (ascending cpus)) (· ∈ cpus) := by
  intro cpu
  have hmem : cpu ∈ cpus ↔ ∃ r ∈ runs (ascending cpus), cpu ∈ idsOf r := by
    rw [← List.mem_flatMap, flatMap_runs, mem_ascending]
  refine hmem.trans (exists_congr fun r => and_congr_right fun hr => ?_)
  rw [mem_idsOf (runs_le _ r hr), UInt32.le_iff_toNat_le, UInt32.le_iff_toNat_le]

/-- Ranges that are apart begin at different CPUs. -/
theorem Apart.nodup (h : Apart ranges) : (ranges.map Prod.fst).Nodup := by
  rw [List.nodup_iff_pairwise_ne, List.pairwise_map]
  refine h.gaps.imp_of_mem fun {r r'} hr _ hgap heq => ?_
  have hle := h.le r hr
  rw [heq] at hle
  omega

/-- Where a run of a set begins, one of the ranges begins that cover the set. -/
theorem exists_of_isRun (hc : Covers named S) (h : IsRun S first last) :
    ∃ r ∈ named, r.1 = first := by
  obtain ⟨r, hr, hl, hu⟩ := (hc first).1 (h.member first (Nat.le_refl _) h.le)
  rw [UInt32.le_iff_toNat_le] at hl hu
  refine ⟨r, hr, UInt32.toNat_inj.1 ?_⟩
  -- a range that began before the run would have the CPU below it
  refine Decidable.byContradiction fun hne => ?_
  obtain ⟨below, hb⟩ := exists_toNat_eq (Nat.sub_le first.toNat 1)
  refine h.below below (by omega) ((hc below).2 ⟨r, hr, ?_, ?_⟩) <;>
  · rw [UInt32.le_iff_toNat_le]
    omega

/-- Ranges that cover a set are as many as its runs, or more. -/
theorem length_le_of_covers (ha : Apart ranges) (hruns : ∀ r ∈ ranges, IsRun S r.1 r.2)
    (hc : Covers named S) : ranges.length ≤ named.length := by
  have hsub : ranges.map Prod.fst ⊆ named.map Prod.fst := by
    intro first hfirst
    obtain ⟨r, hr, rfl⟩ := List.mem_map.1 hfirst
    obtain ⟨r', hr', heq⟩ := exists_of_isRun hc (hruns r hr)
    exact List.mem_map.2 ⟨r', hr', heq⟩
  simpa using (ha.nodup.subperm hsub).length_le

/-! ## Tokens of ranges -/

theorem isCpu_toDigits (cpu : CpuId) : IsCpu (Nat.toDigits 10 cpu.toNat) cpu :=
  readCpu_ok_iff.1 (readCpu_toDigits cpu)

theorem names_token (h : r.1.toNat ≤ r.2.toNat) : Names (token r).toList r.1 r.2 := by
  have htrim := trim_token r
  rw [toList_token] at htrim ⊢
  split
  · rename_i heq
    rw [if_pos heq] at htrim
    have hdash : '-' ∉ Text.trim (Nat.toDigits 10 r.1.toNat) := by
      rw [htrim]
      exact dash_not_mem_toDigits _
    rw [← heq]
    exact .single hdash (isCpu_toDigits _)
  · rename_i hne
    rw [if_neg hne] at htrim
    exact .range ⟨htrim, dash_not_mem_toDigits _⟩ (isCpu_toDigits _) (isCpu_toDigits _)
      (UInt32.le_iff_toNat_le.2 h)

theorem IsCpu.unique {cs : List Char} (h : IsCpu cs first) (h' : IsCpu cs last) : first = last :=
  Except.ok.inj ((readCpu_ok_iff.2 h).symm.trans (readCpu_ok_iff.2 h'))

/-- A token names one range at most. -/
theorem Names.unique {t : List Char} (h : Names t r.1 r.2) (h' : Names t r'.1 r'.2) : r = r' := by
  rcases blank_or_halves t with hb | ⟨-, hd⟩ | ⟨a, b, hh⟩
  · exact absurd h (not_names_of_blank hb)
  · obtain ⟨heq, hc⟩ := (names_of_no_dash hd).1 h
    obtain ⟨heq', hc'⟩ := (names_of_no_dash hd).1 h'
    have hfirst := hc.unique hc'
    exact Prod.ext hfirst (heq.symm.trans (hfirst.trans heq'))
  · obtain ⟨ha, hb, -⟩ := (names_of_halves hh).1 h
    obtain ⟨ha', hb', -⟩ := (names_of_halves hh).1 h'
    exact Prod.ext (ha.unique ha') (hb.unique hb')

/-- Different ranges have different tokens. -/
theorem map_token_injective {ranges' : List (CpuId × CpuId)}
    (h : ∀ r ∈ ranges, r.1.toNat ≤ r.2.toNat) (h' : ∀ r ∈ ranges', r.1.toNat ≤ r.2.toNat)
    (heq : (ranges.map fun r => (token r).toList) = ranges'.map fun r => (token r).toList) :
    ranges = ranges' := by
  induction ranges generalizing ranges' with
  | nil => exact (List.map_eq_nil_iff.1 heq.symm).symm
  | cons r ranges ih =>
    cases ranges' with
    | nil => cases heq
    | cons r' ranges' =>
      obtain ⟨ht, hrest⟩ := List.cons.inj heq
      obtain ⟨hr, hranges⟩ := List.forall_mem_cons.1 h
      obtain ⟨hr', hranges'⟩ := List.forall_mem_cons.1 h'
      have ht : (token r).toList = (token r').toList := ht
      rw [(names_token hr).unique (ht ▸ names_token hr'), ih hranges hranges' hrest]

/-- The text determines the members. -/
theorem ascending_eq_of_formatCpuList (h : formatCpuList other = formatCpuList cpus) :
    ascending other = ascending cpus := by
  have hpieces := (pieces_formatCpuList other).symm.trans (h ▸ pieces_formatCpuList cpus)
  have hblank : ∀ cpus : List CpuId, [[]] ≠ (runs (ascending cpus)).map fun r => (token r).toList :=
    fun cpus heq => by
      obtain ⟨r, -, hr⟩ := List.mem_map.1 (heq ▸ List.mem_singleton_self _)
      exact token_ne_nil r hr
  split at hpieces <;> split at hpieces
  · rename_i ho hc
    rw [ho, hc]
  · exact absurd hpieces (hblank _)
  · exact absurd hpieces.symm (hblank _)
  · have hruns := map_token_injective (runs_le _) (runs_le _) hpieces
    rw [← flatMap_runs (ascending other), hruns, flatMap_runs]

end CpuList

open CpuList in
/-- A printed set is read as its members in rising order exactly if it has some and no run of it is
too wide; otherwise it is refused as empty, or for the first run that is too wide. -/
theorem parseCpuList_printed (cpus : List CpuId) :
    (∀ read, parseCpuList (formatCpuList cpus) = .ok read ↔
      (cpus ≠ [] ∧ ∀ first last, IsRun (· ∈ cpus) first last → ¬ TooWide (first, last)) ∧
        Rises read ∧ ∀ cpu, cpu ∈ read ↔ cpu ∈ cpus) ∧
    ∀ e, parseCpuList (formatCpuList cpus) = .error e ↔
      (cpus = [] ∧ e = .emptyToken "") ∨
        ∃ first last, FirstWide (· ∈ cpus) first last ∧ e = .rangeTooWide first last := by
  have hread (read : List CpuId) :
      (Rises read ∧ ∀ cpu, cpu ∈ read ↔ cpu ∈ cpus) ↔ ascending cpus = read := by
    constructor
    · rintro ⟨hr, hm⟩
      exact (ascending_rises cpus).eq_of_mem_iff hr fun a => mem_ascending.trans (hm a).symm
    · rintro rfl
      exact ⟨ascending_rises cpus, fun _ => mem_ascending⟩
  have hwide (first last : CpuId) : FirstWide (· ∈ cpus) first last ↔
      (runs (ascending cpus)).find? (TooWide ·) = some (first, last) :=
    (find?_runs_eq_some_iff (r := (first, last))).symm
  simp only [parseCpuList_formatCpuList, hread, hwide, ← find?_runs_eq_none_iff]
  by_cases hnil : cpus = []
  · simp [hnil, runs, formatCpuList, eq_comm]
  · cases (runs (ascending cpus)).find? (TooWide ·) with
    | none => simp [hnil]
    | some r => simp [hnil, eq_comm, Prod.ext_iff]

open CpuList in
/-- What is printed is the canonical list of the members, and other lists print the same exactly if
they have the same members. -/
theorem formatCpuList_canonical (cpus : List CpuId) :
    (∃ ranges, Canonical (· ∈ cpus) (formatCpuList cpus) ranges) ∧
      ∀ other, formatCpuList other = formatCpuList cpus ↔ ∀ cpu, cpu ∈ other ↔ cpu ∈ cpus := by
  have hrises := ascending_rises cpus
  have hapart := runs_apart hrises
  refine ⟨⟨runs (ascending cpus), {
    printed := rfl
    pieces := fun hne => ?_
    names := fun r hr => names_token (runs_le _ r hr)
    apart := hapart
    covers := covers_runs cpus
    runs := fun first last => isRun_ascending.symm
    shortest := fun text named hn hc => ?_ }⟩, fun other => ?_⟩
  · have hcpus : cpus ≠ [] := by
      rintro rfl
      exact hne rfl
    rw [pieces_formatCpuList, if_neg hcpus]
  · rw [hn.length_eq]
    exact length_le_of_covers hapart (fun r hr => isRun_ascending.2 hr) hc
  · constructor
    · intro h cpu
      exact mem_ascending.symm.trans ((ascending_eq_of_formatCpuList h) ▸ mem_ascending)
    · intro h
      have heq : ascending other = ascending cpus :=
        (ascending_rises other).eq_of_mem_iff hrises fun cpu => by simp only [mem_ascending, h]
      rw [formatCpuList, formatCpuList, heq]

/-- The run that ends with the highest number of a CPU. -/
example : formatCpuList [4294967295, 0, 4294967294, 1, 0] = "0-1,4294967294-4294967295" := by
  decide +kernel

end PowerGrant
