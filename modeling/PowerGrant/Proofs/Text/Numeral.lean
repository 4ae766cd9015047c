import Mathlib.Data.List.DropRight
import PowerGrant.Text.Blank
import PowerGrant.Text.Cut
import PowerGrant.Text.Numeral

/-!
# Numerals between separators

* `readUInt32_toDigits`: the digits by which a number is written are read as that number.
* `trim_eq_nil_iff`: trimming leaves nothing exactly of blanks. `trim_trim`: what it leaves stays.
* `isBlank_of_isDigit`, `pieces_intercalate`: digits are neither blanks nor separators, so what is
  written between separators is found again there.
-/

namespace PowerGrant.Text

variable {limit n d : Nat} {c sep : Char} {ds : List Nat} {cs : List Char}

/-! ## Blanks -/

theorem trimEnd_eq_nil_iff : trimEnd cs = [] ↔ ∀ c ∈ cs, isBlank c = true := by
  simp [trimEnd, List.dropWhile_eq_nil_iff]

/-- Trimming leaves nothing exactly of blanks. -/
theorem trim_eq_nil_iff : trim cs = [] ↔ ∀ c ∈ cs, isBlank c = true := by
  rw [trim, trimEnd_eq_nil_iff]
  constructor
  · intro h
    induction cs with
    | nil => simp
    | cons c cs ih =>
      by_cases hc : isBlank c = true
      · rw [List.dropWhile_cons_of_pos hc] at h
        exact List.forall_mem_cons.2 ⟨hc, ih h⟩
      · rw [List.dropWhile_cons_of_neg hc] at h
        exact h
  · intro h c hc
    exact h c (List.dropWhile_sublist _ |>.subset hc)

/-- Trimmed text has no blanks at its ends. -/
theorem trim_trim (cs : List Char) : trim (trim cs) = trim cs := by
  have hend (t : List Char) : trimEnd (trimEnd t) = trimEnd t :=
    List.rdropWhile_idempotent isBlank t
  cases hd : cs.dropWhile isBlank with
  | nil => simp [trim, hd, trimEnd]
  | cons c rest =>
    have hc : ¬ isBlank c = true := by
      have := List.head_dropWhile_not isBlank (l := cs) (by simp [hd])
      simpa [hd] using this
    have hpre : trimEnd (c :: rest) <+: c :: rest := List.rdropWhile_prefix isBlank _
    have hdrop : (trimEnd (c :: rest)).dropWhile isBlank = trimEnd (c :: rest) := by
      cases ht : trimEnd (c :: rest) with
      | nil => rfl
      | cons x xs =>
        obtain ⟨rfl, -⟩ := List.cons_prefix_cons.1 (ht ▸ hpre)
        exact List.dropWhile_cons_of_neg hc
    rw [trim, trim, hd, hdrop, hend]

/-! ## Digits -/

theorem digit?_digitChar (h : d < 10) : digit? d.digitChar = some d := by
  revert d
  decide

theorem valueFrom_append {acc : Nat} {es : List Nat} :
    valueFrom acc (ds ++ es) = valueFrom (valueFrom acc ds) es := List.foldl_append

/-- The digits of a number have its value. -/
theorem digits?_toDigits (n : Nat) :
    ∃ ds, digits? (Nat.toDigits 10 n) = some ds ∧ valueFrom 0 ds = n := by
  induction n using Nat.strongRecOn with
  | ind n ih =>
    by_cases hn : n < 10
    · refine ⟨[n], ?_, by simp [valueFrom]⟩
      simp [Nat.toDigits_of_lt_base hn, digits?, digit?_digitChar hn]
    · obtain ⟨ds, hds, hv⟩ := ih (n / 10) (by omega)
      have hlast : n % 10 < 10 := Nat.mod_lt _ (by decide)
      refine ⟨ds ++ [n % 10], ?_, ?_⟩
      · rw [Nat.toDigits_of_base_le (by decide) (by omega), digits?, List.mapM_append]
        rw [show List.mapM digit? (Nat.toDigits 10 (n / 10)) = some ds from hds]
        simp [digit?_digitChar hlast]
      · rw [valueFrom_append, hv]
        simp only [valueFrom, List.foldl_cons, List.foldl_nil]
        omega

theorem readDigits_toDigits (h : n < limit) : readDigits limit 0 (Nat.toDigits 10 n) = .ok n := by
  obtain ⟨ds, hds, hv⟩ := digits?_toDigits n
  exact (readDigits_ok_iff (by omega)).2 ⟨ds, hds, hv, h⟩

/-- Digits stand without a sign in front. -/
theorem readBelow_of_digits (hne : cs ≠ []) (h : ∀ c ∈ cs, c.isDigit = true) :
    readBelow limit cs = readDigits limit 0 cs := by
  cases cs with
  | nil => exact absurd rfl hne
  | cons c cs =>
    have hc : c ≠ '+' := by
      rintro rfl
      exact absurd (h '+' List.mem_cons_self) (by decide)
    unfold readBelow
    split
    · rename_i heq
      cases heq
    · rename_i heq
      exact absurd (List.cons.inj heq).1 hc
    · rfl

theorem isDigit_of_mem_toDigits (h : c ∈ Nat.toDigits 10 n) : c.isDigit = true :=
  Nat.isDigit_of_mem_toDigits (by decide) (by decide) h

/-- The digits by which a number is written are read as that number. -/
theorem readUInt32_toDigits (x : UInt32) : readUInt32 (Nat.toDigits 10 x.toNat) = .ok x := by
  rw [readUInt32, readBelow_of_digits Nat.toDigits_ne_nil fun _ => isDigit_of_mem_toDigits,
    readDigits_toDigits x.toNat_lt]
  exact congrArg Except.ok UInt32.ofNat_toNat

/-! ## What digits are not -/

theorem isBlank_of_isDigit (h : c.isDigit = true) : isBlank c = false := by
  have hc : 48 ≤ c.toNat ∧ c.toNat ≤ 57 := by
    simpa [Char.isDigit, UInt32.le_iff_toNat_le] using h
  simp only [isBlank, Bool.or_eq_false_iff, Bool.and_eq_false_iff, decide_eq_false_iff_not,
    beq_eq_false_iff_ne]
  omega

/-! ## Pieces -/

/-- Pieces without separators are found again between separators. -/
theorem pieces_intercalate {ps : List (List Char)} (hne : ps ≠ []) (h : ∀ p ∈ ps, sep ∉ p) :
    pieces sep ([sep].intercalate ps) = ps := by
  induction ps with
  | nil => exact absurd rfl hne
  | cons p ps ih =>
    obtain ⟨hp, hps⟩ := List.forall_mem_cons.1 h
    cases ps with
    | nil =>
      rw [List.intercalate_singleton]
      exact pieces_of_not_mem hp
    | cons q ps =>
      rw [List.intercalate_cons_cons, List.append_assoc, List.singleton_append, pieces_append_sep,
        pieces_of_not_mem hp, ih (List.cons_ne_nil q ps) hps]
      rfl

end PowerGrant.Text
