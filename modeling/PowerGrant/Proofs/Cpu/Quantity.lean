import Mathlib.Data.Nat.Digits.Defs
import Mathlib.Data.Rat.Lemmas
import Mathlib.Tactic.FieldSimp
import Mathlib.Tactic.NormNum
import Mathlib.Tactic.Ring
import PowerGrant.Cpu.Quantity
import PowerGrant.Proofs.Text.Grammar

/-!
# What quantities of CPUs denote

A quantity writes a number by decimal digits around a point that may be missing, and multiplies it
by what its suffix stands for. It is read as the number of CPUs that it denotes if that is a whole
one, and is not read otherwise: nothing is rounded and nothing wraps.

* `Quantity.decimal`: the number that digits around a point write. `Quantity.Factor`: what a suffix
  stands for. `Quantity.Denotes`: the number that a quantity denotes, within the limits of reading.
* `Quantity.ratio?`: the two numbers of which the quotient is taken in the end. It is the number
  denoted (`ratio?_eq_some_iff`, `cast_ratio`).
* `wholeCpus_exact`: the whole numbers denoted are read, and nothing else is.
-/

namespace PowerGrant

namespace Quantity

/-! ## Numbers and suffixes -/

/-- The suffixes that stand for powers of a thousand, from the least to the greatest. -/
def thousands : List String := ["n", "u", "m", "", "k", "M", "G", "T", "P", "E"]

/-- The suffixes that stand for powers of 1024, from the first to the sixth. -/
def binaries : List String := ["Ki", "Mi", "Gi", "Ti", "Pi", "Ei"]

/-- The factor that a suffix stands for. -/
inductive Factor : String → Rat → Prop
  | thousand {suffix : String} {i : Nat} (h : thousands[i]? = some suffix) :
    Factor suffix (1000 ^ ((i : Int) - 3))
  | binary {suffix : String} {i : Nat} (h : binaries[i]? = some suffix) :
    Factor suffix (1024 ^ (i + 1))

/-- The number that digits before and behind a decimal point write. -/
def decimal (whole fraction : List Nat) : Rat :=
  Nat.ofDigits (10 : Rat) whole.reverse + Nat.ofDigits (10⁻¹ : Rat) (0 :: fraction)

/-- The whole number that digits write. -/
def number (digits : List Nat) : Nat := Nat.ofDigits 10 digits.reverse

/-- The text is these digits before and behind a point, which may be missing if there are none
behind it. -/
inductive Around (text : List Char) : List Nat → List Nat → Prop
  | plain {before : List Nat} (h : Text.digits? text = some before) : Around text before []
  | pointed {front back : List Char} {before behind : List Nat} (h : text = front ++ '.' :: back)
    (hfront : Text.digits? front = some before) (hback : Text.digits? back = some behind) :
    Around text before behind

/-- The text is digits around a point, one at least, and a suffix. -/
def Written (cs : List Char) (before behind : List Nat) (suffix : String) : Prop :=
  ∃ text, cs = text ++ suffix.toList ∧ Around text before behind ∧ before ++ behind ≠ []

/-- The quantity denotes the number `x`, and is short enough to be read: all its digits as one
number, times the numerator of the factor, stay below the limit, and so does the denominator. -/
inductive Denotes (quantity : String) (x : Rat) : Prop
  | intro {before behind : List Nat} {suffix : String} {factor : Rat}
    (written : Written (Text.trim quantity.toList) before behind suffix)
    (stands : Factor suffix factor) (value : x = decimal before behind * factor)
    (num : number (before ++ behind) * factor.num < 2 ^ 128)
    (den : 10 ^ behind.length * factor.den < 2 ^ 128)

/-- The numbers of which the quotient is taken. -/
def ratio? (quantity : String) : Option (Nat × Nat) := do
  let cs := Text.trim quantity.toList
  let scale ← scales.lookup (String.ofList (cs.dropWhile inNumber))
  let (whole, fraction) := parts (cs.takeWhile inNumber)
  let mantissa ← (Text.readBelow limit (whole ++ fraction)).toOption
  let places ← checked (Nat.pow 10 fraction.length)
  let num ← checked (mantissa * scale.num)
  let den ← checked (places * scale.den)
  return (num, den)

/-- The factor of a scale. -/
def Scale.value (s : Scale) : Rat := s.num / s.den

variable {quantity suffix : String} {cs front back : List Char} {before behind ds : List Nat}
  {scale : Scale} {x factor : Rat} {n num den : Nat} {c : Char}

theorem wholeCpus_eq (quantity : String) :
    wholeCpus quantity = (ratio? quantity).bind fun r =>
      if r.1 % r.2 = 0 ∧ r.1 / r.2 < UInt64.size then some (r.1 / r.2) else none := by
  simp only [wholeCpus, ratio?, Option.bind_eq_bind, Option.bind_assoc, Option.pure_def,
    Option.bind_some]

/-! ## The table of suffixes -/

/-- The scale of the suffix at a place of `thousands`. -/
def Scale.thousand (i : Nat) : Scale :=
  if i < 3 then .tenth (3 * (3 - i)) else .power 10 (3 * (i - 3))

theorem Scale.value_power (base n : Nat) : (Scale.power base n).value = base ^ n := by
  simp [value, power]

theorem Scale.value_tenth (n : Nat) : (Scale.tenth n).value = (10 ^ n)⁻¹ := by
  simp [value, tenth]

theorem Scale.value_thousand (i : Nat) : (Scale.thousand i).value = 1000 ^ ((i : Int) - 3) := by
  have hcube (k : Nat) : (10 : Rat) ^ (3 * k) = 1000 ^ k := by
    rw [pow_mul]
    norm_num
  unfold thousand
  split
  case isTrue h =>
    have hi : (i : Int) - 3 = -((3 - i : Nat) : Int) := by omega
    rw [value_tenth, hcube, hi, zpow_neg, zpow_natCast]
  case isFalse h =>
    have hi : (i : Int) - 3 = ((i - 3 : Nat) : Int) := by omega
    rw [value_power, Nat.cast_ofNat, hcube, hi, zpow_natCast]

/-- The table has the suffixes of both lists, each with the scale of its place. -/
theorem scales_perm : scales.Perm (thousands.zipIdx.map (fun e => (e.1, Scale.thousand e.2)) ++
    binaries.zipIdx.map fun e => (e.1, Scale.power 2 (10 * (e.2 + 1)))) := by
  decide +kernel

theorem mem_scales_iff : (suffix, scale) ∈ scales ↔
    (∃ i : Nat, thousands[i]? = some suffix ∧ scale = .thousand i) ∨
      ∃ i : Nat, binaries[i]? = some suffix ∧ scale = .power 2 (10 * (i + 1)) := by
  simp [scales_perm.mem_iff, List.mem_zipIdx_iff_getElem?, eq_comm]

theorem lookup_eq_some_iff : scales.lookup suffix = some scale ↔ (suffix, scale) ∈ scales := by
  refine ⟨fun h => ?_, fun h => ?_⟩
  · obtain ⟨before, after, heq, -⟩ := List.lookup_eq_some_iff.1 h
    simp [heq]
  · have hall : ∀ e ∈ scales, scales.lookup e.1 = some e.2 := by decide +kernel
    exact hall _ h

/-- The factor of a suffix is the value of the scale found for it. -/
theorem factor_iff :
    Factor suffix factor ↔ ∃ scale, scales.lookup suffix = some scale ∧ factor = scale.value := by
  have hbinary (i : Nat) : (1024 : Rat) ^ (i + 1) = (Scale.power 2 (10 * (i + 1))).value := by
    rw [Scale.value_power, pow_mul]
    norm_num
  simp only [lookup_eq_some_iff, mem_scales_iff]
  constructor
  · rintro (@⟨i, h⟩ | @⟨i, h⟩)
    · exact ⟨_, .inl ⟨i, h, rfl⟩, (Scale.value_thousand i).symm⟩
    · exact ⟨_, .inr ⟨i, h, rfl⟩, hbinary i⟩
  · rintro ⟨_, ⟨i, h, rfl⟩ | ⟨i, h, rfl⟩, rfl⟩
    · exact Scale.value_thousand i ▸ .thousand h
    · exact hbinary i ▸ .binary h

theorem scale_pos (h : scales.lookup suffix = some scale) : 0 < scale.num ∧ 0 < scale.den := by
  have hall : ∀ e ∈ scales, 0 < e.2.num ∧ 0 < e.2.den := by decide +kernel
  exact hall _ (lookup_eq_some_iff.1 h)

/-- A scale has its factor in lowest terms. -/
theorem num_den_value (h : scales.lookup suffix = some scale) :
    scale.value.num = scale.num ∧ scale.value.den = scale.den := by
  have hall : ∀ e ∈ scales, e.2.num.Coprime e.2.den := by decide +kernel
  have hcoprime := hall _ (lookup_eq_some_iff.1 h)
  have hden : (0 : Int) < scale.den := by exact_mod_cast (scale_pos h).2
  have hn := Rat.num_div_eq_of_coprime (a := scale.num) hden hcoprime
  have hd := Rat.den_div_eq_of_coprime (a := scale.num) hden hcoprime
  simp only [Int.cast_natCast] at hn hd
  exact ⟨hn, by exact_mod_cast hd⟩

/-! ## The number that digits write -/

theorem number_cons (d : Nat) (ds : List Nat) :
    number (d :: ds) = d * 10 ^ ds.length + number ds := by
  rw [number, Nat.ofDigits_reverse_cons, number]
  ring

theorem valueFrom_eq (acc : Nat) (ds : List Nat) :
    Text.valueFrom acc ds = acc * 10 ^ ds.length + number ds := by
  induction ds generalizing acc with
  | nil => simp [Text.valueFrom, number]
  | cons d ds ih =>
    change Text.valueFrom (acc * 10 + d) ds = _
    rw [ih, number_cons, List.length_cons]
    ring

theorem valueFrom_zero (ds : List Nat) : Text.valueFrom 0 ds = number ds := by
  rw [valueFrom_eq, zero_mul, zero_add]

/-- Digits behind a point are those digits as a number, shifted behind the point. -/
theorem ofDigits_behind (behind : List Nat) :
    Nat.ofDigits (10⁻¹ : Rat) (0 :: behind) * 10 ^ behind.length = number behind := by
  have hshift (ds : List Nat) :
      Nat.ofDigits (10⁻¹ : Rat) (0 :: ds) = 10⁻¹ * Nat.ofDigits (10⁻¹ : Rat) ds := by
    simp [Nat.ofDigits]
  induction behind with
  | nil => simp [number, Nat.ofDigits]
  | cons d ds ih =>
    have hd : Nat.ofDigits (10⁻¹ : Rat) (d :: ds) = d + 10⁻¹ * Nat.ofDigits (10⁻¹ : Rat) ds := rfl
    rw [hshift] at ih ⊢
    rw [number_cons, Nat.cast_add, ← ih, hd, List.length_cons]
    push_cast
    ring

/-- All digits as one number are the number that they write around the point, without its places. -/
theorem cast_number_append (before behind : List Nat) :
    (number (before ++ behind) : Rat) = decimal before behind * 10 ^ behind.length := by
  have hjoin : number (before ++ behind) = number before * 10 ^ behind.length + number behind := by
    rw [← valueFrom_zero, Text.valueFrom, List.foldl_append]
    exact (valueFrom_eq _ behind).trans (by rw [← valueFrom_zero before]; rfl)
  have hbefore : (number before : Rat) = Nat.ofDigits (10 : Rat) before.reverse :=
    by exact_mod_cast Nat.coe_ofDigits Rat 10 before.reverse
  rw [hjoin, decimal, add_mul, ofDigits_behind, ← hbefore]
  push_cast
  ring

/-! ## The text of a quantity -/

/-- The point divides the text of a number into the digits before and behind it. -/
theorem around_iff {text : List Char} : Around text before behind ↔
    Text.digits? (parts text).1 = some before ∧ Text.digits? (parts text).2 = some behind := by
  have hpoint {cs : List Char} {ds : List Nat} (h : Text.digits? cs = some ds) : '.' ∉ cs :=
    fun hm => absurd (Text.isSome_of_digits? h _ hm) (by decide)
  unfold parts
  constructor
  · rintro (h | ⟨rfl, hfront, hback⟩)
    · rw [Text.cut?_eq_none_iff.2 (hpoint h)]
      exact ⟨h, rfl⟩
    · rw [Text.cut?_eq_some_iff.2 ⟨rfl, hpoint hfront⟩]
      exact ⟨hfront, hback⟩
  · cases hcut : Text.cut? '.' text with
    | none =>
      rintro ⟨h, hnil⟩
      obtain rfl := Option.some.inj hnil
      exact .plain h
    | some r =>
      rintro ⟨hfront, hback⟩
      exact .pointed (Text.cut?_eq_some_iff.1 hcut).1 hfront hback

theorem inNumber_of_around {text : List Char} (h : Around text before behind) :
    ∀ c ∈ text, inNumber c = true := by
  have hdigits {cs : List Char} {ds : List Nat} (h : Text.digits? cs = some ds) :
      ∀ c ∈ cs, inNumber c = true := fun c hc => by
    simp [inNumber, Text.isSome_of_digits? h c hc]
  cases h with
  | plain h => exact hdigits h
  | pointed h hfront hback =>
    subst h
    rw [List.forall_mem_append, List.forall_mem_cons]
    exact ⟨hdigits hfront, by decide, hdigits hback⟩

/-- The number ends where the suffix begins. -/
theorem span_of_lookup {text : List Char} (ht : ∀ c ∈ text, inNumber c = true)
    (hs : scales.lookup suffix = some scale) :
    (text ++ suffix.toList).takeWhile inNumber = text ∧
      (text ++ suffix.toList).dropWhile inNumber = suffix.toList := by
  have hall : ∀ e ∈ scales, e.1.toList.takeWhile inNumber = [] := by decide +kernel
  have hnone := hall _ (lookup_eq_some_iff.1 hs)
  have hrest : suffix.toList.dropWhile inNumber = suffix.toList := by
    simpa [hnone] using List.takeWhile_append_dropWhile (p := inNumber) (l := suffix.toList)
  rw [List.takeWhile_append_of_pos ht, List.dropWhile_append_of_pos ht, hnone, hrest,
    List.append_nil]
  exact ⟨rfl, rfl⟩

/-! ## What the quotient is taken of -/

theorem checked_eq_some_iff {m : Nat} : checked n = some m ↔ n = m ∧ m < limit := by
  unfold checked
  split
  · simp only [Option.some.injEq]
    omega
  · simp only [reduceCtorEq, false_iff]
    omega

theorem mem_of_mem_parts {text : List Char} (h : c ∈ (parts text).1 ++ (parts text).2) :
    c ∈ text := by
  unfold parts at h
  cases hcut : Text.cut? '.' text with
  | none => simpa [hcut] using h
  | some r =>
    obtain ⟨rfl, -⟩ := Text.cut?_eq_some_iff.1 hcut
    rw [hcut, Option.getD_some, List.mem_append] at h
    simp only [List.mem_append, List.mem_cons]
    exact h.imp_right .inr

/-- The digits around the point are read as one number, if it stays below the limit. -/
theorem readBelow_parts_iff {text : List Char} (ht : ∀ c ∈ text, inNumber c = true) :
    (Text.readBelow limit ((parts text).1 ++ (parts text).2)).toOption = some n ↔
      ∃ before behind, Around text before behind ∧ before ++ behind ≠ [] ∧
        n = number (before ++ behind) ∧ n < limit := by
  have hsign : '+' ∉ (parts text).1 ++ (parts text).2 := fun h =>
    absurd (ht _ (mem_of_mem_parts h)) (by decide)
  have hok {e : Except Text.NumeralError Nat} : e.toOption = some n ↔ e = .ok n := by
    cases e <;> simp [Except.toOption]
  rw [hok, Text.readBelow_ok_iff (by decide)]
  constructor
  · rintro ⟨⟨body, ds, hbody | hbody, hne, hds, rfl⟩, hl⟩
    · rw [← hbody] at hds hne
      obtain ⟨before, behind, hfront, hback, rfl⟩ := Text.digits?_append_iff.1 hds
      exact ⟨before, behind, around_iff.2 ⟨hfront, hback⟩,
        mt (Text.eq_nil_iff_of_digits? hds).2 hne, valueFrom_zero _, hl⟩
    · exact absurd (hbody ▸ List.mem_cons_self) hsign
  · rintro ⟨before, behind, ha, hne, rfl, hl⟩
    obtain ⟨hfront, hback⟩ := around_iff.1 ha
    have hds := Text.digits?_append_iff.2 ⟨before, behind, hfront, hback, rfl⟩
    exact ⟨⟨_, _, .inl rfl, mt (Text.eq_nil_iff_of_digits? hds).1 hne, hds, valueFrom_zero _⟩, hl⟩

/-- The text of a quantity with this suffix. -/
theorem written_iff (hs : scales.lookup suffix = some scale) :
    Written cs before behind suffix ↔ String.ofList (cs.dropWhile inNumber) = suffix ∧
      Around (cs.takeWhile inNumber) before behind ∧ before ++ behind ≠ [] := by
  constructor
  · rintro ⟨text, rfl, ha, hne⟩
    obtain ⟨htake, hdrop⟩ := span_of_lookup (inNumber_of_around ha) hs
    rw [htake, hdrop]
    exact ⟨String.ofList_toList, ha, hne⟩
  · rintro ⟨rfl, ha, hne⟩
    refine ⟨_, ?_, ha, hne⟩
    rw [String.toList_ofList, List.takeWhile_append_dropWhile]

/-- The quotient is taken of all digits as one number and of the places behind the point as a power
of ten, each times what the suffix says, if all of these stay below the limit. -/
theorem ratio?_eq_some_iff : ratio? quantity = some (num, den) ↔
    ∃ before behind suffix scale, Written (Text.trim quantity.toList) before behind suffix ∧
      scales.lookup suffix = some scale ∧ num = number (before ++ behind) * scale.num ∧
      den = 10 ^ behind.length * scale.den ∧ num < limit ∧ den < limit := by
  have hin : ∀ c ∈ (Text.trim quantity.toList).takeWhile inNumber, inNumber c = true :=
    fun c hc => List.mem_takeWhile_imp hc
  simp only [ratio?, Option.bind_eq_bind, Option.bind_eq_some_iff, checked_eq_some_iff,
    readBelow_parts_iff hin, Option.pure_def, Option.some.injEq, Prod.mk.injEq]
  constructor
  · rintro ⟨scale, hs, _, ⟨before, behind, ha, hne, rfl, -⟩, _, ⟨rfl, -⟩, _, ⟨rfl, hnum⟩, _,
      ⟨rfl, hden⟩, rfl, rfl⟩
    refine ⟨before, behind, _, scale, (written_iff hs).2 ⟨rfl, ha, hne⟩, hs, rfl, ?_, hnum, hden⟩
    rw [Text.length_of_digits? (around_iff.1 ha).2]
    rfl
  · rintro ⟨before, behind, suffix, scale, hw, hs, rfl, rfl, hnum, hden⟩
    obtain ⟨rfl, ha, hne⟩ := (written_iff hs).1 hw
    obtain ⟨hnpos, hdpos⟩ := scale_pos hs
    rw [Text.length_of_digits? (around_iff.1 ha).2] at hden ⊢
    exact ⟨scale, hs, _, ⟨before, behind, ha, hne, rfl,
      (Nat.le_mul_of_pos_right _ hnpos).trans_lt hnum⟩, _,
      ⟨rfl, (Nat.le_mul_of_pos_right _ hdpos).trans_lt hden⟩, _, ⟨rfl, hnum⟩, _, ⟨rfl, hden⟩,
      rfl, rfl⟩

/-- The quotient is the number that the digits write, times the factor. -/
theorem cast_ratio (hd : 0 < scale.den) :
    ((number (before ++ behind) * scale.num : Nat) : Rat) / (10 ^ behind.length * scale.den : Nat) =
      decimal before behind * scale.value := by
  have hden : (scale.den : Rat) ≠ 0 := by exact_mod_cast hd.ne'
  push_cast
  rw [cast_number_append, Scale.value]
  field_simp

/-- What is divided makes the number that the quantity denotes. -/
theorem denotes_iff : Denotes quantity x ↔
    ∃ num den, ratio? quantity = some (num, den) ∧ x = (num : Rat) / den := by
  have hlimit : limit = 2 ^ 128 := rfl
  constructor
  · rintro ⟨hw, hf, rfl, hnum, hden⟩
    obtain ⟨scale, hs, rfl⟩ := factor_iff.1 hf
    obtain ⟨hn, hd⟩ := num_den_value hs
    rw [hn] at hnum
    rw [hd] at hden
    exact ⟨_, _, ratio?_eq_some_iff.2 ⟨_, _, _, scale, hw, hs, rfl, rfl,
      by rw [hlimit]; exact_mod_cast hnum, by rw [hlimit]; exact_mod_cast hden⟩,
      (cast_ratio (scale_pos hs).2).symm⟩
  · rintro ⟨num, den, hr, rfl⟩
    obtain ⟨before, behind, suffix, scale, hw, hs, rfl, rfl, hnum, hden⟩ := ratio?_eq_some_iff.1 hr
    obtain ⟨hn, hd⟩ := num_den_value hs
    refine ⟨hw, factor_iff.2 ⟨scale, hs, rfl⟩, cast_ratio (scale_pos hs).2, ?_, ?_⟩
    · rw [hn]
      exact_mod_cast hlimit ▸ hnum
    · rw [hd]
      exact_mod_cast hlimit ▸ hden

theorem den_pos (h : ratio? quantity = some (num, den)) : 0 < den := by
  obtain ⟨_, behind, _, scale, -, hs, -, rfl, -⟩ := ratio?_eq_some_iff.1 h
  exact Nat.mul_pos (Nat.pow_pos (by decide)) (scale_pos hs).2

/-- A quotient without remainder is a whole number, and it is that number. -/
theorem quotient_iff (hd : 0 < den) : num % den = 0 ∧ num / den = n ↔ (num : Rat) / den = n := by
  have hden : (den : Rat) ≠ 0 := by exact_mod_cast hd.ne'
  rw [div_eq_iff hden, ← Nat.cast_mul, Nat.cast_inj]
  constructor
  · rintro ⟨hm, rfl⟩
    exact (Nat.div_mul_cancel (Nat.dvd_of_mod_eq_zero hm)).symm
  · rintro rfl
    exact ⟨Nat.mul_mod_left n den, Nat.mul_div_cancel n hd⟩

/-- A quantity denotes one number at most. -/
theorem Denotes.unique {y : Rat} (hx : Denotes quantity x) (hy : Denotes quantity y) : x = y := by
  obtain ⟨_, _, hr, rfl⟩ := denotes_iff.1 hx
  obtain ⟨_, _, hr', rfl⟩ := denotes_iff.1 hy
  obtain ⟨rfl, rfl⟩ := Prod.mk.inj (Option.some.inj (hr.symm.trans hr'))
  rfl

/-- What is read is the number denoted, if that is a whole one of 64 bits. -/
theorem wholeCpus_eq_some_iff : wholeCpus quantity = some n ↔ Denotes quantity n ∧ n < 2 ^ 64 := by
  have hsize : UInt64.size = 2 ^ 64 := rfl
  rw [wholeCpus_eq, Option.bind_eq_some_iff, denotes_iff]
  constructor
  · rintro ⟨⟨num, den⟩, hr, h⟩
    obtain ⟨⟨hm, hl⟩, hn⟩ := Option.ite_none_right_eq_some.1 h
    obtain rfl := Option.some.inj hn
    exact ⟨⟨num, den, hr, ((quotient_iff (den_pos hr)).1 ⟨hm, rfl⟩).symm⟩, hsize ▸ hl⟩
  · rintro ⟨⟨num, den, hr, hx⟩, hl⟩
    obtain ⟨hm, hn⟩ := (quotient_iff (den_pos hr)).2 hx.symm
    refine ⟨(num, den), hr, Option.ite_none_right_eq_some.2 ⟨⟨hm, ?_⟩, congrArg some hn⟩⟩
    rwa [hn, hsize]

end Quantity

open Quantity in
/-- A quantity is read as a number of CPUs exactly if it denotes that number, which is whole and
fits in 64 bits. Quantities that denote the same number are read the same. Nothing is divided by
zero, and what is divided has not left 128 bits. -/
theorem wholeCpus_exact (quantity : String) :
    (∀ n : Nat, wholeCpus quantity = some n ↔ Denotes quantity n ∧ n < 2 ^ 64) ∧
    (∀ (other : String) (x : Rat), Denotes quantity x → Denotes other x →
      wholeCpus quantity = wholeCpus other) ∧
    (wholeCpus quantity = (ratio? quantity).bind fun r =>
      if r.1 % r.2 = 0 ∧ r.1 / r.2 < 2 ^ 64 then some (r.1 / r.2) else none) ∧
    ∀ num den, ratio? quantity = some (num, den) → num < 2 ^ 128 ∧ den < 2 ^ 128 ∧ 0 < den := by
  refine ⟨fun n => wholeCpus_eq_some_iff, fun other x hx hx' => ?_, wholeCpus_eq quantity,
    fun num den hr => ?_⟩
  · have hsame (n : Nat) : Denotes quantity n ↔ Denotes other n :=
      ⟨fun h => hx.unique h ▸ hx', fun h => hx'.unique h ▸ hx⟩
    ext n
    rw [wholeCpus_eq_some_iff, wholeCpus_eq_some_iff, hsame]
  · obtain ⟨_, _, _, _, -, -, -, -, hnum, hden⟩ := ratio?_eq_some_iff.1 hr
    exact ⟨hnum, hden, den_pos hr⟩

open Quantity in
/-- Two thousand thousandths between blanks are two, as are two with a place behind the point. -/
theorem wholeCpus_exact_thousandths :
    wholeCpus " 2000m\n" = some 2 ∧ wholeCpus " 2000m\n" = wholeCpus "2.0" := by
  have hmilli : Denotes " 2000m\n" (2 : Nat) := by
    have hw : Written (Text.trim " 2000m\n".toList) [2, 0, 0, 0] [] "m" :=
      ⟨['2', '0', '0', '0'], by decide, .plain rfl, by decide⟩
    have hf : Factor "m" (1000 ^ (((2 : Nat) : Int) - 3)) := .thousand rfl
    exact .intro hw hf (by norm_num [decimal, Nat.ofDigits]) (by decide +kernel) (by decide +kernel)
  have hplain : Denotes "2.0" (2 : Nat) := by
    have hw : Written (Text.trim "2.0".toList) [2] [0] "" :=
      ⟨['2'] ++ '.' :: ['0'], by decide, .pointed rfl rfl rfl, by decide⟩
    have hf : Factor "" (1000 ^ (((3 : Nat) : Int) - 3)) := .thousand rfl
    exact .intro hw hf (by norm_num [decimal, Nat.ofDigits]) (by decide +kernel) (by decide +kernel)
  obtain ⟨hread, hsame, -⟩ := wholeCpus_exact " 2000m\n"
  exact ⟨(hread 2).2 ⟨hmilli, by decide⟩, hsame "2.0" 2 hmilli hplain⟩

end PowerGrant
