import PowerGrant.Proofs.Text.Numeral

/-!
# What numerals are

A number is written by decimal digits, in front of which a `+` may stand. A text that is read as a
number is one that writes it, and any other text is refused for the first character with which it
stops being the beginning of a number in range.

* `Writes`: the text writes a number. `Spoils`: what keeps it from writing one.
* `readBelow_ok_iff`, `readBelow_error_iff`: numbers below a limit. `readUInt32_ok_iff`,
  `readUInt32_error_iff`: numbers of 32 bits.
-/

namespace PowerGrant.Text

variable {limit acc n : Nat} {c : Char} {ds : List Nat} {cs : List Char} {fault : NumeralError}

/-- The text behind a `+`, which is a sign only in front of something. -/
def unsigned : List Char → List Char
  | '+' :: c :: cs => c :: cs
  | cs => cs

/-- A number is written by digits, one at least, and a `+` may stand in front. -/
def Writes (cs : List Char) (n : Nat) : Prop :=
  ∃ body ds, (cs = body ∨ cs = '+' :: body) ∧ body ≠ [] ∧ digits? body = some ds ∧
    valueFrom 0 ds = n

/-- Why digits of the value `acc` do not go on with a character: it is no digit, or it takes the
value to the limit. -/
inductive Stops (limit acc : Nat) (c : Char) : NumeralError → Prop
  | invalidDigit (h : digit? c = none) : Stops limit acc c .invalidDigit
  | tooLarge {d : Nat} (h : digit? c = some d) (hl : limit ≤ acc * 10 + d) :
    Stops limit acc c .tooLarge

/-- What keeps a text from writing a number below `limit`: there is nothing, or it stops being the
beginning of such a number at one of its characters. -/
inductive Spoils (limit : Nat) (cs : List Char) : NumeralError → Prop
  | empty (h : cs = []) : Spoils limit cs .empty
  | stops {body rest : List Char} {c : Char} {ds : List Nat} {fault : NumeralError}
    (h : unsigned cs = body ++ c :: rest) (hd : digits? body = some ds)
    (hv : valueFrom 0 ds < limit) (hs : Stops limit (valueFrom 0 ds) c fault) :
    Spoils limit cs fault

theorem digits?_cons_iff :
    digits? (c :: cs) = some ds ↔
      ∃ d es, digit? c = some d ∧ digits? cs = some es ∧ ds = d :: es := by
  unfold digits?
  rw [List.mapM_cons]
  cases digit? c <;> cases cs.mapM digit? <;> simp [eq_comm]

theorem isSome_of_digits? (h : digits? cs = some ds) : ∀ c ∈ cs, (digit? c).isSome = true := by
  induction cs generalizing ds with
  | nil => simp
  | cons c cs ih =>
    obtain ⟨d, es, hd, hes, -⟩ := digits?_cons_iff.1 h
    exact List.forall_mem_cons.2 ⟨by rw [hd]; rfl, ih hes⟩

theorem length_of_digits? (h : digits? cs = some ds) : ds.length = cs.length := by
  induction cs generalizing ds with
  | nil =>
    obtain rfl := Option.some.inj h
    rfl
  | cons c cs ih =>
    obtain ⟨d, es, -, hes, rfl⟩ := digits?_cons_iff.1 h
    rw [List.length_cons, List.length_cons, ih hes]

theorem eq_nil_iff_of_digits? (h : digits? cs = some ds) : cs = [] ↔ ds = [] := by
  rw [← List.length_eq_zero_iff, ← List.length_eq_zero_iff, length_of_digits? h]

/-- The digits of two texts one after the other. -/
theorem digits?_append_iff {front back : List Char} :
    digits? (front ++ back) = some ds ↔
      ∃ before behind, digits? front = some before ∧ digits? back = some behind ∧
        ds = before ++ behind := by
  simp only [digits?, List.mapM_append, Option.bind_eq_bind, Option.bind_eq_some_iff,
    Option.pure_def, Option.some.injEq]
  grind

/-- A digit after which the value stays below the limit is read, and the others after it. -/
theorem readDigits_cons_error_iff :
    readDigits limit acc (c :: cs) = .error fault ↔
      Stops limit acc c fault ∨
        ∃ d, digit? c = some d ∧ acc * 10 + d < limit ∧
          readDigits limit (acc * 10 + d) cs = .error fault := by
  rw [readDigits]
  cases hd : digit? c with
  | none =>
    constructor
    · rintro ⟨⟩
      exact .inl (.invalidDigit hd)
    · rintro (hs | ⟨d, hd', -⟩)
      · cases hs with
        | invalidDigit => rfl
        | tooLarge hd' => cases hd.symm.trans hd'
      · cases hd'
  | some d =>
    by_cases hl : acc * 10 + d < limit
    · simp only [Option.some.injEq, exists_eq_left', hl, true_and]
      refine ⟨.inr, fun h => h.resolve_left fun hs => ?_⟩
      cases hs with
      | invalidDigit hd' => cases hd.symm.trans hd'
      | tooLarge hd' hl' =>
        obtain rfl := Option.some.inj (hd.symm.trans hd')
        omega
    · simp only [Option.some.injEq, exists_eq_left', hl, false_and, or_false]
      constructor
      · rintro ⟨⟩
        exact .tooLarge hd (Nat.not_lt.1 hl)
      · rintro (hd' | _)
        · cases hd.symm.trans hd'
        · rfl

/-- Reading stops at the first character that does not go on with the digits before it. -/
theorem readDigits_error_iff (h : acc < limit) :
    readDigits limit acc cs = .error fault ↔
      ∃ body c rest ds, cs = body ++ c :: rest ∧ digits? body = some ds ∧
        valueFrom acc ds < limit ∧ Stops limit (valueFrom acc ds) c fault := by
  induction cs generalizing acc with
  | nil => simp [readDigits]
  | cons c cs ih =>
    rw [readDigits_cons_error_iff]
    constructor
    · rintro (hs | ⟨d, hd, hl, hr⟩)
      · exact ⟨[], c, cs, [], rfl, rfl, h, hs⟩
      · obtain ⟨body, x, rest, ds, rfl, hds, hv, hs⟩ := (ih hl).1 hr
        exact ⟨c :: body, x, rest, d :: ds, rfl, digits?_cons_iff.2 ⟨d, ds, hd, hds, rfl⟩, hv, hs⟩
    · rintro ⟨body, x, rest, ds, heq, hds, hv, hs⟩
      cases body with
      | nil =>
        obtain ⟨rfl, rfl⟩ := List.cons.inj heq
        obtain rfl := Option.some.inj hds
        exact .inl hs
      | cons b body =>
        obtain ⟨rfl, rfl⟩ := List.cons.inj heq
        obtain ⟨d, es, hd, hes, rfl⟩ := digits?_cons_iff.1 hds
        have hl : acc * 10 + d < limit := Nat.lt_of_le_of_lt (le_valueFrom _ es) hv
        exact .inr ⟨d, hd, hl, (ih hl).2 ⟨body, x, rest, es, rfl, hes, hv, hs⟩⟩

/-- Digits have no sign in front. -/
theorem unsigned_of_digits (h : digits? cs = some ds) : unsigned cs = cs := by
  unfold unsigned
  split
  · obtain ⟨d, es, hd, -⟩ := digits?_cons_iff.1 h
    cases (show digit? '+' = none by decide).symm.trans hd
  · rfl

theorem readBelow_eq (hne : cs ≠ []) : readBelow limit cs = readDigits limit 0 (unsigned cs) := by
  unfold readBelow unsigned
  split
  · exact absurd rfl hne
  · rfl
  · rename_i h
    split
    · exact absurd rfl (h _ _)
    · rfl

/-- Exactly the numbers below the limit are read that the text writes. -/
theorem readBelow_ok_iff (hpos : 0 < limit) : readBelow limit cs = .ok n ↔ Writes cs n ∧ n < limit := by
  constructor
  · intro h
    have hne : cs ≠ [] := by
      rintro rfl
      cases h
    rw [readBelow_eq hne, readDigits_ok_iff hpos] at h
    obtain ⟨ds, hds, hv, hl⟩ := h
    refine ⟨⟨unsigned cs, ds, ?_, ?_, hds, hv⟩, hl⟩
    · unfold unsigned
      split
      · exact .inr rfl
      · exact .inl rfl
    · unfold unsigned
      split
      · exact List.cons_ne_nil _ _
      · exact hne
  · rintro ⟨⟨body, ds, hcs, hne, hds, hv⟩, hl⟩
    have hbody : unsigned cs = body := by
      rcases hcs with rfl | rfl
      · exact unsigned_of_digits hds
      · cases body with
        | nil => exact absurd rfl hne
        | cons b body => rfl
    have hne' : cs ≠ [] := by
      rintro rfl
      exact hne hbody.symm
    rw [readBelow_eq hne', hbody, readDigits_ok_iff hpos]
    exact ⟨ds, hds, hv, hl⟩

theorem readBelow_error_iff (hpos : 0 < limit) :
    readBelow limit cs = .error fault ↔ Spoils limit cs fault := by
  cases cs with
  | nil =>
    constructor
    · rintro ⟨⟩
      exact .empty rfl
    · intro h
      cases h with
      | empty => rfl
      | stops h => simp [unsigned] at h
  | cons c cs =>
    rw [readBelow_eq (List.cons_ne_nil c cs), readDigits_error_iff hpos]
    constructor
    · rintro ⟨body, x, rest, ds, h, hds, hv, hs⟩
      exact .stops h hds hv hs
    · intro h
      cases h with
      | empty h => cases h
      | stops h hds hv hs => exact ⟨_, _, _, _, h, hds, hv, hs⟩

theorem readUInt32_ok_iff {x : UInt32} : readUInt32 cs = .ok x ↔ Writes cs x.toNat := by
  have hbelow (n : Nat) : readBelow UInt32.size cs = .ok n ↔ Writes cs n ∧ n < UInt32.size :=
    readBelow_ok_iff (by decide)
  unfold readUInt32
  cases hr : readBelow UInt32.size cs with
  | error e =>
    simp only [Except.map, reduceCtorEq, false_iff]
    intro h
    cases hr.symm.trans ((hbelow _).2 ⟨h, x.toNat_lt⟩)
  | ok n =>
    obtain ⟨hn, hl⟩ := (hbelow n).1 hr
    simp only [Except.map, Except.ok.injEq]
    constructor
    · rintro rfl
      rwa [UInt32.toNat_ofNat_of_lt' hl]
    · intro h
      rw [(hbelow _).2 ⟨h, x.toNat_lt⟩] at hr
      rw [← Except.ok.inj hr, UInt32.ofNat_toNat]

theorem readUInt32_error_iff : readUInt32 cs = .error fault ↔ Spoils UInt32.size cs fault := by
  rw [← readBelow_error_iff (by decide), readUInt32]
  cases readBelow UInt32.size cs <;> simp [Except.map]

end PowerGrant.Text
