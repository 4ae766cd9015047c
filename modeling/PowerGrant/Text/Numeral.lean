/-!
# Decimal numerals

A numeral is an optional `+` and one or more ASCII digits. `readBelow` reads one whose value has to
stay below a limit and says what is wrong with a text that is none: the leftmost fault decides.

* `readDigits_ok_iff`: exactly the digits whose value stays below the limit are read.
-/

namespace PowerGrant.Text

/-- What keeps a text from being a numeral in range. -/
inductive NumeralError where
  /-- There is nothing to read. -/
  | empty
  /-- A character is no digit. -/
  | invalidDigit
  /-- The value reaches the limit. -/
  | tooLarge
  /-- The value lies below the range of a signed number. -/
  | tooSmall
  deriving DecidableEq, Repr, Inhabited

/-- The wording of a numeral's fault. -/
def NumeralError.message : NumeralError → String
  | .empty => "cannot parse integer from empty string"
  | .invalidDigit => "invalid digit found in string"
  | .tooLarge => "number too large to fit in target type"
  | .tooSmall => "number too small to fit in target type"

/-- The value of an ASCII digit. -/
def digit? (c : Char) : Option Nat :=
  if '0' ≤ c ∧ c ≤ '9' then some (c.toNat - '0'.toNat) else none

/-- The value of digits that follow a number `acc`; each is read before the range is checked. -/
def readDigits (limit : Nat) (acc : Nat) : List Char → Except NumeralError Nat
  | [] => .ok acc
  | c :: cs =>
    match digit? c with
    | none => .error .invalidDigit
    | some d =>
      if acc * 10 + d < limit then readDigits limit (acc * 10 + d) cs else .error .tooLarge

/-- The value of a numeral below `limit`. -/
def readBelow (limit : Nat) : List Char → Except NumeralError Nat
  | [] => .error .empty
  | '+' :: c :: cs => readDigits limit 0 (c :: cs)
  | cs => readDigits limit 0 cs

/-- The value of a numeral that fits in 32 bits. -/
def readUInt32 (cs : List Char) : Except NumeralError UInt32 :=
  (readBelow UInt32.size cs).map UInt32.ofNat

/-- The least number too large for 64 bits with a sign. -/
def int64Limit : Nat := Nat.pow 2 63

/-- The value of a numeral, which a `-` may precede, that fits in 64 bits with its sign. -/
def readInt64 : List Char → Except NumeralError Int
  | '-' :: c :: cs =>
    match readBelow (int64Limit + 1) ('+' :: c :: cs) with
    | .ok n => .ok (-n)
    | .error .tooLarge => .error .tooSmall
    | .error e => .error e
  | cs => (readBelow int64Limit cs).map Int.ofNat

/-- Digits in front of which `acc` was read, as one number. -/
def valueFrom (acc : Nat) (ds : List Nat) : Nat :=
  ds.foldl (fun n d => n * 10 + d) acc

/-- The digits of a text, if it has nothing else. -/
def digits? (cs : List Char) : Option (List Nat) :=
  cs.mapM digit?

theorem le_valueFrom (acc : Nat) (ds : List Nat) : acc ≤ valueFrom acc ds := by
  induction ds generalizing acc with
  | nil => exact Nat.le_refl _
  | cons d ds ih => exact Nat.le_trans (by omega) (ih (acc * 10 + d))

/-- Reading succeeds exactly on digits whose value stays below the limit. -/
theorem readDigits_ok_iff {limit acc n : Nat} {cs : List Char} (h : acc < limit) :
    readDigits limit acc cs = .ok n ↔
      ∃ ds, digits? cs = some ds ∧ valueFrom acc ds = n ∧ n < limit := by
  induction cs generalizing acc with
  | nil =>
    simp only [readDigits, digits?, List.mapM_nil, valueFrom]
    constructor
    · rintro ⟨rfl⟩; exact ⟨[], rfl, rfl, h⟩
    · rintro ⟨ds, hd, hv, -⟩
      cases hd
      simp only [List.foldl_nil] at hv
      rw [hv]
  | cons c cs ih =>
    simp only [readDigits, digits?, List.mapM_cons]
    cases hc : digit? c with
    | none => simp
    | some d =>
      by_cases hl : acc * 10 + d < limit
      · simp only [hl, ↓reduceIte, ih hl, digits?]
        constructor
        · rintro ⟨ds, hd, hv, hn⟩
          exact ⟨d :: ds, by simp [hd], by simpa [valueFrom] using hv, hn⟩
        · rintro ⟨ds, hd, hv, hn⟩
          cases hm : cs.mapM digit? with
          | none => simp [hm] at hd
          | some es =>
            simp [hm] at hd
            subst hd
            exact ⟨es, rfl, by simpa [valueFrom] using hv, hn⟩
      · simp only [hl, ↓reduceIte, reduceCtorEq, false_iff]
        rintro ⟨ds, hd, hv, hn⟩
        cases hm : cs.mapM digit? with
        | none => simp [hm] at hd
        | some es =>
          simp [hm] at hd
          subst hd
          have := le_valueFrom (acc * 10 + d) es
          simp only [valueFrom, List.foldl_cons] at hv this
          omega

end PowerGrant.Text
