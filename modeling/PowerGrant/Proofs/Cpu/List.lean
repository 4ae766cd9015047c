import Mathlib.Data.List.Forall2
import PowerGrant.Cpu.List

/-!
# What CPU lists cover

* `CpuList.Stands`: the CPUs that one token stands for.
* `parseCpuList_ok_iff`: a list is read as what its tokens stand for, one after the other.
* `parseCpuList_ne_nil`: a list that is read covers some CPU.
-/

namespace PowerGrant

/-- Steps that succeed one after the other succeed each. -/
theorem ok_of_bind_ok {ε α β : Type} {x : Except ε α} {f : α → Except ε β} {b : β}
    (h : x >>= f = .ok b) : ∃ a, x = .ok a ∧ f a = .ok b := by
  cases x with
  | error e => cases h
  | ok a => exact ⟨a, rfl, h⟩

namespace CpuList

/-- The CPUs that a token stands for: the one that it writes, or those from the first to the last of
the two that stand around its first dash. -/
inductive Stands (token : List Char) : List CpuId → Prop
  | single {cpu : CpuId} (hd : '-' ∉ Text.trim token)
    (hr : readCpu (Text.trim token) = .ok cpu) : Stands token [cpu]
  | range {a b : List Char} {first last : CpuId} (ht : Text.trim token = a ++ '-' :: b)
    (hd : '-' ∉ a) (ha : readCpu a = .ok first) (hb : readCpu b = .ok last) (hle : first ≤ last)
    (hw : last.toNat - first.toNat < maxRangeWidth) :
    Stands token (idsFrom first (last.toNat - first.toNat + 1))

variable {list : String} {cs : List Char} {cpus : List CpuId}

theorem expand_ok_iff {first last : CpuId} :
    expand first last = .ok cpus ↔
      first ≤ last ∧ last.toNat - first.toNat < maxRangeWidth ∧
        cpus = idsFrom first (last.toNat - first.toNat + 1) := by
  unfold expand
  split
  case isTrue h => simp [UInt32.not_le.2 h]
  case isFalse h =>
    have h := UInt32.not_lt.1 h
    split
    case isTrue hw => simp [Nat.not_lt.2 hw]
    case isFalse hw => simp [h, Nat.not_le.1 hw, eq_comm]

/-- A token stands for some CPU. -/
theorem Stands.ne_nil (h : Stands cs cpus) : cpus ≠ [] := by
  cases h <;> simp [idsFrom]

theorem stands_of_readToken (h : readToken list cs = .ok cpus) : Stands cs cpus := by
  unfold readToken at h
  split at h
  · cases h
  · split at h
    case h_1 hcut =>
      cases hr : readCpu (Text.trim cs) with
      | error e => rw [hr] at h; cases h
      | ok cpu =>
        rw [hr] at h
        obtain rfl := Except.ok.inj h
        exact .single (Text.cut?_eq_none_iff.1 hcut) hr
    case h_2 a b hcut =>
      obtain ⟨first, ha, h⟩ := ok_of_bind_ok h
      obtain ⟨last, hb, h⟩ := ok_of_bind_ok h
      obtain ⟨ht, hd⟩ := Text.cut?_eq_some_iff.1 hcut
      obtain ⟨hle, hw, rfl⟩ := expand_ok_iff.1 h
      exact .range ht hd ha hb hle hw

theorem readToken_of_stands (h : Stands cs cpus) : readToken list cs = .ok cpus := by
  unfold readToken
  cases h with
  | single hd hr =>
    split
    case h_1 hnil => rw [hnil] at hr; cases hr
    case h_2 => rw [Text.cut?_eq_none_iff.2 hd, hr]; rfl
  | range ht hd ha hb hle hw =>
    split
    case h_1 hnil => rw [hnil] at ht; simp at ht
    case h_2 =>
      rw [Text.cut?_eq_some_iff.2 ⟨ht, hd⟩]
      simp only [ha, hb]
      exact expand_ok_iff.2 ⟨hle, hw, rfl⟩

theorem readToken_ok_iff : readToken list cs = .ok cpus ↔ Stands cs cpus :=
  ⟨stands_of_readToken, readToken_of_stands⟩

theorem readTokens_ok_iff {tokens : List (List Char)} :
    readTokens list tokens = .ok cpus ↔
      ∃ parts, List.Forall₂ Stands tokens parts ∧ cpus = parts.flatten := by
  induction tokens generalizing cpus with
  | nil =>
    constructor
    · intro h
      obtain rfl := Except.ok.inj h
      exact ⟨[], .nil, rfl⟩
    · rintro ⟨parts, hp, rfl⟩
      cases hp
      rfl
  | cons token tokens ih =>
    unfold readTokens
    constructor
    · intro h
      obtain ⟨first, ht, h⟩ := ok_of_bind_ok h
      obtain ⟨more, hm, h⟩ := ok_of_bind_ok h
      obtain rfl := Except.ok.inj h
      obtain ⟨parts, hp, rfl⟩ := ih.1 hm
      exact ⟨first :: parts, .cons (readToken_ok_iff.1 ht) hp, rfl⟩
    · rintro ⟨parts, hp, rfl⟩
      cases hp with
      | @cons _ first _ parts ht hp =>
        rw [readToken_ok_iff.2 ht, ih.2 ⟨parts, hp, rfl⟩]
        rfl

end CpuList

/-- A list is read as what its tokens stand for, in their order and as often as they name it. -/
theorem parseCpuList_ok_iff {list : String} {cpus : List CpuId} :
    parseCpuList list = .ok cpus ↔
      ∃ parts, List.Forall₂ CpuList.Stands (Text.pieces ',' list.toList) parts ∧
        cpus = parts.flatten :=
  CpuList.readTokens_ok_iff

/-- A list that is read covers some CPU. -/
theorem parseCpuList_ne_nil {list : String} {cpus : List CpuId} (h : parseCpuList list = .ok cpus) :
    cpus ≠ [] := by
  obtain ⟨parts, hparts, rfl⟩ := parseCpuList_ok_iff.1 h
  cases hp : Text.pieces ',' list.toList with
  | nil => exact absurd hp (Text.pieces_ne_nil _ _)
  | cons token tokens =>
    rw [hp] at hparts
    cases hparts with
    | cons hfirst => simp [hfirst.ne_nil]

end PowerGrant
