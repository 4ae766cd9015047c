import PowerGrant.Proofs.Cpu.List
import PowerGrant.Proofs.Cpu.Runs
import PowerGrant.Proofs.Text.Grammar

/-!
# The grammar of CPU lists

A list has a token between any two commas. Blanks at the ends of a token and around its first dash
do not count. A token names a range by its two ends, or by the number of a CPU alone; a list is read
if every token names a range that is not too wide, and otherwise the leftmost token that does not
decides how it is refused.

* `CpuList.Names`: the range that a token names. `CpuList.Denotes`: the CPUs that it stands for.
* `CpuList.Offends`: why a token is refused. Of several reasons the first one counts.
* `CpuList.expand?`: a range expanded step by step in 32 bits. No step ever leaves them
  (`expand?_eq`).
* `parseCpuList_grammar`: what is read of a list and why a list is refused.
-/

namespace PowerGrant

/-- Steps of which one fails: the first, or the second after the first has succeeded. -/
theorem bind_error_iff {ε α β : Type} {x : Except ε α} {f : α → Except ε β} {e : ε} :
    x >>= f = .error e ↔ x = .error e ∨ ∃ a, x = .ok a ∧ f a = .error e := by
  cases x <;> simp [bind, Except.bind]

namespace CpuList

/-- The text is the number of a CPU, with blanks around it or not. -/
def IsCpu (cs : List Char) (cpu : CpuId) : Prop := Text.Writes (Text.trim cs) cpu.toNat

/-- The text is not the number of a CPU, for this reason. -/
inductive NoCpu (cs : List Char) : CpuListError → Prop
  | spoilt {fault : Text.NumeralError} (h : Text.Spoils UInt32.size (Text.trim cs) fault) :
    NoCpu cs (.invalidCpu (String.ofList (Text.trim cs)) fault)

/-- What stands before and after the first dash of a token. -/
structure Halves (token a b : List Char) : Prop where
  split : Text.trim token = a ++ '-' :: b
  first : '-' ∉ a

/-- The range that a token names: that of one CPU, or the one with the ends beside its first dash. -/
inductive Names (token : List Char) : CpuId → CpuId → Prop
  | single {cpu : CpuId} (hd : '-' ∉ Text.trim token) (h : IsCpu token cpu) : Names token cpu cpu
  | range {a b : List Char} {first last : CpuId} (h : Halves token a b) (ha : IsCpu a first)
    (hb : IsCpu b last) (hle : first ≤ last) : Names token first last

/-- The CPUs that a token stands for: those of the range that it names, in rising order. -/
def Denotes (token : List Char) (cpus : List CpuId) : Prop :=
  ∃ first last, Names token first last ∧ last.toNat - first.toNat < maxRangeWidth ∧
    cpus.map UInt32.toNat = List.range' first.toNat (last.toNat - first.toNat + 1)

/-- Why a token of `list` is refused. Each reason counts only if none of those before it does. -/
inductive Offends (list : String) (token : List Char) : CpuListError → Prop
  | empty (h : Text.trim token = []) : Offends list token (.emptyToken list)
  | number {e : CpuListError} (hne : Text.trim token ≠ []) (hd : '-' ∉ Text.trim token)
    (h : NoCpu token e) : Offends list token e
  | first {a b : List Char} {e : CpuListError} (h : Halves token a b) (ha : NoCpu a e) :
    Offends list token e
  | last {a b : List Char} {first : CpuId} {e : CpuListError} (h : Halves token a b)
    (ha : IsCpu a first) (hb : NoCpu b e) : Offends list token e
  | reversed {a b : List Char} {first last : CpuId} (h : Halves token a b) (ha : IsCpu a first)
    (hb : IsCpu b last) (hlt : last < first) : Offends list token (.reversedRange first last)
  | tooWide {first last : CpuId} (h : Names token first last)
    (hw : maxRangeWidth ≤ last.toNat - first.toNat) :
    Offends list token (.rangeTooWide first last)

/-- What `b` is below `a`, if that is a number. -/
def minus? (a b : CpuId) : Option CpuId := if b ≤ a then some (a - b) else none

/-- The ids from `cpu` to the one that `steps` steps lead to, if there are so many. -/
def climb? : (steps : Nat) → (cpu : CpuId) → Option (List CpuId)
  | 0, cpu => some [cpu]
  | steps + 1, cpu => (next? cpu).bind fun next => (climb? steps next).map (cpu :: ·)

/-- `expand` in 32 bits, with nothing as the result of a step that leaves them. -/
def expand? (first last : CpuId) : Option (Except CpuListError (List CpuId)) :=
  if last < first then some (.error (.reversedRange first last))
  else (minus? last first).bind fun width =>
    if maxRangeWidth ≤ width.toNat then some (.error (.rangeTooWide first last))
    else (climb? width.toNat first).map .ok

variable {list : String} {cs token a b : List Char} {cpu first last : CpuId} {cpus : List CpuId}
  {e : CpuListError} {n : Nat}

/-! ## Numbers -/

theorem readCpu_ok_iff : readCpu cs = .ok cpu ↔ IsCpu cs cpu := by
  rw [IsCpu, ← Text.readUInt32_ok_iff, readCpu]
  cases Text.readUInt32 (Text.trim cs) <;> simp

theorem readCpu_error_iff : readCpu cs = .error e ↔ NoCpu cs e := by
  simp only [readCpu]
  cases hr : Text.readUInt32 (Text.trim cs) with
  | ok cpu =>
    simp only [reduceCtorEq, false_iff]
    rintro ⟨h⟩
    cases hr.symm.trans (Text.readUInt32_error_iff.2 h)
  | error fault =>
    simp only [Except.error.injEq]
    constructor
    · rintro rfl
      exact .spoilt (Text.readUInt32_error_iff.1 hr)
    · rintro ⟨h⟩
      obtain rfl := Except.error.inj (hr.symm.trans (Text.readUInt32_error_iff.2 h))
      rfl

/-! ## Ranges -/

/-- The ids from one on have the numbers from that of the one on, as long as those are in range. -/
theorem map_toNat_idsFrom (h : first.toNat + n ≤ UInt32.size) :
    (idsFrom first n).map UInt32.toNat = List.range' first.toNat n := by
  rw [idsFrom, List.map_map, List.range'_eq_map_range]
  refine List.map_congr_left fun i hi => ?_
  have hi := List.mem_range.1 hi
  exact UInt32.toNat_ofNat_of_lt' (Nat.lt_of_lt_of_le (by omega) h)

/-- The numbers determine the CPUs. -/
theorem eq_idsFrom_iff (hle : first.toNat ≤ last.toNat) :
    cpus.map UInt32.toNat = List.range' first.toNat (last.toNat - first.toNat + 1) ↔
      cpus = idsFrom first (last.toNat - first.toNat + 1) := by
  have hlt := last.toNat_lt
  rw [← map_toNat_idsFrom (by simp only [UInt32.size]; omega)]
  exact List.map_inj_right fun _ _ => UInt32.toNat_inj.1

theorem climb?_eq (hle : first.toNat ≤ last.toNat) :
    climb? (last.toNat - first.toNat) first = some (idsOf (first, last)) := by
  induction hn : last.toNat - first.toNat generalizing first with
  | zero =>
    obtain rfl : first = last := UInt32.toNat_inj.1 (by omega)
    rw [climb?, idsOf_self]
  | succ n ih =>
    obtain ⟨next, hnext⟩ := exists_toNat_eq (show first.toNat + 1 ≤ last.toNat by omega)
    rw [climb?, next?_eq_some_iff.2 hnext.symm, Option.bind_some, ih (by omega) (by omega),
      Option.map_some, idsOf_cons hnext.symm (by omega)]

/-- No step by which a range is expanded leaves the 32 bits. -/
theorem expand?_eq (first last : CpuId) : expand? first last = some (expand first last) := by
  unfold expand? expand
  split
  · rfl
  · rename_i h
    have hle := UInt32.not_lt.1 h
    have hwidth : (last - first).toNat = last.toNat - first.toNat := UInt32.toNat_sub_of_le _ _ hle
    rw [minus?, if_pos hle, Option.bind_some, hwidth]
    split
    · rfl
    · rw [climb?_eq (UInt32.le_iff_toNat_le.1 hle)]
      rfl

/-! ## Tokens -/

/-- A token is blank, has no dash, or has something before and after its first dash. -/
theorem blank_or_halves (token : List Char) :
    Text.trim token = [] ∨ (Text.trim token ≠ [] ∧ '-' ∉ Text.trim token) ∨
      ∃ a b, Halves token a b := by
  by_cases hne : Text.trim token = []
  · exact .inl hne
  · cases hc : Text.cut? '-' (Text.trim token) with
    | none => exact .inr (.inl ⟨hne, Text.cut?_eq_none_iff.1 hc⟩)
    | some r =>
      obtain ⟨hs, hf⟩ := Text.cut?_eq_some_iff.1 hc
      exact .inr (.inr ⟨r.1, r.2, hs, hf⟩)

theorem readToken_of_blank (h : Text.trim token = []) :
    readToken list token = .error (.emptyToken list) := by
  unfold readToken
  rw [h]

theorem readToken_of_no_dash (hne : Text.trim token ≠ []) (hd : '-' ∉ Text.trim token) :
    readToken list token = (readCpu token).map ([·]) := by
  have hcpu : readCpu (Text.trim token) = readCpu token := by rw [readCpu, readCpu, Text.trim_trim]
  unfold readToken
  split
  · exact absurd ‹_› hne
  · rw [Text.cut?_eq_none_iff.2 hd, ← hcpu]

theorem readToken_of_halves (h : Halves token a b) :
    readToken list token =
      readCpu a >>= fun first => readCpu b >>= fun last => expand first last := by
  have hne : Text.trim token ≠ [] := by
    rw [h.split]
    simp
  unfold readToken
  split
  · exact absurd ‹_› hne
  · rw [Text.cut?_eq_some_iff.2 ⟨h.split, h.first⟩]

theorem Halves.dash (h : Halves token a b) : '-' ∈ Text.trim token := by
  rw [h.split]
  simp

/-- A token has one first dash. -/
theorem Halves.unique {a' b' : List Char} (h : Halves token a b) (h' : Halves token a' b') :
    a = a' ∧ b = b' := by
  have heq := (Text.cut?_eq_some_iff.2 ⟨h.split, h.first⟩).symm.trans
    (Text.cut?_eq_some_iff.2 ⟨h'.split, h'.first⟩)
  exact Prod.mk.inj (Option.some.inj heq)

theorem not_names_of_blank (h : Text.trim token = []) : ¬ Names token first last := by
  intro hn
  cases hn with
  | single hd hcpu =>
    obtain ⟨body, ds, hb, hne, -⟩ := hcpu
    rw [h] at hb
    rcases hb with hb | hb
    · exact hne hb.symm
    · cases hb
  | range hh => exact absurd hh.dash (by simp [h])

theorem names_of_no_dash (hd : '-' ∉ Text.trim token) :
    Names token first last ↔ first = last ∧ IsCpu token first := by
  constructor
  · intro hn
    cases hn with
    | single _ hcpu => exact ⟨rfl, hcpu⟩
    | range hh => exact absurd hh.dash hd
  · rintro ⟨rfl, hcpu⟩
    exact .single hd hcpu

theorem names_of_halves (h : Halves token a b) :
    Names token first last ↔ IsCpu a first ∧ IsCpu b last ∧ first ≤ last := by
  constructor
  · intro hn
    cases hn with
    | single hd => exact absurd h.dash hd
    | range hh ha hb hle =>
      obtain ⟨rfl, rfl⟩ := hh.unique h
      exact ⟨ha, hb, hle⟩
  · rintro ⟨ha, hb, hle⟩
    exact .range h ha hb hle

theorem Names.le (h : Names token first last) : first.toNat ≤ last.toNat := by
  cases h with
  | single => exact Nat.le_refl _
  | range _ _ _ hle => exact UInt32.le_iff_toNat_le.1 hle

/-- A token denotes the CPUs of the range that it names, unless that is too wide. -/
theorem denotes_iff :
    Denotes token cpus ↔
      ∃ first last, Names token first last ∧ last.toNat - first.toNat < maxRangeWidth ∧
        cpus = idsOf (first, last) := by
  unfold Denotes
  refine exists_congr fun first => exists_congr fun last => and_congr_right fun hn => ?_
  rw [eq_idsFrom_iff hn.le]
  rfl

theorem readToken_eq_ok_iff : readToken list token = .ok cpus ↔ Denotes token cpus := by
  rw [denotes_iff]
  rcases blank_or_halves token with h | ⟨hne, hd⟩ | ⟨a, b, h⟩
  · simp [readToken_of_blank h, not_names_of_blank h]
  · rw [readToken_of_no_dash hne hd]
    simp only [names_of_no_dash hd, ← readCpu_ok_iff]
    cases readCpu token with
    | error e => simp [Except.map]
    | ok cpu =>
      simp only [Except.map, Except.ok.injEq]
      constructor
      · rintro rfl
        exact ⟨cpu, cpu, ⟨rfl, rfl⟩, by simp [maxRangeWidth], idsOf_self.symm⟩
      · rintro ⟨_, _, ⟨rfl, rfl⟩, -, rfl⟩
        exact idsOf_self.symm
  · rw [readToken_of_halves h]
    simp only [names_of_halves h, ← readCpu_ok_iff]
    constructor
    · intro hr
      obtain ⟨first, ha, hr⟩ := ok_of_bind_ok hr
      obtain ⟨last, hb, hr⟩ := ok_of_bind_ok hr
      obtain ⟨hle, hw, hc⟩ := expand_ok_iff.1 hr
      exact ⟨first, last, ⟨ha, hb, hle⟩, hw, hc⟩
    · rintro ⟨first, last, ⟨ha, hb, hle⟩, hw, hc⟩
      rw [ha, hb]
      exact expand_ok_iff.2 ⟨hle, hw, hc⟩

theorem expand_error_iff :
    expand first last = .error e ↔
      last < first ∧ e = .reversedRange first last ∨
        first ≤ last ∧ maxRangeWidth ≤ last.toNat - first.toNat ∧ e = .rangeTooWide first last := by
  unfold expand
  split
  case isTrue h => simp [h, UInt32.not_le.2 h, eq_comm]
  case isFalse h =>
    have hle := UInt32.not_lt.1 h
    split
    case isTrue hw => simp [h, hle, hw, eq_comm]
    case isFalse hw => simp [h, hle, hw]

theorem readToken_error_iff : readToken list token = .error e ↔ Offends list token e := by
  rcases blank_or_halves token with h | ⟨hne, hd⟩ | ⟨a, b, h⟩
  · rw [readToken_of_blank h]
    constructor
    · rintro ⟨⟩
      exact .empty h
    · intro ho
      cases ho with
      | empty => rfl
      | number hne => exact absurd h hne
      | first hh | last hh | reversed hh => exact absurd hh.dash (by simp [h])
      | tooWide hn => exact absurd hn (not_names_of_blank h)
  · rw [readToken_of_no_dash hne hd]
    have hmap : (readCpu token).map ([·]) = .error e ↔ NoCpu token e := by
      rw [← readCpu_error_iff]
      cases readCpu token <;> simp [Except.map]
    rw [hmap]
    constructor
    · exact .number hne hd
    · intro ho
      cases ho with
      | empty h => exact absurd h hne
      | number _ _ h => exact h
      | first hh | last hh | reversed hh => exact absurd hh.dash hd
      | tooWide hn hw =>
        obtain ⟨rfl, -⟩ := (names_of_no_dash hd).1 hn
        simp [maxRangeWidth] at hw
  · rw [readToken_of_halves h, bind_error_iff]
    simp only [bind_error_iff, expand_error_iff, readCpu_ok_iff, readCpu_error_iff]
    constructor
    · rintro (ha | ⟨first, ha, hb | ⟨last, hb, ⟨hlt, rfl⟩ | ⟨hle, hw, rfl⟩⟩⟩)
      · exact .first h ha
      · exact .last h ha hb
      · exact .reversed h ha hb hlt
      · exact .tooWide (.range h ha hb hle) hw
    · intro ho
      cases ho with
      | empty hnil => exact absurd h.dash (by simp [hnil])
      | number _ hd => exact absurd h.dash hd
      | first hh ha =>
        obtain ⟨rfl, rfl⟩ := hh.unique h
        exact .inl ha
      | last hh ha hb =>
        obtain ⟨rfl, rfl⟩ := hh.unique h
        exact .inr ⟨_, ha, .inl hb⟩
      | reversed hh ha hb hlt =>
        obtain ⟨rfl, rfl⟩ := hh.unique h
        exact .inr ⟨_, ha, .inr ⟨_, hb, .inl ⟨hlt, rfl⟩⟩⟩
      | tooWide hn hw =>
        obtain ⟨ha, hb, hle⟩ := (names_of_halves h).1 hn
        exact .inr ⟨_, ha, .inr ⟨_, hb, .inr ⟨hle, hw, rfl⟩⟩⟩

/-! ## Lists -/

/-- The leftmost token that is refused decides how the list is refused. -/
theorem readTokens_error_iff {tokens : List (List Char)} :
    readTokens list tokens = .error e ↔
      ∃ before token after, tokens = before ++ token :: after ∧
        (∀ t ∈ before, ∃ cpus, Denotes t cpus) ∧ Offends list token e := by
  induction tokens with
  | nil => simp [readTokens]
  | cons t tokens ih =>
    have hmore : ∀ cpus, (readTokens list tokens >>= fun more => pure (cpus ++ more)) = .error e ↔
        readTokens list tokens = .error e := fun cpus => by
      rw [bind_error_iff]
      simp [pure, Except.pure]
    simp only [readTokens, bind_error_iff (x := readToken list t), hmore, ih,
      readToken_error_iff, readToken_eq_ok_iff]
    constructor
    · rintro (ho | ⟨cpus, ht, before, token, after, rfl, hb, ho⟩)
      · exact ⟨[], t, tokens, rfl, by simp, ho⟩
      · exact ⟨t :: before, token, after, rfl, List.forall_mem_cons.2 ⟨⟨cpus, ht⟩, hb⟩, ho⟩
    · rintro ⟨before, token, after, heq, hb, ho⟩
      cases before with
      | nil =>
        obtain ⟨rfl, rfl⟩ := List.cons.inj heq
        exact .inl ho
      | cons u before =>
        obtain ⟨rfl, rfl⟩ := List.cons.inj heq
        obtain ⟨⟨cpus, ht⟩, hb⟩ := List.forall_mem_cons.1 hb
        exact .inr ⟨cpus, ht, before, token, after, rfl, hb, ho⟩

/-- A token stands for some CPUs, and for no more than a range may cover. -/
theorem Denotes.length (h : Denotes token cpus) : cpus ≠ [] ∧ cpus.length ≤ maxRangeWidth := by
  obtain ⟨first, last, -, hw, hc⟩ := h
  have hlen : cpus.length = last.toNat - first.toNat + 1 := by
    rw [← List.length_map (f := UInt32.toNat), hc, List.length_range']
  exact ⟨List.ne_nil_of_length_pos (by omega), by omega⟩

end CpuList

/-- A list is read if every token denotes CPUs, and gives these in the order of the tokens; or else
it is refused for what is wrong with the leftmost token that denotes none. Its ranges are expanded
without leaving 32 bits. -/
theorem parseCpuList_grammar (list : String) :
    (∀ cpus, parseCpuList list = .ok cpus ↔
      ∃ parts, List.Forall₂ CpuList.Denotes (Text.pieces ',' list.toList) parts ∧
        cpus = parts.flatten) ∧
    (∀ e, parseCpuList list = .error e ↔
      ∃ before token after, Text.pieces ',' list.toList = before ++ token :: after ∧
        (∀ t ∈ before, ∃ cpus, CpuList.Denotes t cpus) ∧ CpuList.Offends list token e) ∧
    (∀ cpus, parseCpuList list = .ok cpus → cpus ≠ []) ∧
    (∀ token cpus, CpuList.Denotes token cpus → cpus ≠ [] ∧ cpus.length ≤ maxRangeWidth) ∧
    ∀ first last, CpuList.expand? first last = some (CpuList.expand first last) := by
  have hstands : CpuList.Denotes = CpuList.Stands := by
    funext token cpus
    rw [← @CpuList.readToken_eq_ok_iff list, CpuList.readToken_ok_iff]
  refine ⟨fun cpus => ?_, fun e => CpuList.readTokens_error_iff, fun _ => parseCpuList_ne_nil,
    fun _ _ h => h.length, CpuList.expand?_eq⟩
  rw [hstands]
  exact parseCpuList_ok_iff

/-- The second end of the last range is missing. -/
example : parseCpuList " +3 - 5,4,\t0-" = .error (.invalidCpu "" .empty) := by decide +kernel

end PowerGrant
