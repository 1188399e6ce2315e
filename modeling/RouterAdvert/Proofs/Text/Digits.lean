import Mathlib.Data.List.Forall2
import Mathlib.Data.List.Induction
import RouterAdvert.Proofs.Text.Reading

/-!
# Numerals as texts

What characters stand for which digits, and what texts for which numbers. A numeral is read exactly
if it stands for a number in its base, whatever the case of its letters and however many zeros it
has in front.
-/

namespace RouterAdvert.Numeral

def lowerDigits : List Char :=
  ['0', '1', '2', '3', '4', '5', '6', '7', '8', '9', 'a', 'b', 'c', 'd', 'e', 'f']

def upperDigits : List Char :=
  ['0', '1', '2', '3', '4', '5', '6', '7', '8', '9', 'A', 'B', 'C', 'D', 'E', 'F']

/-- A character of either case stands for a digit in a base. -/
def IsDigit (base : Nat) (c : Char) (digit : Nat) : Prop :=
  digit < base ∧ (lowerDigits[digit]? = some c ∨ upperDigits[digit]? = some c)

def Denotes (base : Nat) (cs : List Char) (n : Nat) : Prop :=
  cs ≠ [] ∧ ∃ digits, List.Forall₂ (IsDigit base) cs digits ∧ value base digits = n

theorem digitValue?_eq_some_iff {c : Char} {digit : Nat} :
    digitValue? c = some digit ↔ lowerDigits[digit]? = some c ∨ upperDigits[digit]? = some c := by
  constructor
  · intro h
    have hdecimal : ∀ k < 10, lowerDigits[k]? = some (Char.ofNat (48 + k)) := by decide
    have hlower : ∀ k < 6, lowerDigits[10 + k]? = some (Char.ofNat (97 + k)) := by decide
    have hupper : ∀ k < 6, upperDigits[10 + k]? = some (Char.ofNat (65 + k)) := by decide
    unfold digitValue? at h
    split at h
    · obtain rfl := Option.some.inj h
      left
      rw [hdecimal _ (by omega), Nat.add_sub_cancel' (by omega), Char.ofNat_toNat]
    · split at h
      · obtain rfl := Option.some.inj h
        left
        rw [show c.toNat - 87 = 10 + (c.toNat - 97) by omega, hlower _ (by omega),
          Nat.add_sub_cancel' (by omega), Char.ofNat_toNat]
      · split at h
        · obtain rfl := Option.some.inj h
          right
          rw [show c.toNat - 55 = 10 + (c.toNat - 65) by omega, hupper _ (by omega),
            Nat.add_sub_cancel' (by omega), Char.ofNat_toNat]
        · cases h
  · have hlower : ∀ k : Fin 16, digitValue? lowerDigits[k] = some k := by decide
    have hupper : ∀ k : Fin 16, digitValue? upperDigits[k] = some k := by decide
    rintro (h | h)
    · obtain ⟨hlt, rfl⟩ := List.getElem?_eq_some_iff.mp h
      exact hlower ⟨digit, hlt⟩
    · obtain ⟨hlt, rfl⟩ := List.getElem?_eq_some_iff.mp h
      exact hupper ⟨digit, hlt⟩

theorem digitIn?_eq_some_iff {base : Nat} {c : Char} {digit : Nat} :
    digitIn? base c = some digit ↔ IsDigit base c digit := by
  rw [digitIn?, Option.filter_eq_some_iff, digitValue?_eq_some_iff, decide_eq_true_eq, IsDigit,
    and_comm]

theorem IsDigit.lt_sixteen {base : Nat} {c : Char} {digit : Nat} (h : IsDigit base c digit) :
    digit < 16 := by
  rcases h.2 with h | h
  · exact (List.getElem?_eq_some_iff.mp h).1
  · exact (List.getElem?_eq_some_iff.mp h).1

theorem isDigit_sixteen_iff {c : Char} {digit : Nat} :
    IsDigit 16 c digit ↔ digitValue? c = some digit := by
  rw [digitValue?_eq_some_iff]
  constructor
  · exact And.right
  · intro h
    have hlt : digit < 16 := @IsDigit.lt_sixteen (digit + 1) c digit ⟨Nat.lt_succ_self digit, h⟩
    exact ⟨hlt, h⟩

theorem isDigit_digitChar {base digit : Nat} (hbase : base ≤ 16) (h : digit < base) :
    IsDigit base (digitChar digit) digit :=
  ⟨h, digitValue?_eq_some_iff.mp (digitValue?_digitChar digit (by omega))⟩

theorem IsDigit.toLower {base : Nat} {c : Char} {digit : Nat} (h : IsDigit base c digit) :
    c.toLower = digitChar digit := by
  have hlower : ∀ k : Fin 16, lowerDigits[k].toLower = digitChar k := by decide
  have hupper : ∀ k : Fin 16, upperDigits[k].toLower = digitChar k := by decide
  rcases h.2 with h | h
  · obtain ⟨hlt, rfl⟩ := List.getElem?_eq_some_iff.mp h
    exact hlower ⟨digit, hlt⟩
  · obtain ⟨hlt, rfl⟩ := List.getElem?_eq_some_iff.mp h
    exact hupper ⟨digit, hlt⟩

theorem IsDigit.ne {base : Nat} {c other : Char} {digit : Nat} (h : IsDigit base c digit)
    (hother : digitValue? other = none) : c ≠ other := by
  rintro rfl
  rw [digitValue?_eq_some_iff.mpr h.2] at hother
  cases hother

theorem mapM_eq_some_iff {α β : Type} {f : α → Option β} {xs : List α} {ys : List β} :
    xs.mapM f = some ys ↔ List.Forall₂ (fun x y => f x = some y) xs ys := by
  induction xs generalizing ys with
  | nil => simp [eq_comm]
  | cons x rest ih =>
    simp only [List.mapM_cons, Option.bind_eq_bind, Option.bind_eq_some_iff, Option.pure_def,
      Option.some.injEq, ih, List.forall₂_cons_left_iff]
    constructor
    · rintro ⟨y, hy, others, hothers, rfl⟩
      exact ⟨y, others, hy, hothers, rfl⟩
    · rintro ⟨y, others, hy, hothers, rfl⟩
      exact ⟨y, hy, others, hothers, rfl⟩

theorem exists_forall₂_iff {α β : Type} {r : α → β → Prop} {xs : List α} :
    (∃ ys, List.Forall₂ r xs ys) ↔ ∀ x ∈ xs, ∃ y, r x y := by
  induction xs with
  | nil => exact ⟨by simp, fun _ => ⟨[], .nil⟩⟩
  | cons x rest ih =>
    rw [List.forall_mem_cons, ← ih]
    constructor
    · rintro ⟨ys, hys⟩
      obtain ⟨y, others, hy, hothers, -⟩ := List.forall₂_cons_left_iff.mp hys
      exact ⟨⟨y, hy⟩, others, hothers⟩
    · rintro ⟨⟨y, hy⟩, others, hothers⟩
      exact ⟨y :: others, .cons hy hothers⟩

/-- A numeral is read exactly if it stands for a number. -/
theorem read?_eq_some_iff {base : Nat} {cs : List Char} {n : Nat} :
    read? base cs = some n ↔ Denotes base cs n := by
  cases cs with
  | nil => simp [read?, Denotes]
  | cons c rest =>
    rw [read?, Option.map_eq_map, Option.map_eq_some_iff, Denotes]
    simp only [mapM_eq_some_iff, digitIn?_eq_some_iff, ne_eq, reduceCtorEq, not_false_eq_true,
      true_and]

theorem forall₂_isDigit_map {base : Nat} (hbase : base ≤ 16) {digits : List Nat}
    (h : ∀ digit ∈ digits, digit < base) :
    List.Forall₂ (IsDigit base) (digits.map digitChar) digits := by
  rw [List.forall₂_map_left_iff, List.forall₂_same]
  exact fun digit hdigit => isDigit_digitChar hbase (h digit hdigit)

theorem Denotes.isDigit {base : Nat} {cs : List Char} {n : Nat} (h : Denotes base cs n) :
    ∀ c ∈ cs, ∃ digit, IsDigit base c digit := by
  obtain ⟨-, digits, hdigits, -⟩ := h
  exact exists_forall₂_iff.mp ⟨digits, hdigits⟩

theorem Denotes.not_mem {base : Nat} {cs : List Char} {n : Nat} (h : Denotes base cs n) {c : Char}
    (hc : digitValue? c = none) : c ∉ cs := by
  intro hmem
  obtain ⟨digit, hdigit⟩ := h.isDigit c hmem
  exact hdigit.ne hc rfl

section Width

variable {base : Nat}

theorem value_lt {digits : List Nat} (h : ∀ digit ∈ digits, digit < base) :
    value base digits < Nat.pow base digits.length := by
  induction digits using List.reverseRecOn with
  | nil => exact Nat.one_pos
  | append_singleton front last ih =>
    have hlast : last < base := h last (by simp)
    have hfront := ih fun digit hdigit => h digit (List.mem_append_left _ hdigit)
    rw [value_append_singleton, List.length_append]
    calc value base front * base + last
        < value base front * base + base := Nat.add_lt_add_left hlast _
      _ = (value base front + 1) * base := (Nat.succ_mul _ _).symm
      _ ≤ Nat.pow base front.length * base := Nat.mul_le_mul_right base hfront

/-- A numeral stands for less than the power of the base with its length. -/
theorem Denotes.lt {cs : List Char} {n : Nat} (h : Denotes base cs n) :
    n < Nat.pow base cs.length := by
  obtain ⟨-, digits, hdigits, rfl⟩ := h
  rw [hdigits.length_eq]
  apply value_lt
  intro digit hmem
  obtain ⟨c, hc⟩ := exists_forall₂_iff.mp ⟨cs, hdigits.flip⟩ digit hmem
  exact hc.1

theorem pow_le_value {first : Nat} (hfirst : 0 < first) (rest : List Nat) :
    Nat.pow base rest.length ≤ value base (first :: rest) := by
  induction rest using List.reverseRecOn with
  | nil =>
    have hone : value base [first] = first := by simp [value]
    rw [hone]
    exact hfirst
  | append_singleton front last ih =>
    rw [← List.cons_append, value_append_singleton, List.length_append]
    exact Nat.le_add_right_of_le (Nat.mul_le_mul_right base ih)

theorem fixed_value {digits : List Nat} (h : ∀ digit ∈ digits, digit < base) :
    fixed base digits.length (value base digits) = digits := by
  induction digits using List.reverseRecOn with
  | nil => rfl
  | append_singleton front last ih =>
    have hlast : last < base := h last (by simp)
    have hfront := ih fun digit hdigit => h digit (List.mem_append_left _ hdigit)
    have hhigh : (value base front * base + last) / base = value base front := by
      rw [Nat.mul_comm, Nat.mul_add_div (Nat.zero_lt_of_lt hlast), Nat.div_eq_of_lt hlast, Nat.add_zero]
    have hlow : (value base front * base + last) % base = last := by
      rw [Nat.mul_add_mod', Nat.mod_eq_of_lt hlast]
    rw [value_append_singleton, List.length_append, List.length_singleton, fixed, hhigh, hlow, hfront]

end Width

end RouterAdvert.Numeral
