import RouterAdvert.Text.Numeral
import RouterAdvert.Text.Pieces

/-!
# Reading what was written

A numeral is read back as its number, and parts that were joined by a separator are found again by
cutting at it, as long as no part has the separator in it.
-/

namespace RouterAdvert.Numeral

theorem minimal_of_lt {base n : Nat} (h : n < base) : minimal base n = [n] := by
  rw [minimal, dif_neg]
  omega

theorem minimal_of_le {base n : Nat} (hbase : 2 ≤ base) (h : base ≤ n) :
    minimal base n = minimal base (n / base) ++ [n % base] := by
  rw [minimal, dif_pos ⟨hbase, h⟩]

theorem minimal_lt {base : Nat} (hbase : 2 ≤ base) (n : Nat) : ∀ d ∈ minimal base n, d < base := by
  induction n using Nat.strongRecOn with
  | ind n ih =>
    intro d hd
    by_cases hn : n < base
    · rw [minimal_of_lt hn, List.mem_singleton] at hd
      omega
    · rw [minimal_of_le hbase (by omega)] at hd
      rcases List.mem_append.mp hd with hd | hd
      · exact ih _ (Nat.div_lt_self (by omega) hbase) d hd
      · rw [List.mem_singleton.mp hd]
        exact Nat.mod_lt _ (by omega)

/-- A number below a power of the base needs no more digits than its exponent. -/
theorem length_minimal_le {base : Nat} (hbase : 2 ≤ base) {width n : Nat}
    (h : n < Nat.pow base (width + 1)) : (minimal base n).length ≤ width + 1 := by
  induction width generalizing n with
  | zero =>
    have hn : n < base := by simpa using h
    rw [minimal_of_lt hn]
    exact Nat.le_refl 1
  | succ width ih =>
    by_cases hn : n < base
    · rw [minimal_of_lt hn]
      simp
    · have hhigh : n / base < Nat.pow base (width + 1) := Nat.div_lt_of_lt_mul (by
        rw [Nat.mul_comm]
        exact h)
      rw [minimal_of_le hbase (by omega), List.length_append]
      have := ih hhigh
      simp only [List.length_singleton]
      omega

theorem head?_minimal {base : Nat} (hbase : 2 ≤ base) {n : Nat} (h : (minimal base n).head? = some 0) :
    n = 0 := by
  induction n using Nat.strongRecOn with
  | ind n ih =>
    by_cases hn : n < base
    · simpa [minimal_of_lt hn] using h
    · rw [minimal_of_le hbase (by omega), List.head?_append] at h
      have hfirst : (minimal base (n / base)).head? = some 0 := by
        cases hhead : (minimal base (n / base)).head? with
        | none => exact absurd (List.head?_eq_none_iff.mp hhead) (minimal_ne_nil base _)
        | some d => simpa [hhead] using h
      have hhigh := ih _ (Nat.div_lt_self (by omega) hbase) hfirst
      have hpos : 0 < n / base := Nat.div_pos (by omega) (by omega)
      omega

theorem digitValue?_digitChar : ∀ d < 16, digitValue? (digitChar d) = some d := by decide

theorem write_ne_nil (base n : Nat) : write base n ≠ [] := by
  rw [write, ne_eq, List.map_eq_nil_iff]
  exact minimal_ne_nil base n

section Base

variable {base : Nat} (hbase : 2 ≤ base) (hsixteen : base ≤ 16)

include hbase hsixteen

theorem not_mem_write {c : Char} (h : digitValue? c = none) (n : Nat) : c ∉ write base n := by
  intro hmem
  obtain ⟨d, hd, rfl⟩ := List.mem_map.mp hmem
  have hlt := minimal_lt hbase n d hd
  rw [digitValue?_digitChar d (by omega)] at h
  cases h

theorem not_mem_map_write {c : Char} (h : digitValue? c = none) (ns : List Nat) :
    ∀ part ∈ ns.map (write base), c ∉ part := by
  intro part hpart
  obtain ⟨n, -, rfl⟩ := List.mem_map.mp hpart
  exact not_mem_write hbase hsixteen h n

theorem mapM_digitIn? {digits : List Nat} (h : ∀ d ∈ digits, d < base) :
    (digits.map digitChar).mapM (digitIn? base) = some digits := by
  induction digits with
  | nil => rfl
  | cons d rest ih =>
    obtain ⟨hd, hrest⟩ := List.forall_mem_cons.mp h
    have hdigit : digitIn? base (digitChar d) = some d := by
      rw [digitIn?, digitValue?_digitChar d (by omega)]
      simpa using hd
    simp only [List.map_cons, List.mapM_cons, hdigit, ih hrest]
    rfl

/-- A number is read back from its digits. -/
theorem read?_write (n : Nat) : read? base (write base n) = some n := by
  have hdigits := mapM_digitIn? hbase hsixteen (minimal_lt hbase n)
  change (write base n).mapM (digitIn? base) = _ at hdigits
  cases hwritten : write base n with
  | nil => exact absurd hwritten (write_ne_nil base n)
  | cons c rest =>
    rw [hwritten] at hdigits
    rw [read?, hdigits]
    exact congrArg some (value_minimal base n)

end Base

theorem read?_decimal (n : Nat) : read? 10 (decimal n).toList = some n := by
  rw [decimal, String.toList_ofList, read?_write (by decide) (by decide)]

end RouterAdvert.Numeral

namespace RouterAdvert.Text

variable {sep : Char} {part : List Char}

theorem join_cons_cons (sep : Char) (part second : List Char) (others : List (List Char)) :
    join sep (part :: second :: others) = part ++ sep :: join sep (second :: others) := rfl

theorem pieces_of_not_mem (h : sep ∉ part) : pieces sep part = [part] := by
  induction part with
  | nil => rfl
  | cons c rest ih =>
    have hc : c ≠ sep := (List.ne_of_not_mem_cons h).symm
    rw [pieces, if_neg hc, ih (List.not_mem_of_not_mem_cons h)]

theorem pieces_append (h : sep ∉ part) (rest : List Char) :
    pieces sep (part ++ sep :: rest) = part :: pieces sep rest := by
  induction part with
  | nil => simp [pieces]
  | cons c others ih =>
    have hc : c ≠ sep := (List.ne_of_not_mem_cons h).symm
    rw [List.cons_append, pieces, if_neg hc, ih (List.not_mem_of_not_mem_cons h)]

/-- Parts without the separator are found again where they were joined. -/
theorem pieces_join {parts : List (List Char)} (hne : parts ≠ []) (h : ∀ part ∈ parts, sep ∉ part) :
    pieces sep (join sep parts) = parts := by
  induction parts with
  | nil => exact absurd rfl hne
  | cons part rest ih =>
    obtain ⟨hpart, hrest⟩ := List.forall_mem_cons.mp h
    cases rest with
    | nil => exact pieces_of_not_mem hpart
    | cons second others =>
      rw [join_cons_cons, pieces_append hpart, ih (by simp) hrest]

theorem not_mem_join {c : Char} (hc : c ≠ sep) {parts : List (List Char)}
    (h : ∀ part ∈ parts, c ∉ part) : c ∉ join sep parts := by
  induction parts with
  | nil => simp [join]
  | cons part rest ih =>
    obtain ⟨hpart, hrest⟩ := List.forall_mem_cons.mp h
    cases rest with
    | nil => exact hpart
    | cons second others =>
      rw [join_cons_cons, List.mem_append, List.mem_cons, not_or, not_or]
      exact ⟨hpart, hc, ih hrest⟩

theorem cut?_append (h : sep ∉ part) (after : List Char) :
    cut? sep (part ++ sep :: after) = some (part, after) := by
  induction part with
  | nil => simp [cut?]
  | cons c rest ih =>
    have hc : c ≠ sep := (List.ne_of_not_mem_cons h).symm
    rw [List.cons_append, cut?, if_neg hc, ih (List.not_mem_of_not_mem_cons h)]
    rfl

theorem cutDouble?_append (h : sep ∉ part) (rest : List Char) :
    cutDouble? sep (part ++ rest) =
      (cutDouble? sep rest).map fun (before, after) => (part ++ before, after) := by
  induction part with
  | nil => simp
  | cons c others ih =>
    have hc : c ≠ sep := (List.ne_of_not_mem_cons h).symm
    have hsingle : ¬(c = sep ∧ (others ++ rest).head? = some sep) := fun hdouble => hc hdouble.1
    rw [List.cons_append, cutDouble?, if_neg hsingle, ih (List.not_mem_of_not_mem_cons h),
      Option.map_map]
    rfl

theorem cutDouble?_cons {rest : List Char} (h : rest.head? ≠ some sep) :
    cutDouble? sep (sep :: rest) =
      (cutDouble? sep rest).map fun (before, after) => (sep :: before, after) := by
  rw [cutDouble?, if_neg fun hdouble => h hdouble.2]

/-- Two adjacent separators are not found in parts that were joined, none of which is empty. -/
theorem cutDouble?_join_append {parts : List (List Char)}
    (h : ∀ part ∈ parts, part ≠ [] ∧ sep ∉ part) (rest : List Char) :
    cutDouble? sep (join sep parts ++ rest) =
      (cutDouble? sep rest).map fun (before, after) => (join sep parts ++ before, after) := by
  induction parts with
  | nil => simp [join]
  | cons part others ih =>
    obtain ⟨⟨-, hpart⟩, hothers⟩ := List.forall_mem_cons.mp h
    cases others with
    | nil => exact cutDouble?_append hpart rest
    | cons second more =>
      obtain ⟨⟨hne, hsecond⟩, -⟩ := List.forall_mem_cons.mp hothers
      have hhead : (join sep (second :: more) ++ rest).head? ≠ some sep := by
        obtain ⟨c, others, rfl⟩ := List.exists_cons_of_ne_nil hne
        have hc : c ≠ sep := (List.ne_of_not_mem_cons hsecond).symm
        cases more <;> simpa [join] using hc
      rw [join_cons_cons, List.append_assoc, List.cons_append, cutDouble?_append hpart,
        cutDouble?_cons hhead, ih hothers, Option.map_map, Option.map_map]
      simp [Function.comp_def]

end RouterAdvert.Text
