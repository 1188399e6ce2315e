import RouterAdvert.Proofs.Text.Reading

/-!
# Texts with separators

What a text that was joined from parts is made of, and which texts can be cut: where a separator is
found in a text, and where two adjacent ones are.
-/

namespace RouterAdvert.Text

variable {sep : Char}

theorem sep_mem_join {parts : List (List Char)} (h : 2 ≤ parts.length) : sep ∈ join sep parts := by
  match parts, h with
  | part :: second :: others, _ => simp [join]

theorem mem_join {c : Char} {parts : List (List Char)} (h : c ∈ join sep parts) :
    c = sep ∨ ∃ part ∈ parts, c ∈ part := by
  by_cases hc : c = sep
  · exact Or.inl hc
  · by_cases hpart : ∃ part ∈ parts, c ∈ part
    · exact Or.inr hpart
    · exact absurd h (not_mem_join hc fun part hmem hin => hpart ⟨part, hmem, hin⟩)

theorem eq_nil_of_join_eq_nil {parts : List (List Char)} (h : ∀ part ∈ parts, part ≠ [])
    (hjoin : join sep parts = []) : parts = [] := by
  match parts with
  | [] => rfl
  | [last] => exact absurd hjoin (h last (by simp))
  | part :: second :: others => simp [join] at hjoin

theorem map_join (f : Char → Char) (sep : Char) (parts : List (List Char)) :
    (join sep parts).map f = join (f sep) (parts.map (·.map f)) := by
  induction parts with
  | nil => rfl
  | cons part rest ih =>
    cases rest with
    | nil => rfl
    | cons second others =>
      rw [join_cons_cons, List.map_append, List.map_cons, ih]
      rfl

theorem cut?_eq_none_iff {cs : List Char} : cut? sep cs = none ↔ sep ∉ cs := by
  induction cs with
  | nil => simp [cut?]
  | cons c rest ih =>
    by_cases hc : c = sep
    · simp [cut?, hc]
    · simp [cut?, hc, ih, Ne.symm hc]

theorem cut?_eq_some_iff {cs before after : List Char} :
    cut? sep cs = some (before, after) ↔ cs = before ++ sep :: after ∧ sep ∉ before := by
  constructor
  · intro h
    induction cs generalizing before with
    | nil => simp [cut?] at h
    | cons c rest ih =>
      unfold cut? at h
      split at h
      case isTrue hc =>
        cases h
        exact ⟨by rw [hc]; rfl, List.not_mem_nil⟩
      case isFalse hc =>
        obtain ⟨⟨front, back⟩, hcut, hpair⟩ := Option.map_eq_some_iff.mp h
        cases hpair
        obtain ⟨rfl, hfront⟩ := ih hcut
        exact ⟨rfl, List.not_mem_cons_of_ne_of_not_mem (Ne.symm hc) hfront⟩
  · rintro ⟨rfl, h⟩
    exact cut?_append h after

theorem cutDouble?_eq_some {cs before after : List Char}
    (h : cutDouble? sep cs = some (before, after)) : cs = before ++ sep :: sep :: after := by
  induction cs generalizing before with
  | nil => simp [cutDouble?] at h
  | cons c rest ih =>
    unfold cutDouble? at h
    split at h
    case isTrue hc =>
      obtain ⟨rfl, hrest⟩ := hc
      obtain ⟨others, rfl⟩ := List.head?_eq_some_iff.mp hrest
      cases h
      rfl
    case isFalse =>
      obtain ⟨⟨front, back⟩, hcut, hpair⟩ := Option.map_eq_some_iff.mp h
      cases hpair
      rw [ih hcut]
      rfl

end RouterAdvert.Text
