import RouterAdvert.World.Basic

/-!
# Named handles

What a name refers to after it has been given or given up, and how much the objects that have names
weigh together. The number of names of an object is such a weight.
-/

namespace RouterAdvert.Handles

variable {α : Type}

def names (hs : Handles α) : List String := hs.map (·.1)

/-- The weights of all named objects together, an object counting once for each of its names. -/
def weigh (weight : α → Nat) : Handles α → Nat
  | [] => 0
  | entry :: rest => weight entry.2 + weigh weight rest

theorem mem_of_get? {hs : Handles α} {name : String} {object : α} (h : hs.get? name = some object) :
    (name, object) ∈ hs := by
  induction hs with
  | nil => simp [get?] at h
  | cons entry rest ih =>
    rcases entry with ⟨other, found⟩
    rw [get?, List.lookup_cons] at h
    by_cases hn : name = other
    · subst hn
      simp only [beq_self_eq_true, Option.some.injEq] at h
      simp [h]
    · rw [beq_eq_false_iff_ne.mpr hn] at h
      exact List.mem_cons_of_mem _ (ih (by simpa [get?] using h))

@[simp] theorem get?_nil (name : String) : get? ([] : Handles α) name = none := rfl

theorem get?_cons (other : String) (object : α) (hs : Handles α) (name : String) :
    get? ((other, object) :: hs) name = if name = other then some object else hs.get? name := by
  by_cases hn : name = other
  · simp [get?, hn]
  · simp [get?, List.lookup_cons, beq_eq_false_iff_ne.mpr hn, hn]

theorem get?_bind (hs : Handles α) (name : String) (object : α) (other : String) :
    (hs.bind name object).get? other = if other = name then some object else hs.get? other := by
  induction hs with
  | nil => simp [bind, get?_cons]
  | cons entry rest ih =>
    rcases entry with ⟨first, found⟩
    unfold bind
    by_cases hn : first = name
    · rw [if_pos hn, get?_cons, get?_cons, hn]
      by_cases ho : other = name <;> simp [ho]
    · rw [if_neg hn, get?_cons, get?_cons, ih]
      by_cases ho : other = first
      · subst ho
        simp [hn]
      · simp [ho]

theorem bind_self {hs : Handles α} {name : String} {object : α} (h : hs.get? name = some object) :
    hs.bind name object = hs := by
  induction hs with
  | nil => simp at h
  | cons entry rest ih =>
    rcases entry with ⟨first, found⟩
    rw [get?_cons] at h
    unfold bind
    by_cases hn : first = name
    · rw [if_pos hn.symm, Option.some.injEq] at h
      rw [if_pos hn, hn, h]
    · rw [if_neg (Ne.symm hn)] at h
      rw [if_neg hn, ih h]

theorem get?_drop (hs : Handles α) (name other : String) :
    (hs.drop name).get? other = if other = name then none else hs.get? other := by
  induction hs with
  | nil => simp [drop]
  | cons entry rest ih =>
    rcases entry with ⟨first, found⟩
    rw [drop] at ih ⊢
    by_cases hn : first = name
    · subst hn
      simp only [List.filter_cons, bne_self_eq_false, Bool.false_eq_true, if_false, ih, get?_cons]
      by_cases ho : other = first <;> simp [ho]
    · simp only [List.filter_cons, bne_iff_ne, ne_eq, hn, not_false_eq_true, if_true, get?_cons, ih]
      by_cases ho : other = first
      · subst ho
        simp [hn]
      · simp [ho]

theorem mem_names_bind {hs : Handles α} {name : String} {object : α} {other : String}
    (h : other ∈ (hs.bind name object).names) : other = name ∨ other ∈ hs.names := by
  induction hs with
  | nil =>
    left
    simpa [names, bind] using h
  | cons entry rest ih =>
    rcases entry with ⟨first, found⟩
    unfold bind at h
    by_cases hn : first = name
    · rw [if_pos hn] at h
      rcases List.mem_cons.mp h with h | h
      · exact .inl h
      · exact .inr (List.mem_cons_of_mem _ h)
    · rw [if_neg hn] at h
      rcases List.mem_cons.mp h with h | h
      · exact .inr (h ▸ List.mem_cons_self)
      · rcases ih h with h | h
        · exact .inl h
        · exact .inr (List.mem_cons_of_mem _ h)

theorem nodup_names_bind {hs : Handles α} (h : hs.names.Nodup) (name : String) (object : α) :
    (hs.bind name object).names.Nodup := by
  induction hs with
  | nil => simp [names, bind]
  | cons entry rest ih =>
    rcases entry with ⟨first, found⟩
    rcases List.nodup_cons.mp h with ⟨hfirst, hrest⟩
    unfold bind
    by_cases hn : first = name
    · rw [if_pos hn]
      exact List.nodup_cons.mpr ⟨hn ▸ hfirst, hrest⟩
    · rw [if_neg hn]
      refine List.nodup_cons.mpr ⟨fun hmem => ?_, ih hrest⟩
      rcases mem_names_bind hmem with hmem | hmem
      · exact hn hmem
      · exact hfirst hmem

theorem nodup_names_drop {hs : Handles α} (h : hs.names.Nodup) (name : String) :
    (hs.drop name).names.Nodup :=
  List.Pairwise.sublist (List.filter_sublist.map _) h

theorem get?_of_mem {hs : Handles α} (h : hs.names.Nodup) {name : String} {object : α}
    (hmem : (name, object) ∈ hs) : hs.get? name = some object := by
  induction hs with
  | nil => simp at hmem
  | cons entry rest ih =>
    rcases entry with ⟨first, found⟩
    rcases List.nodup_cons.mp h with ⟨hfirst, hrest⟩
    rw [get?_cons]
    rcases List.mem_cons.mp hmem with heq | hlater
    · cases heq
      rw [if_pos rfl]
    · have hne : name ≠ first := by
        rintro rfl
        exact hfirst (List.mem_map.mpr ⟨_, hlater, rfl⟩)
      rw [if_neg hne]
      exact ih hrest hlater

@[simp] theorem weigh_nil (weight : α → Nat) : weigh weight [] = 0 := rfl

@[simp] theorem weigh_cons (weight : α → Nat) (entry : String × α) (hs : Handles α) :
    weigh weight (entry :: hs) = weight entry.2 + weigh weight hs := rfl

@[simp] theorem weigh_zero (hs : Handles α) : weigh (fun _ => 0) hs = 0 := by
  induction hs with
  | nil => rfl
  | cons entry rest ih => rw [weigh_cons, ih]

theorem weigh_bind (weight : α → Nat) (hs : Handles α) (name : String) (object : α) :
    weigh weight (hs.bind name object) + (hs.get? name).elim 0 weight
      = weigh weight hs + weight object := by
  induction hs with
  | nil => simp [bind]
  | cons entry rest ih =>
    rcases entry with ⟨first, found⟩
    unfold bind
    by_cases hn : first = name
    · rw [if_pos hn, get?_cons, if_pos hn.symm]
      simp only [weigh_cons, Option.elim_some]
      omega
    · rw [if_neg hn, get?_cons, if_neg (Ne.symm hn)]
      simp only [weigh_cons]
      omega

theorem drop_of_not_mem {hs : Handles α} {name : String} (h : name ∉ hs.names) :
    hs.drop name = hs := by
  refine List.filter_eq_self.mpr fun entry hmem => ?_
  rw [bne_iff_ne]
  rintro rfl
  exact h (List.mem_map_of_mem hmem)

theorem weigh_drop (weight : α → Nat) {hs : Handles α} (h : hs.names.Nodup) (name : String) :
    weigh weight (hs.drop name) + (hs.get? name).elim 0 weight = weigh weight hs := by
  induction hs with
  | nil => simp [drop]
  | cons entry rest ih =>
    rcases entry with ⟨first, found⟩
    rcases List.nodup_cons.mp h with ⟨hfirst, hrest⟩
    by_cases hn : first = name
    · have hdrop : drop ((first, found) :: rest) name = drop rest name := by simp [drop, hn]
      rw [hdrop, drop_of_not_mem (hn ▸ hfirst), get?_cons, if_pos hn.symm]
      simp only [weigh_cons, Option.elim_some]
      omega
    · have hdrop : drop ((first, found) :: rest) name = (first, found) :: drop rest name := by
        simp [drop, hn]
      rw [hdrop, get?_cons, if_neg (Ne.symm hn)]
      simp only [weigh_cons]
      have := ih hrest
      omega

theorem count_eq_weigh [DecidableEq α] (hs : Handles α) (object : α) :
    hs.count object = weigh (fun other => if other = object then 1 else 0) hs := by
  induction hs with
  | nil => rfl
  | cons entry rest ih =>
    rw [weigh_cons, ← ih, count, count, List.countP_cons]
    simp only [decide_eq_true_eq]
    omega

theorem count_pos_of_get? [DecidableEq α] {hs : Handles α} {name : String} {object : α}
    (h : hs.get? name = some object) : 0 < hs.count object :=
  List.countP_pos_iff.mpr ⟨(name, object), mem_of_get? h, by simp⟩

/-- A name that is given to an object counts for it, and no longer for the one that had it. -/
theorem count_bind [DecidableEq α] (hs : Handles α) (name : String) (object other : α) :
    (hs.bind name object).count other + (if hs.get? name = some other then 1 else 0) =
      hs.count other + if object = other then 1 else 0 := by
  have hbind := weigh_bind (fun found => if found = other then 1 else 0) hs name object
  rw [← count_eq_weigh, ← count_eq_weigh] at hbind
  rw [← hbind]
  cases hs.get? name <;> simp

theorem count_drop [DecidableEq α] {hs : Handles α} (h : hs.names.Nodup) (name : String)
    (other : α) :
    (hs.drop name).count other + (if hs.get? name = some other then 1 else 0) = hs.count other := by
  have hdrop := weigh_drop (fun found => if found = other then 1 else 0) h name
  rw [← count_eq_weigh, ← count_eq_weigh] at hdrop
  rw [← hdrop]
  cases hs.get? name <;> simp

theorem count_bind_of_ne [DecidableEq α] {hs : Handles α} {object other : α} (hne : object ≠ other)
    (h : hs.count other = 0) (name : String) : (hs.bind name object).count other = 0 := by
  have hbind := count_bind hs name object other
  rw [h, if_neg hne] at hbind
  omega

theorem count_drop_le [DecidableEq α] (hs : Handles α) (name : String) (object : α) :
    (hs.drop name).count object ≤ hs.count object :=
  List.Sublist.countP_le List.filter_sublist

end RouterAdvert.Handles
