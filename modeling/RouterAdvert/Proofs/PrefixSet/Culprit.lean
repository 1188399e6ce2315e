import RouterAdvert.Proofs.Prefix.Nesting
import RouterAdvert.Proofs.PrefixSet.Growth

/-!
# The member that stands in the way

A set that refuses a prefix names the first member whose range overlaps that of the prefix. If the
ranges of the members share no address, this tells how the prefix lies: it is inside the member that
is named, or all members that overlap it are inside the prefix.
-/

namespace RouterAdvert.PrefixSet

variable {network : PrefixId → Prefix} {members : PrefixSet}

/-- The member that is found overlaps, and no member before it does. -/
theorem firstOverlap?_eq_some_iff {candidate : Prefix} {m : PrefixId} :
    members.firstOverlap? network candidate = some m ↔
      ∃ before after, members = before ++ m :: after ∧ (network m).overlaps candidate = true ∧
        ∀ other ∈ before, (network other).overlaps candidate = false := by
  rw [firstOverlap?, List.find?_eq_some_iff_append]
  simp only [Bool.not_eq_eq_eq_not, Bool.not_true]
  constructor
  · rintro ⟨hm, before, after, hmembers, hbefore⟩
    exact ⟨before, after, hmembers, hm, hbefore⟩
  · rintro ⟨before, after, hmembers, hm, hbefore⟩
    exact ⟨hm, before, after, hmembers, hbefore⟩

/-- Members whose ranges overlap are one member if all ranges are separate. -/
theorem Separate.eq_of_overlaps (h : Separate network members) {m n : PrefixId} (hm : m ∈ members)
    (hn : n ∈ members) (hoverlap : (network m).overlaps (network n) = true) : m = n := by
  induction members with
  | nil => cases hm
  | cons first rest ih =>
    obtain ⟨hfirst, hrest⟩ := List.pairwise_cons.mp h
    rcases List.mem_cons.mp hm with rfl | hmrest
    · rcases List.mem_cons.mp hn with rfl | hnrest
      · rfl
      · rw [hfirst n hnrest] at hoverlap
        cases hoverlap
    · rcases List.mem_cons.mp hn with rfl | hnrest
      · rw [Prefix.overlaps_comm, hfirst m hmrest] at hoverlap
        cases hoverlap
      · exact ih hrest hmrest hnrest

/-- If a member overlaps a prefix and all ranges are separate, the prefix lies in this member and
overlaps no other one, or all members that it overlaps are strictly inside it. -/
theorem Separate.overlap_cases (h : Separate network members) {m : PrefixId} (hm : m ∈ members)
    {candidate : Prefix} (hoverlap : (network m).overlaps candidate = true) :
    ((∀ n ∈ members, (network n).overlaps candidate = true → n = m) ∧
        candidate.Within (network m)) ∨
      ∀ n ∈ members, (network n).overlaps candidate = true →
        (network n).Within candidate ∧ ¬candidate.Within (network n) := by
  -- A range in which the prefix lies meets all ranges that the prefix meets.
  have honly : ∀ n ∈ members, candidate.Within (network n) →
      ∀ k ∈ members, (network k).overlaps candidate = true → k = n := by
    intro n hn hwithin k hk hoverlaps
    obtain ⟨a, hka, ha⟩ := Prefix.overlaps_iff_meets.mp hoverlaps
    exact h.eq_of_overlaps hk hn (Prefix.overlaps_iff_meets.mpr ⟨a, hka, hwithin a ha⟩)
  by_cases hwithin : candidate.Within (network m)
  · exact .inl ⟨honly m hm hwithin, hwithin⟩
  · right
    intro n hn hoverlaps
    have hnot : ¬candidate.Within (network n) := by
      intro hinside
      rw [honly n hn hinside m hm hoverlap] at hwithin
      exact hwithin hinside
    exact ⟨(Prefix.overlaps.within_or_within hoverlaps).resolve_right hnot, hnot⟩

theorem separate_iff_not_meets :
    Separate network members ↔ members.Pairwise fun m n => ¬(network m).Meets (network n) := by
  simp only [Separate, Prefix.overlaps_eq_false_iff]

end RouterAdvert.PrefixSet
