import RouterAdvert.PrefixSet
import RouterAdvert.Proofs.Prefix.Overlap

/-!
# How prefix sets grow

A set grows by single members whose ranges are free of those before them. Growth keeps ranges
disjoint, and as every range overlaps itself it never repeats a member, even where ranges overlap
because members were changed after they had been added.
-/

namespace RouterAdvert.PrefixSet

def Free (network : PrefixId → Prefix) (members : PrefixSet) (candidate : PrefixId) : Prop :=
  ∀ member ∈ members, (network member).overlaps (network candidate) = false

theorem firstOverlap?_eq_none_iff {network : PrefixId → Prefix} {members : PrefixSet}
    {candidate : PrefixId} :
    members.firstOverlap? network (network candidate) = none ↔ Free network members candidate := by
  rw [firstOverlap?, List.find?_eq_none]
  simp only [Bool.not_eq_true, Free]

/-- A set is a beginning of another one whose further members were added one by one. -/
inductive Grows (network : PrefixId → Prefix) (members : PrefixSet) : PrefixSet → Prop
  | same : Grows network members members
  | add {grown : PrefixSet} {candidate : PrefixId} : Grows network members grown →
      Free network grown candidate → Grows network members (grown ++ [candidate])

variable {network : PrefixId → Prefix} {m n p : PrefixSet}

theorem Grows.trans (h : Grows network m n) (h' : Grows network n p) : Grows network m p := by
  induction h' with
  | same => exact h
  | add _ hfree ih => exact .add ih hfree

theorem grows_add (network : PrefixId → Prefix) (members : PrefixSet) (candidate : PrefixId) :
    Grows network members (members.add network candidate).state := by
  unfold add
  cases h : members.firstOverlap? network (network candidate) with
  | some existing => exact .same
  | none => exact .add .same (firstOverlap?_eq_none_iff.mp h)

/-- No member is in a set twice. A prefix that is a member already would overlap itself. -/
theorem Grows.nodup (h : Grows network m n) (hm : m.Nodup) : n.Nodup := by
  induction h with
  | same => exact hm
  | @add grown candidate _ hfree ih =>
    rw [List.nodup_append]
    refine ⟨ih, List.pairwise_singleton _ _, ?_⟩
    intro member hmember other hother heq
    rw [List.mem_singleton] at hother
    subst hother
    have hself := hfree member hmember
    rw [heq, Prefix.overlaps_self] at hself
    cases hself

/-- The ranges of different places of a set share no address. -/
def Separate (network : PrefixId → Prefix) (members : PrefixSet) : Prop :=
  members.Pairwise fun p q => (network p).overlaps (network q) = false

theorem separate_iff_pairwise_map {network : PrefixId → Prefix} {m : PrefixSet} :
    Separate network m ↔ (m.map network).Pairwise fun p q => p.overlaps q = false := by
  rw [List.pairwise_map]
  rfl

theorem Grows.separate (h : Grows network m n) (hm : Separate network m) : Separate network n := by
  induction h with
  | same => exact hm
  | @add grown candidate _ hfree ih =>
    rw [Separate, List.pairwise_append]
    refine ⟨ih, List.pairwise_singleton _ _, ?_⟩
    intro member hmember other hother
    rw [List.mem_singleton] at hother
    subst hother
    exact hfree member hmember

/-- Separate ranges stay so while the members keep their addresses and lengths. -/
theorem Separate.of_network_eq {network' : PrefixId → Prefix} (h : Separate network m)
    (hsame : ∀ member ∈ m, network' member = network member) : Separate network' m := by
  refine List.Pairwise.imp_of_mem ?_ h
  intro p q hp hq hpq
  rw [hsame p hp, hsame q hq, hpq]

theorem Separate.length_covering_le_one (h : Separate network m) (a : Address) :
    (m.filter fun member => (network member).Covers a).length ≤ 1 := by
  induction m with
  | nil => simp
  | cons first rest ih =>
    obtain ⟨hfirst, hrest⟩ := List.pairwise_cons.mp h
    by_cases hcovers : (network first).Covers a
    · have hnone : (rest.filter fun member => (network member).Covers a) = [] := by
        rw [List.filter_eq_nil_iff]
        intro member hmember hmem
        have hoverlap := (Prefix.overlaps_iff_exists_covers _ _).mpr
          ⟨a, hcovers, of_decide_eq_true hmem⟩
        rw [hfirst member hmember] at hoverlap
        cases hoverlap
      rw [List.filter_cons_of_pos (by simpa using hcovers), hnone]
      simp
    · rw [List.filter_cons_of_neg (by simpa using hcovers)]
      exact ih hrest

end RouterAdvert.PrefixSet
