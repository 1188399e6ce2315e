import RouterAdvert.Proofs.Prefix.Overlap

/-!
# Nested ranges

Two ranges share no address or one of them lies in the other. Which of the two does is told by the
lengths, so `overlaps` and the lengths decide inclusion of ranges, too. All this is computed without
overflow: `checkedOverlaps` has operations that may fail, and they do not.
-/

namespace RouterAdvert.Prefix

/-- Whether the ranges of two prefixes share an address. -/
def Meets (p q : Prefix) : Prop := ∃ a, p.Covers a ∧ q.Covers a

/-- Whether the range of a prefix lies in that of another one. -/
def Within (p q : Prefix) : Prop := ∀ a, p.Covers a → q.Covers a

variable {p q : Prefix}

theorem overlaps_iff_meets : p.overlaps q = true ↔ p.Meets q := overlaps_iff_exists_covers p q

theorem overlaps_eq_false_iff : p.overlaps q = false ↔ ¬p.Meets q := by
  rw [← overlaps_iff_meets, Bool.not_eq_true]

def turnOver (a : Address) (i : Nat) : Address := ⟨a.bits ^^^ (mask (i + 1) ^^^ mask i)⟩

theorem getMsbD_turnOver (a : Address) {i : Nat} (hi : i < 128) (j : Nat) :
    (turnOver a i).bits.getMsbD j = (a.bits.getMsbD j ^^ decide (j = i)) := by
  have hone : (decide (j < i + 1) ^^ decide (j < i)) = decide (j = i) := by
    rcases Nat.lt_trichotomy j i with hlt | heq | hgt
    · simp [hlt, Nat.lt_succ_of_lt hlt, Nat.ne_of_lt hlt]
    · simp [heq]
    · simp [Nat.lt_asymm hgt, Nat.not_lt.mpr (Nat.succ_le_of_lt hgt), Nat.ne_of_gt hgt]
  rw [turnOver, BitVec.getMsbD_xor, BitVec.getMsbD_xor, getMsbD_mask (Nat.succ_le_of_lt hi),
    getMsbD_mask (Nat.le_of_lt hi), hone]

/-- A range lies in another one if the two overlap and the other prefix is not longer. -/
theorem within_iff : p.Within q ↔ p.overlaps q = true ∧ q.significant ≤ p.significant := by
  constructor
  · intro h
    refine ⟨overlaps_iff_meets.mpr ⟨p.address, p.covers_address, h _ p.covers_address⟩,
      Nat.le_of_not_lt ?_⟩
    -- The first bit that only the longer prefix fixes may be turned over in the range of the shorter.
    intro hlt
    have hbit : p.significant < 128 := Nat.lt_of_lt_of_le hlt q.significant_le
    have hturned : p.Covers (turnOver p.address p.significant) := by
      intro i hi
      simp [getMsbD_turnOver p.address hbit, Nat.ne_of_lt hi]
    have hfixed := h _ hturned _ hlt
    rw [← h _ p.covers_address _ hlt, getMsbD_turnOver p.address hbit] at hfixed
    simp at hfixed
  · rintro ⟨hoverlap, hle⟩ a ha
    rw [overlaps_comm] at hoverlap
    exact overlaps.covers_of_le hoverlap hle ha

/-- Of two ranges that share an address one lies in the other. -/
theorem overlaps.within_or_within (h : p.overlaps q = true) : p.Within q ∨ q.Within p := by
  rcases Nat.le_total q.significant p.significant with hle | hle
  · exact .inl (within_iff.mpr ⟨h, hle⟩)
  · exact .inr (within_iff.mpr ⟨overlaps_comm p q ▸ h, hle⟩)

def checkedSub (m n : UInt32) : Option UInt32 := if n ≤ m then some (m - n) else none

def checkedShiftLeft (x : BitVec 128) (n : UInt32) : Option (BitVec 128) :=
  if n < 128 then some (x <<< n.toNat) else none

/-- The mask of so many leading bits, by operations that may fail. -/
def checkedMask (length : UInt8) : Option (BitVec 128) :=
  if length = 0 then some 0
  else (checkedSub 128 length.toUInt32).bind (checkedShiftLeft (BitVec.allOnes 128))

/-- Whether two ranges share an address, by operations that may fail. -/
def checkedOverlaps (p q : Prefix) : Option Bool :=
  (checkedMask (min (min p.length q.length) maxLength)).map fun shared =>
    p.address.bits &&& shared == q.address.bits &&& shared

/-- A length that is not zero and not above 128 gives a shift that the word admits. -/
theorem checkedMask_eq {length : UInt8} (h : length ≤ maxLength) :
    checkedMask length = some (mask length.toNat) := by
  have hle : length.toNat ≤ 128 := UInt8.le_iff_toNat_le.mp h
  unfold checkedMask mask
  by_cases h0 : length = 0
  · subst h0
    rfl
  · have hpos : length.toNat ≠ 0 := fun hzero => h0 (UInt8.toNat_inj.mp hzero)
    have hsub : length.toUInt32 ≤ 128 := by
      rw [UInt32.le_iff_toNat_le, UInt8.toNat_toUInt32]
      exact hle
    have hshift : (128 - length.toUInt32).toNat = maskShift length.toNat := by
      rw [UInt32.toNat_sub_of_le _ _ hsub, UInt8.toNat_toUInt32]
      rfl
    have hbound : 128 - length.toUInt32 < 128 := by
      rw [UInt32.lt_iff_toNat_lt, hshift]
      change 128 - length.toNat < 128
      omega
    rw [if_neg h0, if_neg hpos, checkedSub, if_pos hsub, Option.bind_some, checkedShiftLeft,
      if_pos hbound, hshift]

theorem toNat_min (m n : UInt8) : (min m n).toNat = min m.toNat n.toNat := by
  change (if m ≤ n then m else n).toNat = _
  by_cases h : m ≤ n
  · rw [if_pos h, Nat.min_eq_left (UInt8.le_iff_toNat_le.mp h)]
  · rw [if_neg h, Nat.min_eq_right]
    rw [UInt8.le_iff_toNat_le] at h
    exact Nat.le_of_not_le h

/-- The shorter of two lengths counts as the shorter of what they count as. -/
theorem toNat_min_maxLength (m n : UInt8) :
    (min (min m n) maxLength).toNat = min (min m.toNat 128) (min n.toNat 128) := by
  rw [toNat_min, toNat_min]
  change min (min m.toNat n.toNat) 128 = _
  omega

theorem checkedOverlaps_eq (p q : Prefix) : checkedOverlaps p q = some (p.overlaps q) := by
  have hle : min (min p.length q.length) maxLength ≤ maxLength := by
    rw [UInt8.le_iff_toNat_le, toNat_min_maxLength]
    change _ ≤ 128
    omega
  rw [checkedOverlaps, checkedMask_eq hle, toNat_min_maxLength]
  rfl

/-- The computation of `overlaps` never fails, as wherever there is a shift it is by less than 128.
It tells whether some address agrees with both prefixes on their leading bits, and if one does the
range of the longer prefix lies in that of the shorter one. -/
theorem overlaps_decides_nested_ranges (a b : Address) (la lb : UInt8) :
    let p : Prefix := ⟨a, la⟩
    let q : Prefix := ⟨b, lb⟩
    let shared := min (min la lb) maxLength
    checkedOverlaps p q = some (p.overlaps q) ∧
      (shared ≠ 0 → maskShift shared.toNat < 128) ∧
      (p.overlaps q = true ↔ ∃ x : Address,
        (∀ i < min la.toNat 128, x.bits.getMsbD i = a.bits.getMsbD i) ∧
        ∀ i < min lb.toNat 128, x.bits.getMsbD i = b.bits.getMsbD i) ∧
      (p.overlaps q = true →
        (min lb.toNat 128 ≤ min la.toNat 128 → p.Within q) ∧
        (min la.toNat 128 ≤ min lb.toNat 128 → q.Within p)) := by
  intro p q shared
  refine ⟨checkedOverlaps_eq p q, ?_, overlaps_iff_meets, ?_⟩
  · intro hshared
    have hpos : shared.toNat ≠ 0 := fun hzero => hshared (UInt8.toNat_inj.mp hzero)
    unfold maskShift
    omega
  · intro h
    refine ⟨fun hle => within_iff.mpr ⟨h, hle⟩, fun hle => ?_⟩
    exact within_iff.mpr ⟨overlaps_comm p q ▸ h, hle⟩

/-- Here one length counts as 128, and the other is the only one for which there is no shift. -/
theorem overlaps_decides_nested_ranges_of_extremes :
    let all : Prefix := ⟨.ofGroups [0x2001, 0xdb8, 0, 0, 0, 0, 0, 0], 0⟩
    let one : Prefix := ⟨.ofGroups [0xff02, 0, 0, 0, 0, 0, 0, 1], 200⟩
    let next : Prefix := ⟨.ofGroups [0xff02, 0, 0, 0, 0, 0, 0, 2], 129⟩
    checkedOverlaps all one = some true ∧ one.Within all ∧
      maskShift (min (min 200 129) maxLength).toNat < 128 ∧ checkedOverlaps one next = some false ∧
      ¬one.Meets next := by
  intro all one next
  obtain ⟨hcomputed, -, -, hnested⟩ :=
    overlaps_decides_nested_ranges all.address one.address all.length one.length
  obtain ⟨happart, hshift, hshared, -⟩ :=
    overlaps_decides_nested_ranges one.address next.address one.length next.length
  have htrue : all.overlaps one = true := by decide
  have hfalse : one.overlaps next = false := by decide
  exact ⟨hcomputed.trans (congrArg some htrue), (hnested htrue).2 (by decide), hshift (by decide),
    happart.trans (congrArg some hfalse),
    fun h => Bool.false_ne_true (hfalse.symm.trans (hshared.mpr h))⟩

end RouterAdvert.Prefix
