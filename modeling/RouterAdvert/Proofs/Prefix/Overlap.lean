import RouterAdvert.Prefix

/-!
# Overlap of address ranges

`overlaps` compares two masked addresses. The comparison says that the addresses agree on all bits
that both prefixes fix, and this is so exactly if the two ranges share an address: the address of
the longer prefix is one then.
-/

namespace RouterAdvert.Prefix

theorem significant_le (p : Prefix) : p.significant ≤ 128 := Nat.min_le_right _ _

theorem getMsbD_mask {length : Nat} (h : length ≤ 128) (i : Nat) :
    (mask length).getMsbD i = decide (i < length) := by
  unfold mask maskShift
  by_cases h0 : length = 0
  · simp [h0]
  · rw [if_neg h0, BitVec.getMsbD_shiftLeft, BitVec.getMsbD_allOnes]
    by_cases hi : i < length
    · simp only [hi, decide_true, decide_eq_true_eq]
      omega
    · simp only [hi, decide_false, decide_eq_false_iff_not]
      omega

theorem and_mask_eq_iff {length : Nat} (h : length ≤ 128) (x y : BitVec 128) :
    x &&& mask length = y &&& mask length ↔ ∀ i < length, x.getMsbD i = y.getMsbD i := by
  constructor
  · intro heq i hi
    have hbit := congrArg (BitVec.getMsbD · i) heq
    simpa [BitVec.getMsbD_and, getMsbD_mask h, hi] using hbit
  · intro hbits
    apply BitVec.eq_of_getMsbD_eq
    intro i _
    rw [BitVec.getMsbD_and, BitVec.getMsbD_and, getMsbD_mask h]
    by_cases hi : i < length
    · rw [hbits i hi]
    · simp [hi]

/-- Ranges overlap if the addresses agree on the bits that both prefixes fix. -/
theorem overlaps_iff_bits (p q : Prefix) :
    p.overlaps q = true ↔ ∀ i < min p.significant q.significant,
      p.address.bits.getMsbD i = q.address.bits.getMsbD i := by
  unfold overlaps
  rw [beq_iff_eq]
  exact and_mask_eq_iff (Nat.le_trans (Nat.min_le_left _ _) p.significant_le) _ _

theorem overlaps_comm (p q : Prefix) : p.overlaps q = q.overlaps p := by
  rw [Bool.eq_iff_iff, overlaps_iff_bits, overlaps_iff_bits, Nat.min_comm]
  exact ⟨fun h i hi => (h i hi).symm, fun h i hi => (h i hi).symm⟩

@[simp] theorem overlaps_self (p : Prefix) : p.overlaps p = true := by
  rw [overlaps_iff_bits]
  exact fun _ _ => rfl

theorem covers_address (p : Prefix) : p.Covers p.address := fun _ _ => rfl

/-- If the addresses agree on the bits that both prefixes fix, the range of the longer prefix lies
in that of the shorter one. -/
theorem overlaps.covers_of_le {p q : Prefix} (h : p.overlaps q = true)
    (hle : p.significant ≤ q.significant) {a : Address} (ha : q.Covers a) : p.Covers a := by
  intro i hi
  have hbits := (overlaps_iff_bits p q).mp h i (by omega)
  rw [ha i (by omega), hbits]

/-- `overlaps` decides whether two ranges share an address. -/
theorem overlaps_iff_exists_covers (p q : Prefix) :
    p.overlaps q = true ↔ ∃ a, p.Covers a ∧ q.Covers a := by
  constructor
  · intro h
    by_cases hle : p.significant ≤ q.significant
    · exact ⟨q.address, overlaps.covers_of_le h hle q.covers_address, q.covers_address⟩
    · rw [overlaps_comm] at h
      exact ⟨p.address, p.covers_address,
        overlaps.covers_of_le h (by omega) p.covers_address⟩
  · rintro ⟨a, hp, hq⟩
    rw [overlaps_iff_bits]
    intro i hi
    rw [← hp i (by omega), ← hq i (by omega)]

end RouterAdvert.Prefix
