import RouterAdvert.Address
import RouterAdvert.Proofs.Text.Reading

/-!
# Texts of addresses

Every address is read back from its canonical text, in each of the three forms that it may have: all
groups written out, a block of zeros elided, or dotted octets at the end.
-/

namespace RouterAdvert.Address

open Numeral Text

theorem readGroup?_write {group : Nat} (h : group < 65536) :
    readGroup? (write 16 group) = some group := by
  have hlength : (write 16 group).length ≤ 4 := by
    rw [write, List.length_map]
    exact length_minimal_le (by decide) h
  rw [readGroup?, if_pos hlength, read?_write (by decide) (by decide)]

/-- The digits of a number begin with the character of zero only if the number is zero. -/
theorem head?_write {n : Nat} (h : (write 10 n).head? = some '0') : n = 0 := by
  rw [write, List.head?_map, Option.map_eq_some_iff] at h
  obtain ⟨d, hd, hzero⟩ := h
  have hlt : d < 10 := minimal_lt (by decide) n d (List.mem_of_head? hd)
  have hvalue := digitValue?_digitChar d (by omega)
  rw [hzero] at hvalue
  cases hvalue
  exact head?_minimal (by decide) hd

theorem readOctet?_write {octet : Nat} (h : octet < 256) :
    readOctet? (write 10 octet) = some octet := by
  have hlength : (write 10 octet).length ≤ 3 := by
    rw [write, List.length_map]
    exact length_minimal_le (by decide) (Nat.lt_of_lt_of_le h (by decide))
  have hzero : (write 10 octet).head? = some '0' → (write 10 octet).length = 1 := by
    intro hhead
    rw [head?_write hhead, write, minimal_of_lt (by decide)]
    rfl
  rw [readOctet?, if_pos ⟨hlength, hzero⟩, read?_write (by decide) (by decide)]
  simp only [Option.filter_some, decide_eq_true_eq]
  rw [if_pos (by omega)]

section Dotted

variable {high low : Nat} (hhigh : high < 65536) (hlow : low < 65536)

theorem not_mem_dottedText {c : Char} (hdigit : digitValue? c = none) (hdot : c ≠ '.')
    (high low : Nat) : c ∉ dottedText high low :=
  not_mem_join hdot (not_mem_map_write (by decide) (by decide) hdigit _)

theorem pieces_dottedText (high low : Nat) : pieces '.' (dottedText high low) =
    [high / 256, high % 256, low / 256, low % 256].map (write 10) :=
  pieces_join (by simp) (not_mem_map_write (by decide) (by decide) (by decide) _)

theorem readGroup?_dottedText (high low : Nat) : readGroup? (dottedText high low) = none := by
  have hone : ∀ n, 1 ≤ (write 10 n).length := fun n =>
    List.length_pos_iff.mpr (write_ne_nil 10 n)
  have hlong : ¬(dottedText high low).length ≤ 4 := by
    have := hone (high / 256)
    have := hone (high % 256)
    have := hone (low / 256)
    have := hone (low % 256)
    simp only [dottedText, List.map_cons, List.map_nil, join, List.length_append, List.length_cons]
    omega
  rw [readGroup?, if_neg hlong]

include hhigh hlow

theorem readDotted?_dottedText : readDotted? (dottedText high low) = some [high, low] := by
  have hread : ∀ n < 256, readOctet? (write 10 n) = some n := fun n h => readOctet?_write h
  simp only [readDotted?, pieces_dottedText, List.map_cons, List.map_nil,
    hread (high / 256) (by omega), hread (high % 256) (by omega), hread (low / 256) (by omega),
    hread (low % 256) (by omega)]
  change some [high / 256 * 256 + high % 256, low / 256 * 256 + low % 256] = _
  rw [Nat.div_add_mod', Nat.div_add_mod']

end Dotted

theorem readPieces?_map_write (dotted : Bool) {groups : List Nat} (h : ∀ g ∈ groups, g < 65536) :
    readPieces? dotted (groups.map (write 16)) = some groups := by
  induction groups with
  | nil => rfl
  | cons group rest ih =>
    obtain ⟨hgroup, hrest⟩ := List.forall_mem_cons.mp h
    cases rest with
    | nil =>
      simp only [List.map_cons, List.map_nil, readPieces?, readGroup?_write hgroup]
    | cons second others =>
      have htail := ih hrest
      rw [List.map_cons] at htail
      simp only [List.map_cons, readPieces?, readGroup?_write hgroup, htail]
      rfl

/-- The parts that are written between colons are not empty and have no colon in them. -/
theorem part_of_groups (groups : List Nat) :
    ∀ part ∈ groups.map (write 16), part ≠ [] ∧ ':' ∉ part := by
  intro part hpart
  obtain ⟨n, -, rfl⟩ := List.mem_map.mp hpart
  exact ⟨write_ne_nil 16 n, not_mem_write (by decide) (by decide) (by decide) n⟩

theorem groupsText_ne_nil {groups : List Nat} (h : groups ≠ []) : groupsText groups ≠ [] := by
  obtain ⟨group, rest, rfl⟩ := List.exists_cons_of_ne_nil h
  cases rest with
  | nil => exact write_ne_nil 16 group
  | cons second others => simp [groupsText, join]

theorem readRun?_groupsText (dotted : Bool) {groups : List Nat} (h : ∀ g ∈ groups, g < 65536) :
    readRun? dotted (groupsText groups) = some groups := by
  by_cases hne : groups = []
  · subst hne
    rfl
  · have hpieces : pieces ':' (groupsText groups) = groups.map (write 16) :=
      pieces_join (by simpa using hne) fun part hpart => (part_of_groups groups part hpart).2
    rw [readRun?, if_neg (groupsText_ne_nil hne), hpieces, readPieces?_map_write dotted h]

theorem leadingZeros_split (groups : List Nat) :
    List.replicate (leadingZeros groups) 0 ++ groups.drop (leadingZeros groups) = groups := by
  induction groups with
  | nil => rfl
  | cons group rest ih =>
    by_cases hzero : group = 0
    · subst hzero
      have hlength : leadingZeros (0 :: rest) = leadingZeros rest + 1 := by simp [leadingZeros]
      rw [hlength, List.replicate_succ, List.drop_succ_cons, List.cons_append, ih]
    · have hlength : leadingZeros (group :: rest) = 0 := by simp [leadingZeros, hzero]
      rw [hlength]
      rfl

theorem longestZeros_split (groups : List Nat) :
    groups.take (longestZeros groups).1 ++ (List.replicate (longestZeros groups).2 0 ++
      groups.drop ((longestZeros groups).1 + (longestZeros groups).2)) = groups := by
  induction groups with
  | nil => rfl
  | cons group rest ih =>
    simp only [longestZeros]
    split
    · simp only [List.take_zero, List.nil_append, Nat.zero_add]
      exact leadingZeros_split (group :: rest)
    · have hskip : (longestZeros rest).1 + 1 + (longestZeros rest).2 =
          (longestZeros rest).1 + (longestZeros rest).2 + 1 := by omega
      simp only [List.take_succ_cons, hskip, List.drop_succ_cons, List.cons_append, ih]

/-- Eight groups are read back, with or without a block of zeros elided. -/
theorem readGroups?_elidedText {groups : List Nat} (height : groups.length = 8)
    (h : ∀ g ∈ groups, g < 65536) : readGroups? (elidedText groups) = some groups := by
  simp only [elidedText]
  split
  · -- No two colons are adjacent where all groups are written.
    have hcut : cutDouble? ':' (groupsText groups) = none := by
      have hjoin := cutDouble?_join_append (part_of_groups groups) []
      rw [List.append_nil] at hjoin
      exact hjoin
    simp only [readGroups?, hcut, readRun?_groupsText true h, Option.filter_some, height,
      decide_true, if_true]
  · rename_i hlong
    have hsplit := longestZeros_split groups
    generalize hfront : groups.take (longestZeros groups).1 = front at hsplit ⊢
    generalize hback : groups.drop ((longestZeros groups).1 + (longestZeros groups).2) = back
      at hsplit ⊢
    generalize (longestZeros groups).2 = zeros at hsplit hlong
    have hlength : front.length + (zeros + back.length) = 8 := by
      rw [← height, ← hsplit, List.length_append, List.length_append, List.length_replicate]
    have hcut : cutDouble? ':' (groupsText front ++ [':', ':'] ++ groupsText back) =
        some (groupsText front, groupsText back) := by
      have hjoin := cutDouble?_join_append (part_of_groups front) (':' :: ':' :: groupsText back)
      rw [List.append_assoc]
      refine hjoin.trans ?_
      simp [cutDouble?, groupsText]
    have hreadFront : readRun? false (groupsText front) = some front :=
      readRun?_groupsText false fun g hg => h g (by
        rw [← hsplit]
        exact List.mem_append_left _ hg)
    have hreadBack : readRun? true (groupsText back) = some back :=
      readRun?_groupsText true fun g hg => h g (by
        rw [← hsplit]
        exact List.mem_append_right _ (List.mem_append_right _ hg))
    have hroom : front.length + back.length ≤ 7 := by omega
    have hzeros : 8 - front.length - back.length = zeros := by omega
    simp only [readGroups?, hcut, hreadFront, hreadBack]
    change (if front.length + back.length ≤ 7 then _ else none) = _
    rw [if_pos hroom, hzeros, List.append_assoc]
    exact congrArg some hsplit

theorem length_groups (a : Address) : a.groups.length = 8 := length_fixed 65536 8 _

theorem groups_lt (a : Address) : ∀ g ∈ a.groups, g < 65536 := fixed_lt (by decide) 8 _

theorem ofGroups_groups (a : Address) : ofGroups a.groups = a := by
  have hlt : a.toNat < Nat.pow 65536 8 := a.bits.isLt
  rw [ofGroups, groups, value_fixed, Nat.mod_eq_of_lt hlt, ofNat, toNat, BitVec.ofNat_toNat,
    BitVec.setWidth_eq]

theorem readGroups?_mapped {high low : Nat} (hhigh : high < 65536) (hlow : low < 65536) :
    readGroups? ([':', ':', 'f', 'f', 'f', 'f', ':'] ++ dottedText high low) =
      some [0, 0, 0, 0, 0, 65535, high, low] := by
  have hcolon : ':' ∉ dottedText high low := not_mem_dottedText (by decide) (by decide) high low
  have hpieces : pieces ':' (['f', 'f', 'f', 'f', ':'] ++ dottedText high low) =
      [['f', 'f', 'f', 'f'], dottedText high low] := by
    have hmark : ':' ∉ ['f', 'f', 'f', 'f'] := by decide
    have hcut := pieces_append hmark (dottedText high low)
    rw [pieces_of_not_mem hcolon] at hcut
    exact hcut
  have hback : readRun? true (['f', 'f', 'f', 'f', ':'] ++ dottedText high low) =
      some [65535, high, low] := by
    have hgroup : readGroup? ['f', 'f', 'f', 'f'] = some 65535 := by decide
    rw [readRun?, if_neg (by simp), hpieces]
    simp only [readPieces?, hgroup, readGroup?_dottedText, if_true, readDotted?_dottedText hhigh hlow]
    rfl
  have hcut : cutDouble? ':' ([':', ':', 'f', 'f', 'f', 'f', ':'] ++ dottedText high low) =
      some ([], ['f', 'f', 'f', 'f', ':'] ++ dottedText high low) := by
    simp [cutDouble?]
  simp only [readGroups?, hcut, hback]
  rfl

/-- An address is read back from its canonical text. -/
theorem read?_chars (a : Address) : read? a.chars = some a := by
  have hread : readGroups? a.chars = some a.groups := by
    unfold chars
    split
    · rename_i high low hgroups
      have hlt := a.groups_lt
      rw [hgroups] at hlt ⊢
      exact readGroups?_mapped (hlt high (by simp)) (hlt low (by simp))
    · exact readGroups?_elidedText a.length_groups a.groups_lt
  rw [read?, hread, Option.map_some, ofGroups_groups]

/-- A text of an address has digits, colons and dots in it and nothing else. -/
theorem not_mem_chars {c : Char} (hdigit : digitValue? c = none) (hcolon : c ≠ ':') (hdot : c ≠ '.')
    (a : Address) : c ∉ a.chars := by
  have hgroups : ∀ groups : List Nat, c ∉ groupsText groups := fun groups =>
    not_mem_join hcolon (not_mem_map_write (by decide) (by decide) hdigit groups)
  unfold chars
  split
  · rename_i high low hmapped
    have hf : c ≠ 'f' := by
      rintro rfl
      cases hdigit
    simp [hcolon, hf, not_mem_dottedText hdigit hdot high low]
  · simp only [elidedText]
    split
    · exact hgroups _
    · simp [hcolon, hgroups]

end RouterAdvert.Address
