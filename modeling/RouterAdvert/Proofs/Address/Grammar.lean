import RouterAdvert.Proofs.Address.Text
import RouterAdvert.Proofs.Text.Digits
import RouterAdvert.Proofs.Text.Separators

/-!
# Spellings of addresses

The texts that stand for an address: eight groups with colons between them, or fewer with two colons
for the zeros that are left out. The last two groups may be four decimal octets. `read?` accepts
these texts and no others.
-/

namespace RouterAdvert.Address

open Numeral Text

/-- One to four hexadecimal digits stand for a group. -/
def IsGroup (cs : List Char) (group : Nat) : Prop := cs.length ≤ 4 ∧ Denotes 16 cs group

def IsOctet (cs : List Char) (octet : Nat) : Prop :=
  Denotes 10 cs octet ∧ octet ≤ 255 ∧ (cs.head? = some '0' → cs.length = 1)

theorem readGroup?_eq_some_iff {cs : List Char} {group : Nat} :
    readGroup? cs = some group ↔ IsGroup cs group := by
  unfold readGroup? IsGroup
  split <;> simp [*, Numeral.read?_eq_some_iff]

/-- An octet has no more than three digits, as its first digit is not zero. -/
theorem IsOctet.length_le {cs : List Char} {octet : Nat} (h : IsOctet cs octet) :
    cs.length ≤ 3 := by
  obtain ⟨⟨-, digits, hdigits, rfl⟩, hle, hzero⟩ := h
  cases hdigits with
  | nil => exact Nat.zero_le 3
  | @cons c first cs rest hc hrest =>
    by_cases hfirst : first = 0
    · subst hfirst
      have hchar : c = '0' := by
        rcases hc.2 with h | h <;> simpa [lowerDigits, upperDigits] using h.symm
      rw [hzero (by rw [hchar]; rfl)]
      decide
    · have hvalue := @pow_le_value 10 first (Nat.pos_of_ne_zero hfirst) rest
      by_contra hlong
      have hlength : 3 ≤ rest.length := by
        rw [← hrest.length_eq]
        simp at hlong
        omega
      have hpow : Nat.pow 10 3 ≤ Nat.pow 10 rest.length := Nat.pow_le_pow_right (by decide) hlength
      have hbound : Nat.pow 10 3 ≤ 255 := Nat.le_trans hpow (Nat.le_trans hvalue hle)
      exact absurd hbound (by decide)

theorem readOctet?_eq_some_iff {cs : List Char} {octet : Nat} :
    readOctet? cs = some octet ↔ IsOctet cs octet := by
  unfold readOctet?
  constructor
  · intro h
    split at h
    · rename_i hform
      rw [Option.filter_eq_some_iff, Numeral.read?_eq_some_iff, decide_eq_true_eq] at h
      exact ⟨h.1, h.2, hform.2⟩
    · cases h
  · intro h
    rw [if_pos ⟨h.length_le, h.2.2⟩, Option.filter_eq_some_iff, Numeral.read?_eq_some_iff]
    exact ⟨h.1, by simpa using h.2.1⟩

theorem IsGroup.lt {cs : List Char} {group : Nat} (h : IsGroup cs group) : group < 65536 :=
  Nat.lt_of_lt_of_le h.2.lt (Nat.pow_le_pow_right (by decide) h.1)

/-- Four decimal octets with dots between them stand for two groups. -/
def IsDotted (cs : List Char) (groups : List Nat) : Prop :=
  ∃ parts a b c d, List.Forall₂ IsOctet parts [a, b, c, d] ∧ cs = join '.' parts ∧
    groups = [a * 256 + b, c * 256 + d]

theorem readDotted?_eq_some_iff {cs : List Char} {groups : List Nat} :
    readDotted? cs = some groups ↔ IsDotted cs groups := by
  constructor
  · intro h
    unfold readDotted? at h
    split at h
    · rename_i first second third fourth hpieces
      simp only [Option.bind_eq_bind, Option.bind_eq_some_iff, readOctet?_eq_some_iff,
        Option.pure_def, Option.some.injEq] at h
      obtain ⟨a, ha, b, hb, c, hc, d, hd, rfl⟩ := h
      refine ⟨pieces '.' cs, a, b, c, d, ?_, (join_pieces '.' cs).symm, rfl⟩
      rw [hpieces]
      exact .cons ha (.cons hb (.cons hc (.cons hd .nil)))
    · cases h
  · rintro ⟨parts, a, b, c, d, hparts, rfl, rfl⟩
    have hdot : ∀ part ∈ parts, '.' ∉ part := by
      intro part hpart
      obtain ⟨octet, hoctet⟩ := exists_forall₂_iff.mp ⟨_, hparts⟩ part hpart
      exact hoctet.1.not_mem (by decide)
    have hne : parts ≠ [] := List.ne_nil_of_length_eq_add_one hparts.length_eq
    match parts, hparts with
    | [first, second, third, fourth], .cons ha (.cons hb (.cons hc (.cons hd .nil))) =>
      simp only [readDotted?, pieces_join hne hdot, readOctet?_eq_some_iff.mpr ha,
        readOctet?_eq_some_iff.mpr hb, readOctet?_eq_some_iff.mpr hc, readOctet?_eq_some_iff.mpr hd]
      rfl

theorem IsDotted.mem {cs : List Char} {groups : List Nat} (h : IsDotted cs groups) :
    '.' ∈ cs ∧ ∀ c ∈ cs, c = '.' ∨ ∃ digit, IsDigit 10 c digit := by
  obtain ⟨parts, a, b, c, d, hparts, rfl, -⟩ := h
  have hlength : parts.length = 4 := hparts.length_eq
  refine ⟨sep_mem_join (by omega), ?_⟩
  intro e he
  apply (mem_join he).imp_right
  rintro ⟨part, hpart, hmem⟩
  obtain ⟨octet, hoctet⟩ := exists_forall₂_iff.mp ⟨_, hparts⟩ part hpart
  exact hoctet.1.isDigit e hmem

theorem IsDotted.lt {cs : List Char} {groups : List Nat} (h : IsDotted cs groups) :
    ∀ group ∈ groups, group < 65536 := by
  obtain ⟨parts, a, b, c, d, hparts, -, rfl⟩ := h
  match parts, hparts with
  | [_, _, _, _], .cons ha (.cons hb (.cons hc (.cons hd .nil))) =>
    have := ha.2.1
    have := hb.2.1
    have := hc.2.1
    have := hd.2.1
    simp only [List.forall_mem_cons, List.not_mem_nil, false_implies, implies_true, and_true]
    omega

theorem IsDotted.not_isGroup {cs : List Char} {groups : List Nat} (h : IsDotted cs groups)
    (group : Nat) : ¬IsGroup cs group := fun hgroup => hgroup.2.not_mem (by decide) h.mem.1

/-- Parts stand for groups: each for one of them, but the last may be four octets if this is
allowed. -/
inductive Stand (dotted : Bool) : List (List Char) → List Nat → Prop
  | none : Stand dotted [] []
  | group {part : List Char} {group : Nat} {parts : List (List Char)} {groups : List Nat}
      (first : IsGroup part group) (rest : Stand dotted parts groups) :
      Stand dotted (part :: parts) (group :: groups)
  | octets {part : List Char} {groups : List Nat} (allowed : dotted = true)
      (last : IsDotted part groups) : Stand dotted [part] groups

/-- A run is no text, or parts with single colons between them. -/
def Run (dotted : Bool) (cs : List Char) (groups : List Nat) : Prop :=
  ∃ parts, Stand dotted parts groups ∧ cs = join ':' parts

variable {dotted : Bool}

theorem stand_nil_iff {groups : List Nat} : Stand dotted [] groups ↔ groups = [] := by
  constructor
  · intro h
    cases h
    rfl
  · rintro rfl
    exact .none

theorem stand_singleton_iff {last : List Char} {groups : List Nat} :
    Stand dotted [last] groups ↔
      (∃ group, IsGroup last group ∧ groups = [group]) ∨ dotted = true ∧ IsDotted last groups := by
  constructor
  · intro h
    cases h with
    | group first rest =>
      obtain rfl := stand_nil_iff.mp rest
      exact Or.inl ⟨_, first, rfl⟩
    | octets allowed last => exact Or.inr ⟨allowed, last⟩
  · rintro (⟨group, hgroup, rfl⟩ | ⟨hallowed, hlast⟩)
    · exact .group hgroup .none
    · exact .octets hallowed hlast

theorem stand_cons_cons_iff {part second : List Char} {others : List (List Char)}
    {groups : List Nat} : Stand dotted (part :: second :: others) groups ↔
      ∃ group, IsGroup part group ∧ ∃ rest, Stand dotted (second :: others) rest ∧
        group :: rest = groups := by
  constructor
  · intro h
    cases h with
    | group first rest => exact ⟨_, first, _, rest, rfl⟩
  · rintro ⟨group, hgroup, rest, hrest, rfl⟩
    exact .group hgroup hrest

theorem readPieces?_singleton_eq_some_iff {last : List Char} {groups : List Nat} :
    readPieces? dotted [last] = some groups ↔ Stand dotted [last] groups := by
  rw [stand_singleton_iff]
  cases hread : readGroup? last with
  | some group =>
    have hgroup := readGroup?_eq_some_iff.mp hread
    simp only [readPieces?, hread, Option.some.injEq]
    constructor
    · rintro rfl
      exact Or.inl ⟨group, hgroup, rfl⟩
    · rintro (⟨other, hother, rfl⟩ | ⟨-, hdotted⟩)
      · rw [readGroup?_eq_some_iff.mpr hother] at hread
        rw [Option.some.inj hread]
      · exact absurd hgroup (hdotted.not_isGroup group)
  | none =>
    have hnone : ∀ group, ¬IsGroup last group := by
      intro group hgroup
      rw [readGroup?_eq_some_iff.mpr hgroup] at hread
      cases hread
    rw [← readDotted?_eq_some_iff]
    simp only [readPieces?, hread, hnone, false_and, exists_false, false_or]
    cases dotted <;> simp

theorem readPieces?_eq_some_iff {parts : List (List Char)} {groups : List Nat} :
    readPieces? dotted parts = some groups ↔ Stand dotted parts groups := by
  induction parts generalizing groups with
  | nil => rw [stand_nil_iff, readPieces?, Option.some.injEq, eq_comm]
  | cons part rest ih =>
    cases rest with
    | nil => exact readPieces?_singleton_eq_some_iff
    | cons second others =>
      simp only [readPieces?, Option.bind_eq_bind, Option.bind_eq_some_iff, Option.pure_def,
        Option.some.injEq, readGroup?_eq_some_iff, ih, stand_cons_cons_iff]

theorem Stand.parts {parts : List (List Char)} {groups : List Nat} (h : Stand dotted parts groups) :
    ∀ part ∈ parts, part ≠ [] ∧ ':' ∉ part := by
  induction h with
  | none => simp
  | group first _ ih =>
    exact List.forall_mem_cons.mpr ⟨⟨first.2.1, first.2.not_mem (by decide)⟩, ih⟩
  | octets _ last =>
    rw [List.forall_mem_singleton]
    refine ⟨List.ne_nil_of_mem last.mem.1, ?_⟩
    intro hcolon
    rcases last.mem.2 ':' hcolon with hdot | ⟨digit, hdigit⟩
    · exact absurd hdot (by decide)
    · exact hdigit.ne (by decide) rfl

theorem Stand.lt {parts : List (List Char)} {groups : List Nat} (h : Stand dotted parts groups) :
    ∀ group ∈ groups, group < 65536 := by
  induction h with
  | none => simp
  | group first _ ih => exact List.forall_mem_cons.mpr ⟨first.lt, ih⟩
  | octets _ last => exact last.lt

theorem Stand.chars {parts : List (List Char)} {groups : List Nat} (h : Stand dotted parts groups) :
    ∀ part ∈ parts, ∀ c ∈ part, c = '.' ∨ ∃ digit, IsDigit 16 c digit := by
  induction h with
  | none => simp
  | group first _ ih =>
    exact List.forall_mem_cons.mpr ⟨fun c hc => Or.inr (first.2.isDigit c hc), ih⟩
  | octets _ last =>
    rw [List.forall_mem_singleton]
    intro c hc
    apply (last.mem.2 c hc).imp_right
    rintro ⟨digit, hdigit⟩
    exact ⟨digit, hdigit.lt_sixteen, hdigit.2⟩

theorem readRun?_eq_some_iff {cs : List Char} {groups : List Nat} :
    readRun? dotted cs = some groups ↔ Run dotted cs groups := by
  unfold readRun?
  split
  · rename_i hnil
    subst hnil
    constructor
    · intro h
      cases h
      exact ⟨[], .none, rfl⟩
    · rintro ⟨parts, hparts, hjoin⟩
      obtain rfl := eq_nil_of_join_eq_nil (fun part hpart => (hparts.parts part hpart).1) hjoin.symm
      rw [stand_nil_iff.mp hparts]
  · rename_i hne
    rw [readPieces?_eq_some_iff]
    constructor
    · intro h
      exact ⟨pieces ':' cs, h, (join_pieces ':' cs).symm⟩
    · rintro ⟨parts, hparts, rfl⟩
      have hnonempty : parts ≠ [] := by
        rintro rfl
        exact hne rfl
      rw [pieces_join hnonempty fun part hpart => (hparts.parts part hpart).2]
      exact hparts

/-- A text stands for eight groups: all are there, or two colons stand for one zero group or
more. -/
inductive Spells : List Char → List Nat → Prop
  | full {cs : List Char} {groups : List Nat} (run : Run true cs groups)
      (eight : groups.length = 8) : Spells cs groups
  | elided {before after : List Char} {front back : List Nat} {zeros : Nat}
      (head : Run false before front) (tail : Run true after back) (some : 1 ≤ zeros)
      (eight : front.length + zeros + back.length = 8) :
      Spells (before ++ ':' :: ':' :: after) (front ++ List.replicate zeros 0 ++ back)

theorem Run.cutDouble? {cs : List Char} {groups : List Nat} (h : Run dotted cs groups)
    (rest : List Char) : Text.cutDouble? ':' (cs ++ rest) =
      (Text.cutDouble? ':' rest).map fun (before, after) => (cs ++ before, after) := by
  obtain ⟨parts, hparts, rfl⟩ := h
  exact cutDouble?_join_append hparts.parts rest

theorem readGroups?_eq_some_iff {cs : List Char} {groups : List Nat} :
    readGroups? cs = some groups ↔ Spells cs groups := by
  constructor
  · intro h
    unfold readGroups? at h
    split at h
    · simp only [Option.filter_eq_some_iff, readRun?_eq_some_iff, decide_eq_true_eq] at h
      exact .full h.1 h.2
    · rename_i before after hcut
      obtain rfl := cutDouble?_eq_some hcut
      simp only [Option.bind_eq_bind, Option.bind_eq_some_iff, readRun?_eq_some_iff] at h
      obtain ⟨front, hfront, back, hback, hgroups⟩ := h
      split at hgroups
      · cases hgroups
        exact .elided hfront hback (by omega) (by omega)
      · cases hgroups
  · intro h
    cases h with
    | full run eight =>
      have hcut : Text.cutDouble? ':' cs = none := by
        have hrun := run.cutDouble? []
        rw [List.append_nil] at hrun
        exact hrun
      simp only [readGroups?, hcut, Option.filter_eq_some_iff, decide_eq_true_eq]
      exact ⟨readRun?_eq_some_iff.mpr run, eight⟩
    | @elided before after front back zeros head tail some eight =>
      have hcut : Text.cutDouble? ':' (before ++ ':' :: ':' :: after) = .some (before, after) := by
        rw [head.cutDouble?]
        simp [Text.cutDouble?]
      have hzeros : 8 - front.length - back.length = zeros := by omega
      simp only [readGroups?, hcut, readRun?_eq_some_iff.mpr head, readRun?_eq_some_iff.mpr tail,
        Option.bind_eq_bind, Option.bind_some, hzeros]
      exact if_pos (by omega)

theorem Run.lt {cs : List Char} {groups : List Nat} (h : Run dotted cs groups) :
    ∀ group ∈ groups, group < 65536 := by
  obtain ⟨parts, hparts, -⟩ := h
  exact hparts.lt

theorem Run.chars {cs : List Char} {groups : List Nat} (h : Run dotted cs groups) :
    ∀ c ∈ cs, c = ':' ∨ c = '.' ∨ ∃ digit, IsDigit 16 c digit := by
  obtain ⟨parts, hparts, rfl⟩ := h
  intro c hc
  apply (mem_join hc).imp_right
  rintro ⟨part, hpart, hmem⟩
  exact hparts.chars part hpart c hmem

theorem Spells.groups {cs : List Char} {groups : List Nat} (h : Spells cs groups) :
    groups.length = 8 ∧ ∀ group ∈ groups, group < 65536 := by
  cases h with
  | full run eight => exact ⟨eight, run.lt⟩
  | elided head tail _ eight =>
    rw [List.length_append, List.length_append, List.length_replicate]
    refine ⟨eight, ?_⟩
    intro group hgroup
    rcases List.mem_append.mp hgroup with hfront | hback
    · rcases List.mem_append.mp hfront with hfront | hzero
      · exact head.lt group hfront
      · rw [List.eq_of_mem_replicate hzero]
        decide
    · exact tail.lt group hback

theorem Spells.chars {cs : List Char} {groups : List Nat} (h : Spells cs groups) :
    ∀ c ∈ cs, c = ':' ∨ c = '.' ∨ ∃ digit, IsDigit 16 c digit := by
  cases h with
  | full run _ => exact run.chars
  | elided head tail =>
    intro c hc
    rcases List.mem_append.mp hc with hbefore | hafter
    · exact head.chars c hbefore
    · rcases List.mem_cons.mp hafter with hcolon | hafter
      · exact Or.inl hcolon
      · rcases List.mem_cons.mp hafter with hcolon | hafter
        · exact Or.inl hcolon
        · exact tail.chars c hafter

theorem groups_ofGroups {groups : List Nat} (height : groups.length = 8)
    (h : ∀ group ∈ groups, group < 65536) : (ofGroups groups).groups = groups := by
  have hlt : value 65536 groups < Nat.pow 65536 8 := height ▸ value_lt h
  have hnumber : (ofGroups groups).toNat = value 65536 groups := by
    rw [ofGroups, ofNat, toNat, BitVec.toNat_ofNat]
    exact Nat.mod_eq_of_lt hlt
  rw [Address.groups, hnumber, ← height]
  exact fixed_value h

/-- A text is read as an address exactly if it stands for its groups. -/
theorem read?_eq_some_iff {cs : List Char} {a : Address} : read? cs = some a ↔ Spells cs a.groups := by
  rw [read?, Option.map_eq_some_iff]
  constructor
  · rintro ⟨groups, hread, rfl⟩
    have hspells := readGroups?_eq_some_iff.mp hread
    rw [groups_ofGroups hspells.groups.1 hspells.groups.2]
    exact hspells
  · intro h
    exact ⟨a.groups, readGroups?_eq_some_iff.mpr h, ofGroups_groups a⟩

theorem read?_eq_none_iff {cs : List Char} :
    read? cs = none ↔ ¬∃ a : Address, Spells cs a.groups := by
  simp only [Option.eq_none_iff_forall_ne_some, ne_eq, read?_eq_some_iff, not_exists]

end RouterAdvert.Address
