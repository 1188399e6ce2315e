import RouterAdvert.LinkAddress
import RouterAdvert.Proofs.Text.Digits
import RouterAdvert.Proofs.Text.Separators

/-!
# Texts of link-layer addresses

A text is read as an address exactly if it is six groups of two hexadecimal digits with colons or
with hyphens between them. The address has one canonical text, which is the text that was read but
for its case and its separators. A reading that checks the octets of each group first and then reads
it as a number gives the same, and has nothing left to refuse at the second of these steps.
-/

namespace RouterAdvert.LinkAddress

open Numeral Text

/-- Two hexadecimal digits that stand for an octet. -/
def IsGroup (group : List Char) (octet : UInt8) : Prop :=
  group.length = 2 ∧ Denotes 16 group octet.toNat

theorem isGroup_iff {group : List Char} {octet : UInt8} :
    IsGroup group octet ↔ ∃ high low h l, group = [high, low] ∧ IsDigit 16 high h ∧
      IsDigit 16 low l ∧ octet = UInt8.ofNat (h * 16 + l) := by
  constructor
  · rintro ⟨hlength, -, digits, hdigits, hvalue⟩
    match group, hlength with
    | [high, low], _ =>
      obtain ⟨h, rest, hhigh, hrest, rfl⟩ := List.forall₂_cons_left_iff.mp hdigits
      obtain ⟨l, others, hlow, hothers, rfl⟩ := List.forall₂_cons_left_iff.mp hrest
      obtain rfl := List.forall₂_nil_left_iff.mp hothers
      have hsum : h * 16 + l = octet.toNat := by simpa [value] using hvalue
      refine ⟨high, low, h, l, rfl, hhigh, hlow, ?_⟩
      rw [hsum, UInt8.ofNat_toNat]
  · rintro ⟨high, low, h, l, rfl, hhigh, hlow, rfl⟩
    have hh := hhigh.lt_sixteen
    have hl := hlow.lt_sixteen
    refine ⟨rfl, by simp, [h, l], .cons hhigh (.cons hlow .nil), ?_⟩
    rw [UInt8.toNat_ofNat_of_lt' (by omega : h * 16 + l < 256)]
    simp [value]

theorem readPair?_eq_some_iff {group : List Char} {octet : UInt8} :
    readPair? group = some octet ↔ IsGroup group octet := by
  rw [isGroup_iff]
  constructor
  · intro hread
    unfold readPair? at hread
    split at hread
    · rename_i high low
      simp only [Octets.ofHexPair?, Option.bind_eq_bind, Option.bind_eq_some_iff, Option.pure_def,
        Option.some.injEq] at hread
      obtain ⟨h, hhigh, l, hlow, hoctet⟩ := hread
      exact ⟨high, low, h, l, rfl, isDigit_sixteen_iff.mpr hhigh, isDigit_sixteen_iff.mpr hlow,
        hoctet.symm⟩
    · cases hread
  · rintro ⟨high, low, h, l, rfl, hhigh, hlow, rfl⟩
    rw [readPair?, Octets.ofHexPair?, isDigit_sixteen_iff.mp hhigh, isDigit_sixteen_iff.mp hlow]
    rfl

theorem exists_isGroup_iff {group : List Char} : (∃ octet, IsGroup group octet) ↔
    group.length = 2 ∧ ∀ c ∈ group, ∃ digit, IsDigit 16 c digit := by
  constructor
  · rintro ⟨octet, hgroup⟩
    obtain ⟨high, low, h, l, rfl, hhigh, hlow, -⟩ := isGroup_iff.mp hgroup
    exact ⟨rfl, by simpa using ⟨⟨h, hhigh⟩, l, hlow⟩⟩
  · rintro ⟨hlength, hdigits⟩
    match group, hlength with
    | [high, low], _ =>
      obtain ⟨⟨h, hhigh⟩, hrest⟩ := List.forall_mem_cons.mp hdigits
      obtain ⟨l, hlow⟩ := hrest low (by simp)
      exact ⟨_, isGroup_iff.mpr ⟨high, low, h, l, rfl, hhigh, hlow, rfl⟩⟩

/-- The groups of a text, between which there is one kind of separator, stand for octets. -/
def Spells (cs : List Char) (octets : List UInt8) : Prop :=
  ∃ groups, List.Forall₂ IsGroup groups octets ∧ (cs = join ':' groups ∨ cs = join '-' groups)

theorem not_mem_groups {groups : List (List Char)} {octets : List UInt8}
    (h : List.Forall₂ IsGroup groups octets) {c : Char} (hc : digitValue? c = none) :
    ∀ group ∈ groups, c ∉ group := by
  intro group hgroup
  obtain ⟨octet, -, hdigits⟩ := exists_forall₂_iff.mp ⟨octets, h⟩ group hgroup
  exact hdigits.not_mem hc

theorem read?_eq_some_iff {cs : List Char} {a : LinkAddress} :
    read? cs = some a ↔ Spells cs a.octets := by
  constructor
  · intro hread
    unfold read? at hread
    split at hread
    · rename_i b c d e f g hgroups
      obtain rfl := Option.some.inj hread
      simp only [mapM_eq_some_iff, readPair?_eq_some_iff] at hgroups
      refine ⟨pieces (separator cs) cs, hgroups, ?_⟩
      unfold separator
      split
      · exact Or.inl (join_pieces _ _).symm
      · exact Or.inr (join_pieces _ _).symm
    · cases hread
  · rintro ⟨groups, hgroups, hcs⟩
    have hsix : groups.length = 6 := hgroups.length_eq
    have hne : groups ≠ [] := List.ne_nil_of_length_eq_add_one hsix
    have hcolon := not_mem_groups hgroups (c := ':') (by decide)
    have hhyphen := not_mem_groups hgroups (c := '-') (by decide)
    have hpieces : pieces (separator cs) cs = groups := by
      rcases hcs with rfl | rfl
      · rw [separator, if_pos (sep_mem_join (by omega)), pieces_join hne hcolon]
      · rw [separator, if_neg (not_mem_join (by decide) hcolon), pieces_join hne hhyphen]
    have hoctets : groups.mapM readPair? = some a.octets := by
      simpa only [mapM_eq_some_iff, readPair?_eq_some_iff] using hgroups
    rw [read?, hpieces, hoctets]
    rfl

def normalChar (c : Char) : Char := if c = '-' then ':' else c.toLower

/-- A text with colons for hyphens and in lower case. -/
def normal (cs : List Char) : List Char := cs.map normalChar

theorem normalChar_of_isDigit {c : Char} {digit : Nat} (h : IsDigit 16 c digit) :
    normalChar c = digitChar digit := by
  rw [normalChar, if_neg (h.ne (by decide)), h.toLower]

theorem IsGroup.normal_eq {group : List Char} {octet : UInt8} (h : IsGroup group octet) :
    normal group = Octets.hexPair octet := by
  obtain ⟨high, low, d, e, rfl, hhigh, hlow, rfl⟩ := isGroup_iff.mp h
  have hd := hhigh.lt_sixteen
  have he := hlow.lt_sixteen
  have hvalue : (UInt8.ofNat (d * 16 + e)).toNat = d * 16 + e :=
    UInt8.toNat_ofNat_of_lt' (by omega : d * 16 + e < 256)
  have hfixed : fixed 16 2 (d * 16 + e) = [d, e] := by
    have hback := @fixed_value 16 [d, e] (by simp [hd, he])
    simpa [value] using hback
  rw [Octets.hexPair, hvalue, hfixed, normal, List.map_cons, List.map_singleton,
    normalChar_of_isDigit hhigh, normalChar_of_isDigit hlow]
  rfl

theorem isGroup_hexPair (octet : UInt8) : IsGroup (Octets.hexPair octet) octet := by
  have hvalue : value 16 (fixed 16 2 octet.toNat) = octet.toNat := by
    rw [value_fixed]
    exact Nat.mod_eq_of_lt octet.toNat_lt
  refine ⟨?_, ?_, fixed 16 2 octet.toNat, ?_, hvalue⟩
  · rw [Octets.hexPair, List.length_map, length_fixed]
  · simp [Octets.hexPair, fixed]
  · exact forall₂_isDigit_map (by decide) (fixed_lt (by decide) 2 octet.toNat)

theorem toList_text (a : LinkAddress) :
    a.text.toList = join ':' (a.octets.map Octets.hexPair) := String.toList_ofList

theorem map_normal_groups {groups : List (List Char)} {octets : List UInt8}
    (h : List.Forall₂ IsGroup groups octets) :
    groups.map normal = octets.map Octets.hexPair := by
  induction h with
  | nil => rfl
  | cons hgroup _ ih => rw [List.map_cons, List.map_cons, hgroup.normal_eq, ih]

/-- But for case and separators, all texts with the same octets are alike. -/
theorem Spells.normal_eq {cs : List Char} {octets : List UInt8} (h : Spells cs octets) :
    normal cs = join ':' (octets.map Octets.hexPair) := by
  obtain ⟨groups, hgroups, hcs⟩ := h
  rw [← map_normal_groups hgroups]
  rcases hcs with rfl | rfl
  · exact map_join normalChar ':' groups
  · exact map_join normalChar '-' groups

theorem read?_text (a : LinkAddress) : read? a.text.toList = some a := by
  rw [read?_eq_some_iff, toList_text]
  refine ⟨a.octets.map Octets.hexPair, ?_, Or.inl rfl⟩
  rw [List.forall₂_map_left_iff, List.forall₂_same]
  exact fun octet _ => isGroup_hexPair octet

/-- What is read is the canonical text of the address, but for case and separators. -/
theorem normal_of_read? {cs : List Char} {a : LinkAddress} (h : read? cs = some a) :
    normal cs = a.text.toList := by
  rw [toList_text, (read?_eq_some_iff.mp h).normal_eq]

theorem eq_iff_normal_eq {cs ds : List Char} {a b : LinkAddress} (ha : read? cs = some a)
    (hb : read? ds = some b) : a = b ↔ normal cs = normal ds := by
  rw [normal_of_read? ha, normal_of_read? hb]
  constructor
  · rintro rfl
    rfl
  · intro htext
    have hread := read?_text b
    rw [← htext, read?_text] at hread
    exact Option.some.inj hread

/-- What can be wrong with a text: its form, or a group of the right form that is no number. -/
inductive Flaw
  | form
  | digit
deriving DecidableEq

def utf8 (cs : List Char) : List UInt8 := cs.flatMap String.utf8EncodeChar

def isHexOctet (octet : UInt8) : Bool :=
  (48 ≤ octet && octet ≤ 57) || (97 ≤ octet && octet ≤ 102) || (65 ≤ octet && octet ≤ 70)

def readHex? (cs : List Char) : Option UInt8 :=
  ((Numeral.read? 16 (if cs.head? = some '+' then cs.tail else cs)).filter (· ≤ 255)).map UInt8.ofNat

/-- Reads a group if it is two octets long and these are hexadecimal digits. -/
def checkGroup (group : List Char) : Except Flaw UInt8 :=
  if (utf8 group).length = 2 ∧ (utf8 group).all isHexOctet then
    match readHex? group with
    | some octet => .ok octet
    | none => .error .digit
  else .error .form

def check (cs : List Char) : Except Flaw LinkAddress :=
  let groups := pieces (separator cs) cs
  if groups.length ≠ 6 then .error .form
  else do
    let octets ← groups.mapM checkGroup
    return ⟨octets.getD 0 0, octets.getD 1 0, octets.getD 2 0, octets.getD 3 0, octets.getD 4 0,
      octets.getD 5 0⟩

theorem isHexOctet_iff {octet : UInt8} : isHexOctet octet = true ↔
    (48 ≤ octet.toNat ∧ octet.toNat ≤ 57) ∨ (97 ≤ octet.toNat ∧ octet.toNat ≤ 102) ∨
      (65 ≤ octet.toNat ∧ octet.toNat ≤ 70) := by
  simp only [isHexOctet, Bool.or_eq_true, Bool.and_eq_true, decide_eq_true_eq,
    UInt8.le_iff_toNat_le, or_assoc]
  rfl

theorem utf8EncodeChar_of_le {c : Char} (h : c.toNat ≤ 127) :
    String.utf8EncodeChar c = [UInt8.ofNat c.toNat] := if_pos h

/-- The first of several octets of a character is above all codes of digits. -/
theorem not_all_isHexOctet_of_lt {c : Char} (h : 127 < c.toNat) :
    (String.utf8EncodeChar c).all isHexOctet = false := by
  have hfirst : ∀ n, 192 ≤ n → n < 256 → isHexOctet (UInt8.ofNat n) = false := by
    intro n hle hlt
    rw [Bool.eq_false_iff, ne_eq, isHexOctet_iff, UInt8.toNat_ofNat_of_lt' hlt]
    omega
  have hcode : c.val.toNat = c.toNat := rfl
  simp only [String.utf8EncodeChar, hcode, if_neg (Nat.not_le.mpr h)]
  split
  · rw [List.all_cons, hfirst _ (by omega) (by omega), Bool.false_and]
  · split
    · rw [List.all_cons, hfirst _ (by omega) (by omega), Bool.false_and]
    · rw [List.all_cons, hfirst _ (by omega) (by omega), Bool.false_and]

theorem exists_digitValue?_iff {c : Char} : (∃ digit, digitValue? c = some digit) ↔
    (48 ≤ c.toNat ∧ c.toNat ≤ 57) ∨ (97 ≤ c.toNat ∧ c.toNat ≤ 102) ∨
      (65 ≤ c.toNat ∧ c.toNat ≤ 70) := by
  rw [← Option.isSome_iff_exists, digitValue?]
  grind

/-- The octets of a character are codes of digits exactly if the character is a digit. -/
theorem all_isHexOctet_iff {c : Char} :
    (String.utf8EncodeChar c).all isHexOctet = true ↔ ∃ digit, digitValue? c = some digit := by
  rw [exists_digitValue?_iff]
  by_cases h : c.toNat ≤ 127
  · rw [utf8EncodeChar_of_le h, List.all_cons, List.all_nil, Bool.and_true, isHexOctet_iff,
      UInt8.toNat_ofNat_of_lt' (by omega : c.toNat < 256)]
  · rw [not_all_isHexOctet_of_lt (Nat.not_le.mp h)]
    constructor
    · intro hfalse
      cases hfalse
    · omega

theorem all_utf8_iff {cs : List Char} :
    (utf8 cs).all isHexOctet = true ↔ ∀ c ∈ cs, ∃ digit, IsDigit 16 c digit := by
  simp only [utf8, List.all_flatMap, List.all_eq_true (l := cs), all_isHexOctet_iff,
    isDigit_sixteen_iff]

theorem length_utf8 {cs : List Char} (h : ∀ c ∈ cs, ∃ digit, IsDigit 16 c digit) :
    (utf8 cs).length = cs.length := by
  induction cs with
  | nil => rfl
  | cons c rest ih =>
    obtain ⟨⟨digit, hdigit⟩, hrest⟩ := List.forall_mem_cons.mp h
    have hcode := exists_digitValue?_iff.mp ⟨digit, isDigit_sixteen_iff.mp hdigit⟩
    have hrest := ih hrest
    unfold utf8 at hrest ⊢
    rw [List.flatMap_cons, utf8EncodeChar_of_le (by omega), List.length_append, hrest]
    simp [Nat.add_comm]

/-- A group of two octets that are codes of digits is one of two digits. -/
theorem checked_iff {group : List Char} :
    ((utf8 group).length = 2 ∧ (utf8 group).all isHexOctet = true) ↔
      ∃ octet, IsGroup group octet := by
  rw [exists_isGroup_iff, all_utf8_iff]
  constructor
  · rintro ⟨hlength, hdigits⟩
    exact ⟨length_utf8 hdigits ▸ hlength, hdigits⟩
  · rintro ⟨hlength, hdigits⟩
    exact ⟨(length_utf8 hdigits).trans hlength, hdigits⟩

theorem IsGroup.readHex?_eq {group : List Char} {octet : UInt8} (h : IsGroup group octet) :
    readHex? group = some octet := by
  have hsign : group.head? ≠ some '+' := fun hhead =>
    h.2.not_mem (by decide) (List.mem_of_head? hhead)
  have hle : octet.toNat ≤ 255 := Nat.le_of_lt_succ octet.toNat_lt
  rw [readHex?, if_neg hsign, Numeral.read?_eq_some_iff.mpr h.2, Option.filter_some,
    if_pos (by simpa using hle), Option.map_some, UInt8.ofNat_toNat]

theorem checkGroup_eq (group : List Char) :
    checkGroup group = (readPair? group).elim (.error .form) .ok := by
  unfold checkGroup
  cases hread : readPair? group with
  | some octet =>
    have hgroup := readPair?_eq_some_iff.mp hread
    rw [if_pos (checked_iff.mpr ⟨octet, hgroup⟩), hgroup.readHex?_eq]
    rfl
  | none =>
    rw [if_neg]
    · rfl
    · intro hchecked
      obtain ⟨octet, hgroup⟩ := checked_iff.mp hchecked
      rw [readPair?_eq_some_iff.mpr hgroup] at hread
      cases hread

theorem mapM_checkGroup (groups : List (List Char)) :
    groups.mapM checkGroup = (groups.mapM readPair?).elim (.error .form) .ok := by
  induction groups with
  | nil => rfl
  | cons group rest ih =>
    simp only [List.mapM_cons, checkGroup_eq, ih]
    cases readPair? group with
    | none => rfl
    | some octet => cases rest.mapM readPair? <;> rfl

/-- The steps give what is read at once, and only the form can be wrong. -/
theorem check_eq (cs : List Char) : check cs = (read? cs).elim (.error .form) .ok := by
  simp only [check, read?, mapM_checkGroup]
  cases hread : (pieces (separator cs) cs).mapM readPair? with
  | none =>
    split <;> rfl
  | some octets =>
    have hlength := (mapM_eq_some_iff.mp hread).length_eq
    by_cases hsix : octets.length = 6
    · rw [if_neg (not_not.mpr (hlength.trans hsix))]
      match octets, hsix with
      | [_, _, _, _, _, _], _ => rfl
    · rw [if_pos (fun h => hsix (hlength.symm.trans h))]
      split
      · rename_i hoctets
        cases hoctets
        exact absurd rfl hsix
      · rfl

/-- Six groups of two hexadecimal digits with one kind of separator between them. -/
structure Grouped (cs : List Char) (groups : List (List Char)) : Prop where
  six : groups.length = 6
  pairs : ∀ group ∈ groups, group.length = 2 ∧ ∀ c ∈ group, ∃ digit, IsDigit 16 c digit
  separated : cs = join ':' groups ∨ cs = join '-' groups

theorem exists_octets_iff {groups : List (List Char)} :
    (∃ octets, List.Forall₂ IsGroup groups octets) ↔
      ∀ group ∈ groups, group.length = 2 ∧ ∀ c ∈ group, ∃ digit, IsDigit 16 c digit := by
  simp only [exists_forall₂_iff, exists_isGroup_iff]

theorem Grouped.exists_address {cs : List Char} {groups : List (List Char)} (h : Grouped cs groups) :
    ∃ a : LinkAddress, read? cs = some a ∧ List.Forall₂ IsGroup groups a.octets := by
  obtain ⟨octets, hoctets⟩ := exists_octets_iff.mpr h.pairs
  have hsix : octets.length = 6 := hoctets.length_eq.symm.trans h.six
  match octets, hsix with
  | [b, c, d, e, f, g], _ =>
    let a : LinkAddress := ⟨b, c, d, e, f, g⟩
    exact ⟨a, read?_eq_some_iff.mpr ⟨groups, hoctets, h.separated⟩, hoctets⟩

theorem exists_grouped {cs : List Char} {a : LinkAddress} (h : read? cs = some a) :
    ∃ groups, Grouped cs groups := by
  obtain ⟨groups, hgroups, hcs⟩ := read?_eq_some_iff.mp h
  exact ⟨groups, hgroups.length_eq, exists_octets_iff.mp ⟨a.octets, hgroups⟩, hcs⟩

/-- The texts that are read as an address are six groups of two hexadecimal digits, with colons or
with hyphens between them, and the octets of the address are the values of the groups. The steps
never find a group of the right form that is no number. The canonical text of the address is what
was read, in lower case and with colons, and is itself read as this address. So two texts are read
as the same address exactly if they differ in no more than case and separators. -/
theorem spelling_determines_address (text other : String) :
    ((∃ a, read? text.toList = some a) ↔ ∃ groups, Grouped text.toList groups) ∧
      check text.toList = (read? text.toList).elim (.error .form) .ok ∧
      (∀ a groups, read? text.toList = some a → Grouped text.toList groups →
        List.Forall₂ (fun group octet => Denotes 16 group octet.toNat) groups a.octets) ∧
      (∀ a, read? text.toList = some a → a.text = String.ofList (normal text.toList)) ∧
      (∀ a, read? a.text.toList = some a) ∧
      ∀ a b, read? text.toList = some a → read? other.toList = some b →
        (a = b ↔ normal text.toList = normal other.toList) := by
  refine ⟨⟨?_, ?_⟩, check_eq _, ?_, ?_, read?_text, fun a b => eq_iff_normal_eq⟩
  · rintro ⟨a, hread⟩
    exact exists_grouped hread
  · rintro ⟨groups, hgroups⟩
    obtain ⟨a, hread, -⟩ := hgroups.exists_address
    exact ⟨a, hread⟩
  · intro a groups hread hgroups
    obtain ⟨b, hother, hoctets⟩ := hgroups.exists_address
    obtain rfl := Option.some.inj (hread.symm.trans hother)
    exact hoctets.imp fun group octet hgroup => hgroup.2
  · intro a hread
    rw [normal_of_read? hread, String.ofList_toList]

/-- One text has hyphens and the other one colons, and they differ in the case of letters. -/
theorem spelling_determines_address_of_hyphens :
    let text := "00-11-22-AA-bb-cc"
    let other := "00:11:22:aa:bB:cc"
    let a : LinkAddress := ⟨0, 0x11, 0x22, 0xaa, 0xbb, 0xcc⟩
    (∃ groups, Grouped text.toList groups ∧
      List.Forall₂ (fun group octet => Denotes 16 group octet.toNat) groups a.octets) ∧
      check text.toList = .ok a ∧ a.text = "00:11:22:aa:bb:cc" ∧
      normal text.toList = normal other.toList := by
  intro text other a
  have hread : read? text.toList = some a := by decide
  have hother : read? other.toList = some a := by decide
  obtain ⟨hgrouped, hsteps, hoctets, htext, -, hsame⟩ := spelling_determines_address text other
  obtain ⟨groups, hgroups⟩ := hgrouped.mp ⟨a, hread⟩
  refine ⟨⟨groups, hgroups, hoctets a groups hread hgroups⟩, ?_, ?_, (hsame a a hread hother).mp rfl⟩
  · rw [hsteps, hread]
    rfl
  · rw [htext a hread]
    decide

end RouterAdvert.LinkAddress
