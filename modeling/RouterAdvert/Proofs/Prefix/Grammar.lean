import RouterAdvert.Error
import RouterAdvert.Proofs.Address.Grammar

/-!
# Spellings of prefixes

The texts that stand for a prefix: a text of an address, one slash, and decimal digits that may have
a plus sign before them. What is reported about any other text tells its first part that is wrong.
-/

namespace RouterAdvert.Prefix

open Numeral Text

/-- One or more decimal digits stand for a length, with or without a plus sign before them. -/
def IsLength (cs : List Char) (length : UInt8) : Prop :=
  ∃ digits, (cs = digits ∨ cs = '+' :: digits) ∧ Denotes 10 digits length.toNat

theorem readUnsigned?_eq_some_iff {cs : List Char} {n : Nat} : readUnsigned? cs = some n ↔
    ∃ digits, (cs = digits ∨ cs = '+' :: digits) ∧ Denotes 10 digits n := by
  unfold readUnsigned?
  rw [Numeral.read?_eq_some_iff]
  constructor
  · intro h
    split at h
    · rename_i hsign
      obtain ⟨digits, rfl⟩ := List.head?_eq_some_iff.mp hsign
      exact ⟨digits, Or.inr rfl, h⟩
    · exact ⟨cs, Or.inl rfl, h⟩
  · rintro ⟨digits, rfl | rfl, h⟩
    · rw [if_neg fun hsign => h.not_mem (by decide) (List.mem_of_head? hsign)]
      exact h
    · exact h

theorem readLength?_eq_some_iff {cs : List Char} {length : UInt8} :
    readLength? cs = some length ↔ IsLength cs length := by
  simp only [readLength?, Option.map_eq_some_iff, Option.filter_eq_some_iff, decide_eq_true_eq,
    readUnsigned?_eq_some_iff, IsLength]
  constructor
  · rintro ⟨n, ⟨hdigits, hle⟩, rfl⟩
    rw [UInt8.toNat_ofNat_of_lt' (Nat.lt_succ_of_le hle)]
    exact hdigits
  · intro h
    exact ⟨length.toNat, ⟨h, Nat.le_of_lt_succ length.toNat_lt⟩, UInt8.ofNat_toNat⟩

theorem readLength?_eq_none_iff {cs : List Char} :
    readLength? cs = none ↔ ¬∃ length, IsLength cs length := by
  simp only [Option.eq_none_iff_forall_ne_some, ne_eq, readLength?_eq_some_iff, not_exists]

theorem IsLength.not_mem_slash {cs : List Char} {length : UInt8} (h : IsLength cs length) :
    '/' ∉ cs := by
  obtain ⟨digits, hcs, hdigits⟩ := h
  have hnone : '/' ∉ digits := hdigits.not_mem (by decide)
  rcases hcs with rfl | rfl
  · exact hnone
  · exact List.not_mem_cons_of_ne_of_not_mem (by decide) hnone

def Parted (cs before after : List Char) : Prop := cs = before ++ '/' :: after ∧ '/' ∉ before

/-- There is one slash in a text, with an address before it and a length after it. -/
def Spells (cs : List Char) (p : Prefix) : Prop :=
  ∃ before after, Parted cs before after ∧ '/' ∉ after ∧
    Address.Spells before p.address.groups ∧ IsLength after p.length

theorem parted_iff {cs before after : List Char} :
    Parted cs before after ↔ cut? '/' cs = some (before, after) := cut?_eq_some_iff.symm

/-- What is found of a text: it has no slash, or the text before the first slash is no address, or
that is an address and the text after the slash is no length, or both are what they should be. -/
inductive Found (cs : List Char) : Except Unreadable Prefix → Prop
  | noLength (slash : '/' ∉ cs) : Found cs (.error .noLength)
  | badAddress {before after : List Char} (parted : Parted cs before after)
      (address : ¬∃ a : Address, Address.Spells before a.groups) : Found cs (.error .badAddress)
  | badLength {before after : List Char} (parted : Parted cs before after)
      (address : ∃ a : Address, Address.Spells before a.groups)
      (length : ¬∃ n : UInt8, IsLength after n) : Found cs (.error .badLength)
  | both {before after : List Char} {p : Prefix} (parted : Parted cs before after)
      (address : Address.Spells before p.address.groups) (length : IsLength after p.length) :
      Found cs (.ok p)

theorem found_read (text : String) : Found text.toList (read text) := by
  unfold read
  split
  · rename_i hcut
    exact .noLength (cut?_eq_none_iff.mp hcut)
  · rename_i before after hcut
    have hparted : Parted text.toList before after := parted_iff.mpr hcut
    split
    · rename_i haddress
      exact .badAddress hparted (Address.read?_eq_none_iff.mp haddress)
    · rename_i address haddress hlength
      exact .badLength hparted ⟨address, Address.read?_eq_some_iff.mp haddress⟩
        (readLength?_eq_none_iff.mp hlength)
    · rename_i address length haddress hlength
      exact .both hparted (Address.read?_eq_some_iff.mp haddress) (readLength?_eq_some_iff.mp hlength)

/-- What is read is what is found, as a text is parted in one way only. -/
theorem read_eq_iff {text : String} {r : Except Unreadable Prefix} :
    read text = r ↔ Found text.toList r := by
  constructor
  · rintro rfl
    exact found_read text
  · intro h
    cases h with
    | noLength slash => rw [read, cut?_eq_none_iff.mpr slash]
    | badAddress parted address =>
      simp only [read, parted_iff.mp parted, Address.read?_eq_none_iff.mpr address]
    | badLength parted address length =>
      obtain ⟨a, haddress⟩ := address
      simp only [read, parted_iff.mp parted, Address.read?_eq_some_iff.mpr haddress,
        readLength?_eq_none_iff.mpr length]
    | both parted address length =>
      simp only [read, parted_iff.mp parted, Address.read?_eq_some_iff.mpr address,
        readLength?_eq_some_iff.mpr length]

section Outcomes

variable {cs : List Char}

theorem found_noLength_iff : Found cs (.error .noLength) ↔ '/' ∉ cs := by
  constructor
  · intro h
    cases h with
    | noLength slash => exact slash
  · exact .noLength

theorem found_badAddress_iff : Found cs (.error .badAddress) ↔ ∃ before after,
    Parted cs before after ∧ ¬∃ a : Address, Address.Spells before a.groups := by
  constructor
  · intro h
    cases h with
    | badAddress parted address => exact ⟨_, _, parted, address⟩
  · rintro ⟨before, after, parted, address⟩
    exact .badAddress parted address

theorem found_badLength_iff : Found cs (.error .badLength) ↔ ∃ before after,
    Parted cs before after ∧ (∃ a : Address, Address.Spells before a.groups) ∧
      ¬∃ n : UInt8, IsLength after n := by
  constructor
  · intro h
    cases h with
    | badLength parted address length => exact ⟨_, _, parted, address, length⟩
  · rintro ⟨before, after, parted, address, length⟩
    exact .badLength parted address length

theorem found_ok_iff {p : Prefix} : Found cs (.ok p) ↔ Spells cs p := by
  constructor
  · intro h
    cases h with
    | both parted address length =>
      exact ⟨_, _, parted, length.not_mem_slash, address, length⟩
  · rintro ⟨before, after, parted, -, address, length⟩
    exact .both parted address length

theorem Spells.chars {p : Prefix} {before after : List Char} (h : Spells cs p)
    (hparted : Parted cs before after) :
    ∀ c ∈ before, c = ':' ∨ c = '.' ∨ ∃ digit, IsDigit 16 c digit := by
  obtain ⟨front, back, hother, -, haddress, -⟩ := h
  rw [parted_iff] at hparted hother
  cases hparted.symm.trans hother
  exact haddress.chars

end Outcomes

def reply (text : String) : Except String Prefix :=
  (read text).mapError fun cause => (Error.malformed (.network text cause)).message

/-- How much longer a message is than the text it is about. -/
def extraLength : Unreadable → Nat
  | .noLength => 37
  | .badAddress => 35
  | .badLength => 40

theorem length_message (text : String) (cause : Unreadable) :
    (Error.malformed (.network text cause)).message.length = text.length + extraLength cause := by
  have hparts : ∀ a b c : String,
      (a ++ (b ++ text ++ c)).length = text.length + (a.length + b.length + c.length) := by
    intro a b c
    simp only [String.length_append]
    omega
  cases cause with
  | noLength => exact hparts "parse error: " "prefix '" "' missing length"
  | badAddress => exact hparts "parse error: " "invalid IPv6 prefix '" "'"
  | badLength => exact hparts "parse error: " "invalid prefix length in '" "'"

/-- The messages about one text tell what is wrong with it. -/
theorem message_inj {text : String} {cause other : Unreadable} :
    (Error.malformed (.network text cause)).message =
      (Error.malformed (.network text other)).message ↔ cause = other := by
  have hextra : ∀ c d : Unreadable, extraLength c = extraLength d → c = d := by
    intro c d h
    cases c <;> cases d <;> first | rfl | cases h
  constructor
  · intro h
    have hlength := congrArg String.length h
    rw [length_message, length_message] at hlength
    exact hextra cause other (Nat.add_left_cancel hlength)
  · rintro rfl
    rfl

theorem reply_eq_ok_iff {text : String} {p : Prefix} :
    reply text = .ok p ↔ Spells text.toList p := by
  rw [← found_ok_iff, ← read_eq_iff, reply]
  cases read text <;> simp [Except.mapError]

theorem reply_eq_error_iff (text : String) (cause : Unreadable) :
    reply text = .error (Error.malformed (.network text cause)).message ↔
      Found text.toList (.error cause) := by
  rw [← read_eq_iff, reply]
  cases read text <;> simp [Except.mapError, message_inj]

theorem of_reply_eq_error {text message : String} (h : reply text = .error message) :
    ∃ cause, message = (Error.malformed (.network text cause)).message := by
  unfold reply at h
  cases hread : read text with
  | error cause =>
    rw [hread] at h
    cases h
    exact ⟨cause, rfl⟩
  | ok p =>
    rw [hread] at h
    cases h

/-- A text is a prefix exactly if there is one slash in it, with an address before it and a length
after it: eight groups of one to four hexadecimal digits, or fewer with two colons for the zero
groups that are left out, the last two groups perhaps as four decimal octets; then decimal digits
that stand for at most 255, perhaps after a plus sign. About any other text there is one of three
messages: there is no slash, or what is before the first slash is no address, or that is an address
and what is after the slash is no length. -/
theorem reading_is_exact (text : String) :
    (∀ p, reply text = .ok p ↔ Spells text.toList p) ∧
      (reply text = .error ("parse error: " ++ ("prefix '" ++ text ++ "' missing length")) ↔
        '/' ∉ text.toList) ∧
      (reply text = .error ("parse error: " ++ ("invalid IPv6 prefix '" ++ text ++ "'")) ↔
        ∃ before after, Parted text.toList before after ∧
          ¬∃ a : Address, Address.Spells before a.groups) ∧
      (reply text = .error ("parse error: " ++ ("invalid prefix length in '" ++ text ++ "'")) ↔
        ∃ before after, Parted text.toList before after ∧
          (∃ a : Address, Address.Spells before a.groups) ∧ ¬∃ n : UInt8, IsLength after n) ∧
      (∀ message, reply text = .error message →
        ∃ cause, message = (Error.malformed (.network text cause)).message) ∧
      ∀ p before after, reply text = .ok p → Parted text.toList before after →
        ∀ c ∈ before, c = ':' ∨ c = '.' ∨ ∃ digit, IsDigit 16 c digit := by
  refine ⟨fun p => reply_eq_ok_iff, (reply_eq_error_iff text .noLength).trans found_noLength_iff,
    (reply_eq_error_iff text .badAddress).trans found_badAddress_iff,
    (reply_eq_error_iff text .badLength).trans found_badLength_iff, fun _ => of_reply_eq_error, ?_⟩
  intro p before after hreply hparted
  exact (reply_eq_ok_iff.mp hreply).chars hparted

/-- In the second text there are eight groups besides the two colons. -/
theorem reading_is_exact_of_two_texts :
    let text := "2001:DB8::7:192.0.2.33/+064"
    let p : Prefix := ⟨.ofGroups [0x2001, 0xdb8, 0, 0, 0, 7, 0xc000, 0x221], 64⟩
    let other := "1::2:3:4:5:6:7:8/64"
    Spells text.toList p ∧
      (∀ c ∈ "2001:DB8::7:192.0.2.33".toList, c = ':' ∨ c = '.' ∨ ∃ digit, IsDigit 16 c digit) ∧
      (∃ before after, Parted other.toList before after ∧
        ¬∃ a : Address, Address.Spells before a.groups) ∧
      ∃ cause, "parse error: " ++ ("invalid IPv6 prefix '" ++ other ++ "'") =
        (Error.malformed (.network other cause)).message := by
  intro text p other
  have hread : reply text = .ok p := by decide
  have hrefused : reply other =
      .error ("parse error: " ++ ("invalid IPv6 prefix '" ++ other ++ "'")) := by
    have hcause : read other = .error .badAddress := by decide
    rw [reply, hcause]
    rfl
  have hparted : Parted text.toList "2001:DB8::7:192.0.2.33".toList "+064".toList :=
    ⟨by decide, by decide⟩
  obtain ⟨hok, -, -, -, -, hchars⟩ := reading_is_exact text
  obtain ⟨-, -, haddress, -, hmessages, -⟩ := reading_is_exact other
  exact ⟨(hok p).mp hread, hchars p _ _ hread hparted, haddress.mp hrefused, hmessages _ hrefused⟩

end RouterAdvert.Prefix
