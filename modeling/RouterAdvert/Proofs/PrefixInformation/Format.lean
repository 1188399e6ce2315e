import RouterAdvert.Proofs.PrefixInformation.Encoding

/-!
# The format of the option

`HasFormat` lays the fields of an option out octet by octet. There is one text of each option, which
`encode` writes. `decode` accepts every sequence that begins as an option of the right length does,
and what it reads is the option that remains when the reserved bits are cleared.
-/

namespace RouterAdvert

namespace Octets

/-- The octets from a place on are a number of so many octets, the highest bits first. -/
def NumberAt (octets : List UInt8) (start width n : Nat) : Prop :=
  ∀ i < width, octets[start + i]? = some (UInt8.ofNat (n >>> (8 * (width - 1 - i))))

variable {octets others : List UInt8} {start width n : Nat}

theorem numberAt_append {before : List UInt8} (hstart : before.length = start) (width n : Nat)
    (after : List UInt8) : NumberAt (before ++ (ofNat width n ++ after)) start width n := by
  intro i hi
  rw [List.getElem?_append_right (by omega), hstart, Nat.add_sub_cancel_left,
    List.getElem?_append_left (by simpa using hi), getElem?_ofNat hi]

theorem numberAt_toNat (h : start + width ≤ octets.length) :
    NumberAt octets start width (toNat ((octets.drop start).take width)) := by
  intro i hi
  have hlength : ((octets.drop start).take width).length = width := by
    rw [List.length_take, List.length_drop]
    omega
  rw [← getElem?_ofNat hi, ofNat_toNat hlength, List.getElem?_take_of_lt hi, List.getElem?_drop]

theorem NumberAt.congr (h : NumberAt octets start width n)
    (hsame : ∀ i < width, others[start + i]? = octets[start + i]?) :
    NumberAt others start width n := by
  intro i hi
  rw [hsame i hi, h i hi]

theorem NumberAt.getElem?_eq (h : NumberAt octets start width n) (h' : NumberAt others start width n)
    {place : Nat} (hstart : start ≤ place) (hend : place < start + width) :
    octets[place]? = others[place]? := by
  have hplace : place = start + (place - start) := by omega
  rw [hplace, h _ (by omega), h' _ (by omega)]

end Octets

namespace PrefixInformation

open Octets

/-- The octets of RFC 4861 section 4.6.2: type, length, prefix length, flags, valid and preferred
lifetime, a reserved word and the address. -/
structure HasFormat (o : PrefixInformation) (octets : List UInt8) : Prop where
  size : octets.length = 32
  kind : octets[0]? = some 3
  units : octets[1]? = some 4
  length : octets[2]? = some o.network.length
  flags : octets[3]? = some ((if o.onLink then 0x80 else 0) ||| if o.autonomous then 0x40 else 0)
  valid : NumberAt octets 4 4 o.validLifetime.toNat
  preferred : NumberAt octets 8 4 o.preferredLifetime.toNat
  reserved : NumberAt octets 12 4 0
  address : NumberAt octets 16 16 o.network.address.toNat

variable {o : PrefixInformation} {octets others : List UInt8}

theorem hasFormat_encode (o : PrefixInformation) : o.HasFormat o.encode := by
  obtain ⟨head, hhead, hencode⟩ : ∃ head : List UInt8, head.length = 4 ∧ o.encode = head ++
      (ofNat 4 o.validLifetime.toNat ++ (ofNat 4 o.preferredLifetime.toNat ++
        (ofNat 4 0 ++ (o.network.address.octets ++ [])))) := by
    refine ⟨[optionType, optionLength, o.network.length, o.flags], rfl, ?_⟩
    simp only [encode, List.append_assoc, List.append_nil]
    rfl
  have hvalid : NumberAt o.encode 4 4 o.validLifetime.toNat := by
    rw [hencode]
    exact numberAt_append hhead 4 _ _
  have hpreferred : NumberAt o.encode 8 4 o.preferredLifetime.toNat := by
    rw [hencode, ← List.append_assoc]
    exact numberAt_append (by simp [hhead]) 4 _ _
  have hreserved : NumberAt o.encode 12 4 0 := by
    rw [hencode, ← List.append_assoc, ← List.append_assoc]
    exact numberAt_append (by simp [hhead]) 4 _ _
  have haddress : NumberAt o.encode 16 16 o.network.address.toNat := by
    rw [hencode, ← List.append_assoc, ← List.append_assoc, ← List.append_assoc]
    exact numberAt_append (by simp [hhead]) 16 _ _
  exact ⟨o.length_encode, rfl, rfl, rfl, rfl, hvalid, hpreferred, hreserved, haddress⟩

theorem HasFormat.getElem?_eq {o' : PrefixInformation} (h : o.HasFormat octets)
    (h' : o'.HasFormat others) {place : Nat}
    (length : place = 2 → o'.network.length = o.network.length)
    (flags : place = 3 → o'.onLink = o.onLink ∧ o'.autonomous = o.autonomous)
    (valid : 4 ≤ place ∧ place < 8 → o'.validLifetime = o.validLifetime)
    (preferred : 8 ≤ place ∧ place < 12 → o'.preferredLifetime = o.preferredLifetime)
    (address : 16 ≤ place ∧ place < 32 → o'.network.address = o.network.address) :
    octets[place]? = others[place]? := by
  by_cases hhead : place < 4
  · have hcases : place = 0 ∨ place = 1 ∨ place = 2 ∨ place = 3 := by omega
    rcases hcases with rfl | rfl | rfl | rfl
    · rw [h.kind, h'.kind]
    · rw [h.units, h'.units]
    · rw [h.length, h'.length, length rfl]
    · rw [h.flags, h'.flags, (flags rfl).1, (flags rfl).2]
  · by_cases hvalid : place < 8
    · have hsame := valid ⟨by omega, hvalid⟩
      exact h.valid.getElem?_eq (hsame ▸ h'.valid) (by omega) hvalid
    · by_cases hpreferred : place < 12
      · have hsame := preferred ⟨by omega, hpreferred⟩
        exact h.preferred.getElem?_eq (hsame ▸ h'.preferred) (by omega) hpreferred
      · by_cases hreserved : place < 16
        · exact h.reserved.getElem?_eq h'.reserved (by omega) hreserved
        · by_cases haddress : place < 32
          · have hsame := address ⟨by omega, haddress⟩
            exact h.address.getElem?_eq (hsame ▸ h'.address) (by omega) haddress
          · have hend := h.size
            have hend' := h'.size
            rw [List.getElem?_eq_none (by omega), List.getElem?_eq_none (by omega)]

theorem HasFormat.eq (h : o.HasFormat octets) (h' : o.HasFormat others) : octets = others := by
  apply List.ext_getElem?
  intro place
  apply h.getElem?_eq h' <;> simp

theorem hasFormat_iff : o.HasFormat octets ↔ octets = o.encode := by
  constructor
  · intro h
    exact h.eq o.hasFormat_encode
  · rintro rfl
    exact o.hasFormat_encode

/-- The octets of an option with what is reserved in them cleared, and without those that follow. -/
def canonical (octets : List UInt8) : List UInt8 :=
  (octets.take 32).mapIdx fun place octet =>
    if place = 3 then octet &&& 0xc0 else if 12 ≤ place ∧ place < 16 then 0 else octet

theorem getElem?_canonical {place : Nat} (hplace : place < 32) (hflags : place ≠ 3)
    (hreserved : ¬(12 ≤ place ∧ place < 16)) : (canonical octets)[place]? = octets[place]? := by
  rw [canonical, List.getElem?_mapIdx, List.getElem?_take_of_lt hplace]
  simp [hflags, hreserved]

theorem getElem?_canonical_flags :
    (canonical octets)[3]? = octets[3]?.map (· &&& 0xc0) := by
  rw [canonical, List.getElem?_mapIdx, List.getElem?_take_of_lt (by decide)]
  rfl

theorem getElem?_canonical_reserved {place : Nat} (h : 32 ≤ octets.length) (hstart : 12 ≤ place)
    (hend : place < 16) : (canonical octets)[place]? = some 0 := by
  have hflags : place ≠ 3 := by omega
  rw [canonical, List.getElem?_mapIdx, List.getElem?_take_of_lt (by omega),
    List.getElem?_eq_getElem (by omega)]
  simp [hflags, hstart, hend]

theorem length_canonical (h : 32 ≤ octets.length) : (canonical octets).length = 32 := by
  rw [canonical, List.length_mapIdx, List.length_take]
  omega

/-- The octet of the two flags of an octet is what is left of it under their masks. -/
theorem flags_or_flags (octet : UInt8) :
    ((if octet &&& 0x80 != 0 then 0x80 else 0) ||| if octet &&& 0x40 != 0 then 0x40 else 0) =
      octet &&& 0xc0 := by
  have hall : ∀ bits : BitVec 8, ((if UInt8.ofBitVec bits &&& 0x80 != 0 then 0x80 else 0) |||
      if UInt8.ofBitVec bits &&& 0x40 != 0 then 0x40 else 0) = UInt8.ofBitVec bits &&& 0xc0 := by
    decide
  exact hall octet.toBitVec

theorem exists_decode_iff : (∃ o, decode octets = .ok o) ↔
    32 ≤ octets.length ∧ octets[0]? = some 3 ∧ octets[1]? = some 4 := by
  constructor
  · rintro ⟨o, ho⟩
    unfold decode at ho
    split at ho
    case h_1 kind units length flags body =>
      by_cases hshort : (kind :: units :: length :: flags :: body).length < size
      · rw [if_pos hshort] at ho
        cases ho
      · rw [if_neg hshort] at ho
        by_cases hkind : kind = optionType
        · rw [if_neg (not_not_intro hkind)] at ho
          by_cases hunits : units = optionLength
          · exact ⟨Nat.not_lt.mp hshort, congrArg some hkind, congrArg some hunits⟩
          · rw [if_pos hunits] at ho
            cases ho
        · rw [if_pos hkind] at ho
          cases ho
    case h_2 => cases ho
  · rintro ⟨hlong, hkind, hunits⟩
    match octets, hlong, hkind, hunits with
    | _ :: _ :: length :: flags :: body, hlong, rfl, rfl =>
      exact ⟨_, decode_cons (by simpa using hlong)⟩

/-- What is read is the option that the canonical octets are the text of. -/
theorem hasFormat_canonical (h : decode octets = .ok o) : o.HasFormat (canonical octets) := by
  obtain ⟨hlong, hkind, hunits⟩ := exists_decode_iff.mp ⟨o, h⟩
  match octets, hlong, hkind, hunits with
  | _ :: _ :: length :: flags :: body, hlong, rfl, rfl =>
    have hbody : 28 ≤ body.length := by simpa using hlong
    cases (decode_cons hbody).symm.trans h
    -- Outside the flags and the reserved word the canonical octets are those that were read.
    have hnumber : ∀ start width, 4 ≤ start → start + width ≤ 12 ∨ 16 ≤ start →
        start + width ≤ 32 →
        NumberAt (canonical (3 :: 4 :: length :: flags :: body)) start width
          (toNat (((3 :: 4 :: length :: flags :: body).drop start).take width)) := by
      intro start width hstart hclear hend
      apply (numberAt_toNat (by omega)).congr
      intro i hi
      apply getElem?_canonical <;> omega
    have hvalid := hnumber 4 4 (by decide) (by decide) (by decide)
    have hpreferred := hnumber 8 4 (by decide) (by decide) (by decide)
    have haddress := hnumber 16 16 (by decide) (by decide) (by decide)
    have hflags : (canonical (3 :: 4 :: length :: flags :: body))[3]? = some (flags &&& 0xc0) :=
      getElem?_canonical_flags
    have hreserved : NumberAt (canonical (3 :: 4 :: length :: flags :: body)) 12 4 0 := by
      intro i hi
      rw [getElem?_canonical_reserved hlong (by omega) (by omega), Nat.zero_shiftRight]
      rfl
    exact {
      size := length_canonical hlong
      kind := getElem?_canonical (by decide) (by decide) (by decide)
      units := getElem?_canonical (by decide) (by decide) (by decide)
      length := getElem?_canonical (by decide) (by decide) (by decide)
      flags := by rw [hflags, flags_or_flags]
      valid := by rwa [toNat_seconds (by simp; omega)]
      preferred := by rwa [toNat_seconds (by simp; omega)]
      reserved := hreserved
      address := by rwa [Address.toNat_ofOctets (by simp; omega)] }

/-- What is read is written as the canonical octets. -/
theorem encode_of_decode (h : decode octets = .ok o) : o.encode = canonical octets :=
  o.hasFormat_encode.eq (hasFormat_canonical h)

/-- The format determines the text of every option, which is read back whatever follows it. What can
be read is exactly what begins as an option does and is long enough; writing what was read gives the
canonical octets, which are read as the same option. -/
theorem codec_is_exact (o : PrefixInformation) (octets rest : List UInt8) :
    (o.HasFormat octets ↔ octets = o.encode) ∧
      decode (o.encode ++ rest) = .ok o ∧
      ((∃ read, decode octets = .ok read) ↔
        32 ≤ octets.length ∧ octets[0]? = some 3 ∧ octets[1]? = some 4) ∧
      (decode octets = .ok o → o.encode = canonical octets ∧ decode (canonical octets) = .ok o) := by
  refine ⟨hasFormat_iff, o.decode_encode_append rest, exists_decode_iff, fun h => ?_⟩
  have hencode : o.encode = canonical octets := encode_of_decode h
  have hagain : decode (o.encode ++ []) = .ok o := o.decode_encode_append []
  rw [List.append_nil, hencode] at hagain
  exact ⟨hencode, hagain⟩

/-- Reserved bits and octets that follow are dropped. -/
theorem codec_is_exact_of_reserved_bits :
    let octets : List UInt8 :=
      [3, 4, 64, 0xbf, 0, 0, 1, 44, 0, 0, 0, 200, 1, 2, 3, 4,
        0x20, 0x01, 0x0d, 0xb8, 0, 0, 0, 0, 0, 0, 0, 0, 0, 0, 0, 1, 25, 3]
    let o : PrefixInformation := {
      network := ⟨⟨0x20010db8000000000000000000000001⟩, 64⟩
      onLink := true
      autonomous := false
      validLifetime := 300
      preferredLifetime := 200 }
    decode octets = .ok o ∧
      o.encode = [3, 4, 64, 0x80, 0, 0, 1, 44, 0, 0, 0, 200, 0, 0, 0, 0,
        0x20, 0x01, 0x0d, 0xb8, 0, 0, 0, 0, 0, 0, 0, 0, 0, 0, 0, 1] ∧
      decode o.encode = .ok o := by
  intro octets o
  have hread : decode octets = .ok o := rfl
  obtain ⟨hencode, hagain⟩ := (codec_is_exact o octets []).2.2.2 hread
  rw [hencode]
  exact ⟨hread, rfl, hagain⟩

end PrefixInformation

end RouterAdvert
