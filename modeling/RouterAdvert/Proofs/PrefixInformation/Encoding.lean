import RouterAdvert.World.View

/-!
# Encoded options

The octets of an option are read back as that option, whatever follows them. So options that are
sent one after the other can be told apart by their places alone.
-/

namespace RouterAdvert

@[simp] theorem Address.length_octets (a : Address) : a.octets.length = 16 :=
  Octets.length_ofNat 16 _

theorem Address.ofOctets_octets (a : Address) : ofOctets a.octets = a := by
  have hlt : a.toNat < Nat.pow 256 16 := a.bits.isLt
  rw [ofOctets, octets, Octets.toNat_ofNat, Nat.mod_eq_of_lt hlt, ofNat, toNat, BitVec.ofNat_toNat,
    BitVec.setWidth_eq]

theorem Address.toNat_ofOctets {octets : List UInt8} (h : octets.length = 16) :
    (ofOctets octets).toNat = Octets.toNat octets := by
  have hlt : Octets.toNat octets < Nat.pow 256 16 := h ▸ Octets.toNat_lt octets
  rw [ofOctets, ofNat, toNat, BitVec.toNat_ofNat, Nat.mod_eq_of_lt hlt]

theorem Octets.seconds_ofNat (seconds : UInt32) :
    UInt32.ofNat (Octets.toNat (Octets.ofNat 4 seconds.toNat)) = seconds := by
  have hlt : seconds.toNat < Nat.pow 256 4 := seconds.toNat_lt
  rw [Octets.toNat_ofNat, Nat.mod_eq_of_lt hlt, UInt32.ofNat_toNat]

theorem Octets.toNat_seconds {octets : List UInt8} (h : octets.length = 4) :
    (UInt32.ofNat (toNat octets)).toNat = toNat octets := by
  have hlt : toNat octets < Nat.pow 256 4 := h ▸ toNat_lt octets
  rw [UInt32.toNat_ofNat', Nat.mod_eq_of_lt hlt]

namespace PrefixInformation

@[simp] theorem length_encode (o : PrefixInformation) : o.encode.length = size := by
  simp [encode, size]

theorem onLink_flags (o : PrefixInformation) : (o.flags &&& 0x80 != 0) = o.onLink := by
  unfold flags
  cases o.onLink <;> cases o.autonomous <;> rfl

theorem autonomous_flags (o : PrefixInformation) : (o.flags &&& 0x40 != 0) = o.autonomous := by
  unfold flags
  cases o.onLink <;> cases o.autonomous <;> rfl

theorem decode_cons {length flags : UInt8} {body : List UInt8} (hlong : 28 ≤ body.length) :
    decode (optionType :: optionLength :: length :: flags :: body) = .ok {
      network := ⟨Address.ofOctets ((body.drop 12).take 16), length⟩
      onLink := flags &&& 0x80 != 0
      autonomous := flags &&& 0x40 != 0
      validLifetime := UInt32.ofNat (Octets.toNat (body.take 4))
      preferredLifetime := UInt32.ofNat (Octets.toNat ((body.drop 4).take 4)) } := by
  have hsize : ¬(optionType :: optionLength :: length :: flags :: body).length < size := by
    simp only [List.length_cons, size]
    omega
  rw [decode, if_neg hsize, if_neg (not_not_intro rfl), if_neg (not_not_intro rfl)]

/-- The fields of an option stand at fixed places after its first two octets. -/
theorem decode_fields (length flags : UInt8) {valid preferred reserved address : List UInt8}
    (hvalid : valid.length = 4) (hpreferred : preferred.length = 4) (hreserved : reserved.length = 4)
    (haddress : address.length = 16) (rest : List UInt8) :
    decode (optionType :: optionLength :: length :: flags ::
        (valid ++ (preferred ++ (reserved ++ (address ++ rest))))) = .ok {
      network := ⟨Address.ofOctets address, length⟩
      onLink := flags &&& 0x80 != 0
      autonomous := flags &&& 0x40 != 0
      validLifetime := UInt32.ofNat (Octets.toNat valid)
      preferredLifetime := UInt32.ofNat (Octets.toNat preferred) } := by
  generalize hbody : valid ++ (preferred ++ (reserved ++ (address ++ rest))) = body
  have hafter : body.drop 4 = preferred ++ (reserved ++ (address ++ rest)) := by
    rw [← hbody, List.drop_left' hvalid]
  have hskip : body.drop 12 = ((body.drop 4).drop 4).drop 4 := by simp only [List.drop_drop]
  have htakeValid : body.take 4 = valid := by rw [← hbody, List.take_left' hvalid]
  have htakePreferred : (body.drop 4).take 4 = preferred := by
    rw [hafter, List.take_left' hpreferred]
  have htakeAddress : (body.drop 12).take 16 = address := by
    rw [hskip, hafter, List.drop_left' hpreferred, List.drop_left' hreserved,
      List.take_left' haddress]
  have hlong : 28 ≤ body.length := by
    simp only [← hbody, List.length_append, hvalid, hpreferred, hreserved, haddress]
    omega
  rw [decode_cons hlong, htakeValid, htakePreferred, htakeAddress]

/-- An option is read back from its octets, and those after it are left alone. -/
theorem decode_encode_append (o : PrefixInformation) (rest : List UInt8) :
    decode (o.encode ++ rest) = .ok o := by
  have hoctets : o.encode ++ rest = optionType :: optionLength :: o.network.length :: o.flags ::
      (Octets.ofNat 4 o.validLifetime.toNat ++ (Octets.ofNat 4 o.preferredLifetime.toNat ++
        ([0, 0, 0, 0] ++ (o.network.address.octets ++ rest)))) := by
    simp only [encode, List.append_assoc, List.cons_append, List.nil_append]
  rw [hoctets, decode_fields _ _ (Octets.length_ofNat _ _) (Octets.length_ofNat _ _) rfl
    o.network.address.length_octets, Address.ofOctets_octets, Octets.seconds_ofNat,
    Octets.seconds_ofNat, onLink_flags, autonomous_flags]

def octetsAt (octets : List UInt8) (place : Nat) : List UInt8 :=
  (octets.drop (size * place)).take size

theorem octetsAt_flatMap_encode {α : Type} {option : α → PrefixInformation} {xs : List α}
    {place : Nat} {x : α} (h : xs[place]? = some x) :
    octetsAt (xs.flatMap fun x => (option x).encode) place = (option x).encode := by
  induction xs generalizing place with
  | nil => simp at h
  | cons first rest ih =>
    rw [List.flatMap_cons, octetsAt]
    cases place with
    | zero =>
      cases h
      exact List.take_left' (length_encode _)
    | succ place =>
      have hskip : size * (place + 1) = (option first).encode.length + size * place := by
        rw [length_encode, Nat.mul_succ, Nat.add_comm]
      rw [hskip, List.drop_length_add_append]
      exact ih (by simpa using h)

/-- An octet among options is an octet of the option in whose place it stands. -/
theorem getElem?_flatMap_encode {α : Type} (option : α → PrefixInformation) (xs : List α) (i : Nat) :
    (xs.flatMap fun x => (option x).encode)[i]? =
      xs[i / size]?.bind fun x => (option x).encode[i % size]? := by
  have hsize : 0 < size := by decide
  induction xs generalizing i with
  | nil => simp
  | cons first rest ih =>
    rw [List.flatMap_cons]
    by_cases hfirst : i < size
    · rw [List.getElem?_append_left (by simpa using hfirst), Nat.div_eq_of_lt hfirst,
        Nat.mod_eq_of_lt hfirst]
      rfl
    · have hlater : size ≤ i := Nat.le_of_not_lt hfirst
      rw [List.getElem?_append_right (by simpa using hlater), length_encode, ih,
        Nat.div_eq_sub_div hsize hlater, Nat.mod_eq_sub_mod hlater, List.getElem?_cons_succ]

theorem length_flatMap_encode {α : Type} (option : α → PrefixInformation) (xs : List α) :
    (xs.flatMap fun x => (option x).encode).length = size * xs.length := by
  induction xs with
  | nil => rfl
  | cons first rest ih =>
    rw [List.flatMap_cons, List.length_append, length_encode, ih, List.length_cons, Nat.mul_succ,
      Nat.add_comm]

end PrefixInformation

open PrefixInformation

namespace World

theorem length_options (w : World) (members : PrefixSet) :
    (w.options members).length = size * members.length :=
  length_flatMap_encode w.option members

/-- From where the option of a member begins it is read, whatever follows. -/
theorem decode_drop_options (w : World) {members : PrefixSet} {i : Nat} {p : PrefixId}
    (h : members[i]? = some p) (following : List UInt8) :
    decode (((w.options members).drop (size * i)).take size ++ following) = .ok (w.option p) ∧
      decode ((w.options members).drop (size * i) ++ following) = .ok (w.option p) := by
  have hoption : ((w.options members).drop (size * i)).take size = (w.option p).encode :=
    octetsAt_flatMap_encode h
  constructor
  · rw [hoption, decode_encode_append]
  · rw [← List.take_append_drop size ((w.options members).drop (size * i)), hoption,
      List.append_assoc, decode_encode_append]

theorem decode_options (w : World) {members : PrefixSet} {place : Nat} {p : PrefixId}
    (h : members[place]? = some p) :
    decode (octetsAt (w.options members) place) = .ok (w.option p) := by
  rw [← List.append_nil (octetsAt _ _)]
  exact (w.decode_drop_options h []).1

end World

end RouterAdvert
