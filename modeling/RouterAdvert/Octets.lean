import RouterAdvert.Text.Numeral

/-!
# Octets in network order

Unsigned numbers as bytes, most significant first, and bytes as hexadecimal text.
-/

namespace RouterAdvert.Octets

def ofNat (width n : Nat) : List UInt8 :=
  (Numeral.fixed 256 width n).map UInt8.ofNat

def toNat (octets : List UInt8) : Nat :=
  Numeral.value 256 (octets.map UInt8.toNat)

def flag (on : Bool) (mask : UInt8) : UInt8 := if on then mask else 0

def hexPair (octet : UInt8) : List Char :=
  (Numeral.fixed 16 2 octet.toNat).map Numeral.digitChar

def hex (octets : List UInt8) : String :=
  String.ofList (octets.flatMap hexPair)

def ofHexPair? (high low : Char) : Option UInt8 := do
  let h ← Numeral.digitValue? high
  let l ← Numeral.digitValue? low
  return UInt8.ofNat (h * 16 + l)

def ofHex? : List Char → Option (List UInt8)
  | [] => some []
  | [_] => none
  | high :: low :: rest => do
    let octet ← ofHexPair? high low
    let octets ← ofHex? rest
    return octet :: octets

@[simp] theorem length_ofNat (width n : Nat) : (ofNat width n).length = width := by
  simp [ofNat, Numeral.length_fixed]

private theorem map_toNat_map_ofNat (digits : List Nat) (h : ∀ d ∈ digits, d < 256) :
    (digits.map UInt8.ofNat).map UInt8.toNat = digits := by
  induction digits with
  | nil => rfl
  | cons d rest ih =>
    have hd : d < 256 := h d List.mem_cons_self
    have hrest := ih fun e he => h e (List.mem_cons_of_mem d he)
    simp only [List.map_cons, hrest, UInt8.toNat_ofNat']
    rw [Nat.mod_eq_of_lt (by simpa using hd)]

/-- The octets of a number denote it, up to the octets that were dropped. -/
theorem toNat_ofNat (width n : Nat) : toNat (ofNat width n) = n % Nat.pow 256 width := by
  rw [toNat, ofNat, map_toNat_map_ofNat _ (Numeral.fixed_lt (by decide) width n), Numeral.value_fixed]

theorem ofNat_succ (width n : Nat) :
    ofNat (width + 1) n = ofNat width (n / 256) ++ [UInt8.ofNat n] := by
  have hlow : UInt8.ofNat (n % 256) = UInt8.ofNat n := UInt8.ofNat_mod_size
  rw [ofNat, Numeral.fixed, List.map_append, List.map_singleton, hlow, ofNat]

/-- The octets of a number in network order: the first holds its highest bits. -/
theorem getElem?_ofNat {width place : Nat} (h : place < width) (n : Nat) :
    (ofNat width n)[place]? = some (UInt8.ofNat (n >>> (8 * (width - 1 - place)))) := by
  induction width generalizing n with
  | zero => omega
  | succ width ih =>
    rw [ofNat_succ]
    by_cases hlast : place = width
    · subst hlast
      simp
    · have hlt : place < width := by omega
      have hshift : 8 * (width + 1 - 1 - place) = 8 + 8 * (width - 1 - place) := by omega
      rw [List.getElem?_append_left (by simpa using hlt), ih hlt, hshift, Nat.shiftRight_add,
        Nat.shiftRight_eq_div_pow n 8]

theorem toNat_append_singleton (front : List UInt8) (last : UInt8) :
    toNat (front ++ [last]) = toNat front * 256 + last.toNat := by
  rw [toNat, List.map_append, List.map_singleton, Numeral.value_append_singleton, toNat]

theorem ofNat_toNat {width : Nat} {octets : List UInt8} (h : octets.length = width) :
    ofNat width (toNat octets) = octets := by
  induction width generalizing octets with
  | zero =>
    rw [List.length_eq_zero_iff.mp h]
    rfl
  | succ width ih =>
    rcases List.eq_nil_or_concat octets with rfl | ⟨front, last, rfl⟩
    · simp at h
    · have hfront : front.length = width := by simpa using h
      have hlast : last.toNat < 256 := last.toNat_lt
      have hhigh : (toNat front * 256 + last.toNat) / 256 = toNat front := by omega
      have hlow : UInt8.ofNat (toNat front * 256 + last.toNat) = last := by
        apply UInt8.toNat_inj.mp
        rw [UInt8.toNat_ofNat']
        omega
      rw [List.concat_eq_append, toNat_append_singleton, ofNat_succ, hhigh, hlow, ih hfront]

theorem toNat_lt (octets : List UInt8) : toNat octets < Nat.pow 256 octets.length := by
  have hvalue := toNat_ofNat octets.length (toNat octets)
  rw [ofNat_toNat rfl] at hvalue
  rw [hvalue]
  exact Nat.mod_lt _ (Nat.pow_pos (by decide))

end RouterAdvert.Octets
