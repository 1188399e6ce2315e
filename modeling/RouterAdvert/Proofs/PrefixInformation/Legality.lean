import RouterAdvert.Proofs.PrefixInformation.Format
import RouterAdvert.Proofs.World.WellFormed

/-!
# What a sent option has to be

RFC 4861 section 4.6.2 says what octets a Prefix Information option may be sent as. `Framed` is what
it says of all parts but the address: these `encode` gets right for every prefix whose length is
allowed. The bits of the address after the prefix have to be zero. They are if and only if they are
zero in the prefix itself, as `encode` copies the whole address.
-/

namespace RouterAdvert

/-- A prefix of whose address no bit is set after the leading ones that matter. -/
def Prefix.Trimmed (p : Prefix) : Prop :=
  ∀ i < 128, p.length.toNat ≤ i → p.address.bits.getMsbD i = false

instance (p : Prefix) : Decidable p.Trimmed :=
  inferInstanceAs (Decidable (∀ i < 128, _))

namespace PrefixInformation

open Octets

def addressBit (octets : List UInt8) (i : Nat) : Bool :=
  (octets.getD (16 + i / 8) 0).toBitVec.getMsbD (i % 8)

/-- Octets of the right type and sizes, with a prefix length in its range, in which all that is
reserved is zero. -/
structure Framed (octets : List UInt8) : Prop where
  size : octets.length = 32
  kind : octets[0]? = some 3
  units : octets[1]? = some 4
  length : 3 ≤ octets.getD 2 0 ∧ octets.getD 2 0 ≤ 128
  flags : octets.getD 3 0 &&& 0x3f = 0
  reserved : ∀ place, 12 ≤ place → place < 16 → octets[place]? = some 0

/-- Octets in which no bit of the address is set after the prefix. -/
def Trimmed (octets : List UInt8) : Prop :=
  ∀ i < 128, (octets.getD 2 0).toNat ≤ i → addressBit octets i = false

instance (octets : List UInt8) : Decidable (Trimmed octets) :=
  inferInstanceAs (Decidable (∀ i < 128, _))

variable {o : PrefixInformation} {octets : List UInt8}

theorem flags_and_reserved (onLink autonomous : Bool) :
    ((if onLink then 0x80 else 0) ||| if autonomous then 0x40 else 0) &&& (0x3f : UInt8) = 0 := by
  cases onLink <;> cases autonomous <;> rfl

theorem HasFormat.getD_length (h : o.HasFormat octets) : octets.getD 2 0 = o.network.length := by
  rw [List.getD_eq_getElem?_getD, h.length, Option.getD_some]

theorem HasFormat.framed (h : o.HasFormat octets)
    (hlength : Prefix.lengthAllowed o.network.length) : Framed octets where
  size := h.size
  kind := h.kind
  units := h.units
  length := h.getD_length ▸ Prefix.lengthAllowed_iff.mp hlength
  flags := by
    rw [List.getD_eq_getElem?_getD, h.flags, Option.getD_some]
    exact flags_and_reserved o.onLink o.autonomous
  reserved := by
    intro place hstart hend
    have hplace : place = 12 + (place - 12) := by omega
    rw [hplace, h.reserved _ (by omega), Nat.zero_shiftRight]
    rfl

theorem HasFormat.addressBit_eq (h : o.HasFormat octets) {i : Nat} (hi : i < 128) :
    addressBit octets i = o.network.address.bits.getMsbD i := by
  have hplace : 8 * (16 - 1 - i / 8) + (8 - 1 - i % 8) = 128 - 1 - i := by omega
  have hbit : i % 8 < 8 := Nat.mod_lt i (by decide)
  rw [addressBit, List.getD_eq_getElem?_getD, h.address (i / 8) (by omega), Option.getD_some,
    BitVec.getMsbD, BitVec.getMsbD, UInt8.toBitVec_ofNat', BitVec.getLsbD_ofNat,
    Nat.testBit_shiftRight, hplace]
  simp only [hbit, hi, decide_true, Bool.true_and, Address.toNat]
  rw [BitVec.testBit_toNat, decide_eq_true (by omega), Bool.true_and]

/-- An option is sent with bits after the prefix if and only if its prefix has them. -/
theorem HasFormat.trimmed_iff (h : o.HasFormat octets) : Trimmed octets ↔ o.network.Trimmed := by
  rw [Trimmed, Prefix.Trimmed, h.getD_length]
  refine forall_congr' fun i => forall_congr' fun hi => ?_
  rw [h.addressBit_eq hi]

end PrefixInformation

end RouterAdvert
