import RouterAdvert.Octets

/-!
# Router flags

The flags byte of a Router Advertisement: the M and O bits of RFC 4861 section 4.2 and the two-bit
default router preference of RFC 4191 section 2.2.
-/

namespace RouterAdvert

inductive Preference
  | low
  | medium
  | high
deriving DecidableEq, Repr, Inhabited

namespace Preference

/-- The two-bit value of a preference, a signed number: 01 is high, 00 medium and 11 low. -/
def bits : Preference → UInt8
  | low => 3
  | medium => 0
  | high => 1

/-- The preference with a two-bit value; 10 is reserved. -/
def ofBits? (value : UInt8) : Option Preference :=
  if value = 0 then some medium
  else if value = 1 then some high
  else if value = 3 then some low
  else none

def keyword : Preference → String
  | low => "low"
  | medium => "medium"
  | high => "high"

def label : Preference → String
  | low => "Low"
  | medium => "Medium"
  | high => "High"

end Preference

/-- What a Router Advertisement says beside its numbers. -/
structure RouterFlags where
  /-- The M flag: addresses are assigned by DHCPv6. -/
  managed : Bool := false
  /-- The O flag: other configuration comes by DHCPv6. -/
  other : Bool := false
  preference : Preference := .medium
deriving DecidableEq, Repr, Inhabited

namespace RouterFlags

/-- The flags byte: M is bit 7, O is bit 6 and the preference takes bits 4 and 3. -/
def toByte (f : RouterFlags) : UInt8 :=
  Octets.flag f.managed 0x80 ||| Octets.flag f.other 0x40 ||| f.preference.bits <<< 3

/-- Reads a flags byte. Other bits are ignored, and the reserved preference reads as medium. -/
def ofByte (byte : UInt8) : RouterFlags where
  managed := byte &&& 0x80 != 0
  other := byte &&& 0x40 != 0
  preference := (Preference.ofBits? ((byte >>> 3) &&& 3)).getD .medium

theorem ofByte_toByte (f : RouterFlags) : ofByte f.toByte = f := by
  obtain ⟨managed, other, preference⟩ := f
  cases managed <;> cases other <;> cases preference <;> rfl

end RouterFlags

end RouterAdvert
