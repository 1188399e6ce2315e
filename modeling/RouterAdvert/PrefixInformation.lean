import RouterAdvert.Prefix

/-!
# The Prefix Information option

The option of RFC 4861 section 4.6.2 and its 32 octets: type, length in units of eight octets,
prefix length, flags, valid lifetime, preferred lifetime, four reserved octets and the address.
-/

namespace RouterAdvert

/-- A prefix with what hosts may do with it. -/
structure PrefixInformation where
  network : Prefix
  /-- The L flag: addresses of the prefix are on the link. -/
  onLink : Bool
  /-- The A flag: hosts may configure addresses from the prefix. -/
  autonomous : Bool
  validLifetime : UInt32
  preferredLifetime : UInt32
deriving DecidableEq

namespace PrefixInformation

def optionType : UInt8 := 3

/-- The length of the option in units of eight octets. -/
def optionLength : UInt8 := 4

def size : Nat := 32

def infiniteLifetime : UInt32 := 0xffffffff

/-- The default valid lifetime, 30 days. -/
def defaultValid : UInt32 := 2592000

def defaultPreferred : UInt32 := 604800

instance : Inhabited PrefixInformation where
  default := {
    network := ⟨Address.unspecified, Prefix.autoconfigurationLength⟩
    onLink := true
    autonomous := true
    validLifetime := defaultValid
    preferredLifetime := defaultPreferred }

/-- The flags octet: L is bit 7 and A is bit 6. -/
def flags (o : PrefixInformation) : UInt8 :=
  Octets.flag o.onLink 0x80 ||| Octets.flag o.autonomous 0x40

def encode (o : PrefixInformation) : List UInt8 :=
  [optionType, optionLength, o.network.length, o.flags]
    ++ Octets.ofNat 4 o.validLifetime.toNat
    ++ Octets.ofNat 4 o.preferredLifetime.toNat
    ++ [0, 0, 0, 0]
    ++ o.network.address.octets

inductive Unreadable
  | tooShort
  | wrongType (found : UInt8)
  | wrongLength (found : UInt8)
deriving DecidableEq, Repr

/-- Reads an option from its type octet on; octets after the option are left alone. -/
def decode (octets : List UInt8) : Except Unreadable PrefixInformation :=
  match octets with
  | kind :: units :: length :: flags :: body =>
    if octets.length < size then .error .tooShort
    else if kind ≠ optionType then .error (.wrongType kind)
    else if units ≠ optionLength then .error (.wrongLength units)
    else .ok {
      network := ⟨Address.ofOctets ((body.drop 12).take 16), length⟩
      onLink := flags &&& 0x80 != 0
      autonomous := flags &&& 0x40 != 0
      validLifetime := UInt32.ofNat (Octets.toNat (body.take 4))
      preferredLifetime := UInt32.ofNat (Octets.toNat ((body.drop 4).take 4)) }
  | _ => .error .tooShort

end PrefixInformation

end RouterAdvert
