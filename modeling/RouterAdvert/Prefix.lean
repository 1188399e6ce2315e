import RouterAdvert.Address

/-!
# Address prefixes

A prefix is an address and a length in bits. It stands for the range of all addresses that agree
with it on that many leading bits; a length above 128 counts as 128. `overlaps` decides whether two
ranges share an address.
-/

namespace RouterAdvert

/-- An address and the number of its leading bits that matter. -/
structure Prefix where
  address : Address
  length : UInt8
deriving DecidableEq, Inhabited

namespace Prefix

/-- The shortest length that a router may advertise. -/
def minLength : UInt8 := 3

def maxLength : UInt8 := 128

/-- The longest length from which hosts can configure addresses of their own. -/
def autoconfigurationLength : UInt8 := 64

def lengthAllowed (length : UInt8) : Bool := minLength ≤ length && length ≤ maxLength

def isLong (p : Prefix) : Bool := autoconfigurationLength < p.length

def significant (p : Prefix) : Nat := min p.length.toNat 128

/-- An address is in the range of a prefix if it agrees with it on the leading bits. -/
def Covers (p : Prefix) (a : Address) : Prop :=
  ∀ i < p.significant, a.bits.getMsbD i = p.address.bits.getMsbD i

instance (p : Prefix) (a : Address) : Decidable (p.Covers a) :=
  inferInstanceAs (Decidable (∀ i < p.significant, _))

def maskShift (length : Nat) : Nat := 128 - length

/-- The mask of so many leading bits. Only the empty mask would need a shift of the whole width. -/
def mask (length : Nat) : BitVec 128 :=
  if length = 0 then 0 else BitVec.allOnes 128 <<< maskShift length

/-- Whether two ranges share an address: the shorter length decides how many leading bits must
agree. -/
def overlaps (p q : Prefix) : Bool :=
  let shared := mask (min p.significant q.significant)
  p.address.bits &&& shared == q.address.bits &&& shared

def chars (p : Prefix) : List Char := p.address.chars ++ '/' :: Numeral.write 10 p.length.toNat

def text (p : Prefix) : String := String.ofList p.chars

/-- A length is an optional plus sign and decimal digits of value up to 255. -/
def readLength? (cs : List Char) : Option UInt8 :=
  ((Numeral.readUnsigned? cs).filter (· ≤ 255)).map UInt8.ofNat

inductive Unreadable
  | noLength
  | badAddress
  | badLength
deriving DecidableEq, Repr

/-- Reads `address/length`; the first slash ends the address. -/
def read (text : String) : Except Unreadable Prefix :=
  match Text.cut? '/' text.toList with
  | none => .error .noLength
  | some (before, after) =>
    match Address.read? before, readLength? after with
    | none, _ => .error .badAddress
    | some _, none => .error .badLength
    | some address, some length => .ok ⟨address, length⟩

end Prefix

end RouterAdvert
