import RouterAdvert.Octets
import RouterAdvert.Text.Pieces

/-!
# IPv6 addresses

An address is a word of 128 bits, seen also as sixteen octets or eight groups of sixteen bits.
`text` writes the canonical form of RFC 5952: groups in lower case without leading zeros, the
leftmost longest run of at least two zero groups as `::`, and the dotted form for IPv4-mapped
addresses. `read?` accepts every form of RFC 4291 section 2.2.
-/

namespace RouterAdvert

structure Address where
  bits : BitVec 128
deriving DecidableEq, Inhabited

namespace Address

def unspecified : Address := ⟨0⟩

def ofNat (n : Nat) : Address := ⟨BitVec.ofNat 128 n⟩

def toNat (a : Address) : Nat := a.bits.toNat

def groups (a : Address) : List Nat := Numeral.fixed 65536 8 a.toNat

def ofGroups (groups : List Nat) : Address := ofNat (Numeral.value 65536 groups)

def octets (a : Address) : List UInt8 := Octets.ofNat 16 a.toNat

def ofOctets (octets : List UInt8) : Address := ofNat (Octets.toNat octets)

def leadingZeros (groups : List Nat) : Nat := (groups.takeWhile (· == 0)).length

/-- The start and length of the leftmost longest block of zeros. -/
def longestZeros : List Nat → Nat × Nat
  | [] => (0, 0)
  | group :: rest =>
    let (start, length) := longestZeros rest
    if length ≤ leadingZeros (group :: rest) then (0, leadingZeros (group :: rest))
    else (start + 1, length)

def groupsText (groups : List Nat) : List Char := Text.join ':' (groups.map (Numeral.write 16))

def dottedText (high low : Nat) : List Char :=
  Text.join '.' ([high / 256, high % 256, low / 256, low % 256].map (Numeral.write 10))

/-- Eight groups with their longest block of two or more zeros elided. -/
def elidedText (groups : List Nat) : List Char :=
  let (start, length) := longestZeros groups
  if length < 2 then groupsText groups
  else groupsText (groups.take start) ++ [':', ':'] ++ groupsText (groups.drop (start + length))

def chars (a : Address) : List Char :=
  match a.groups with
  | [0, 0, 0, 0, 0, 65535, high, low] => [':', ':', 'f', 'f', 'f', 'f', ':'] ++ dottedText high low
  | groups => elidedText groups

def text (a : Address) : String := String.ofList a.chars

/-- A group is one to four hexadecimal digits. -/
def readGroup? (cs : List Char) : Option Nat :=
  if cs.length ≤ 4 then Numeral.read? 16 cs else none

/-- A dotted octet is a decimal number up to 255 without leading zeros. -/
def readOctet? (cs : List Char) : Option Nat :=
  if cs.length ≤ 3 ∧ (cs.head? = some '0' → cs.length = 1) then
    (Numeral.read? 10 cs).filter (· ≤ 255)
  else none

/-- Four dotted octets stand for two groups. -/
def readDotted? (cs : List Char) : Option (List Nat) :=
  match Text.pieces '.' cs with
  | [a, b, c, d] => do
    let a ← readOctet? a
    let b ← readOctet? b
    let c ← readOctet? c
    let d ← readOctet? d
    return [a * 256 + b, c * 256 + d]
  | _ => none

/-- Reads the pieces between colons; with `dotted` the last of them may be a dotted quad. -/
def readPieces? (dotted : Bool) : List (List Char) → Option (List Nat)
  | [] => some []
  | [last] =>
    match readGroup? last with
    | some group => some [group]
    | none => if dotted then readDotted? last else none
  | piece :: rest => do
    let group ← readGroup? piece
    let groups ← readPieces? dotted rest
    return group :: groups

def readRun? (dotted : Bool) (cs : List Char) : Option (List Nat) :=
  if cs = [] then some [] else readPieces? dotted (Text.pieces ':' cs)

/-- The eight groups of a text: either all are written, or `::` stands for at least one zero
group. -/
def readGroups? (cs : List Char) : Option (List Nat) :=
  match Text.cutDouble? ':' cs with
  | none => (readRun? true cs).filter (·.length = 8)
  | some (before, after) => do
    let front ← readRun? false before
    let back ← readRun? true after
    if front.length + back.length ≤ 7 then
      return front ++ List.replicate (8 - front.length - back.length) 0 ++ back
    else none

def read? (cs : List Char) : Option Address := (readGroups? cs).map ofGroups

end Address

end RouterAdvert
