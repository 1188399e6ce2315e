import RouterAdvert.Address

/-!
# Link-layer addresses

Six octets. The text is six pairs of hexadecimal digits; a reader accepts colons or hyphens between
them, all of one kind, and `text` writes colons and lower case.
-/

namespace RouterAdvert

structure LinkAddress where
  first : UInt8
  second : UInt8
  third : UInt8
  fourth : UInt8
  fifth : UInt8
  sixth : UInt8
deriving DecidableEq, Inhabited

namespace LinkAddress

/-- The all-zero address, which stands for no address at all. -/
def zero : LinkAddress := ⟨0, 0, 0, 0, 0, 0⟩

def octets (a : LinkAddress) : List UInt8 :=
  [a.first, a.second, a.third, a.fourth, a.fifth, a.sixth]

/-- Whether the group bit, the lowest of the first octet, is set. -/
def isMulticast (a : LinkAddress) : Bool := a.first &&& 1 != 0

/-- The link-local IPv6 address made from the modified EUI-64 identifier (RFC 4291 appendix A). -/
def linkLocal (a : LinkAddress) : Address :=
  Address.ofOctets
    [0xfe, 0x80, 0, 0, 0, 0, 0, 0,
      a.first ^^^ 2, a.second, a.third, 0xff, 0xfe, a.fourth, a.fifth, a.sixth]

def text (a : LinkAddress) : String :=
  String.ofList (Text.join ':' (a.octets.map Octets.hexPair))

def readPair? : List Char → Option UInt8
  | [high, low] => Octets.ofHexPair? high low
  | _ => none

/-- A colon separates the pairs if the text has one, else a hyphen does. -/
def separator (cs : List Char) : Char := if ':' ∈ cs then ':' else '-'

def read? (cs : List Char) : Option LinkAddress :=
  match (Text.pieces (separator cs) cs).mapM readPair? with
  | some [a, b, c, d, e, f] => some ⟨a, b, c, d, e, f⟩
  | _ => none

end LinkAddress

end RouterAdvert
