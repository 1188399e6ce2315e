import RouterAdvert.PrefixInformation
import RouterAdvert.RouterFlags

/-!
# Why an operation fails

Each constructor is one cause; `Error.message` is its wording.
-/

namespace RouterAdvert

inductive Malformed
  | linkAddress (text : String)
  | network (text : String) (cause : Prefix.Unreadable)
  | option (cause : PrefixInformation.Unreadable)
deriving DecidableEq

namespace Malformed

def message : Malformed → String
  | linkAddress text => "invalid MAC address '" ++ text ++ "'"
  | network text .noLength => "prefix '" ++ text ++ "' missing length"
  | network text .badAddress => "invalid IPv6 prefix '" ++ text ++ "'"
  | network text .badLength => "invalid prefix length in '" ++ text ++ "'"
  | option .tooShort => "Prefix Information option too short"
  | option (.wrongType found) => "unexpected ND option type " ++ Numeral.decimal found.toNat
  | option (.wrongLength found) =>
    "invalid Prefix Information length " ++ Numeral.decimal found.toNat

end Malformed

/-- The least MTU of an IPv6 link (RFC 8200 section 5). -/
def minMtu : UInt32 := 1280

/-- A value that a setter never accepts. -/
inductive OutOfRange
  | interface (index : Int32)
  | mtu (size : UInt32)
  | prefixLength (length : UInt8)
  | preference (bits : UInt8)
deriving DecidableEq

namespace OutOfRange

def message : OutOfRange → String
  | interface index => "interface index " ++ Numeral.signed index.toInt ++ " is invalid"
  | mtu size =>
    "MTU " ++ Numeral.decimal size.toNat ++ " below IPv6 minimum " ++ Numeral.decimal minMtu.toNat
  | prefixLength length =>
    "prefix length " ++ Numeral.decimal length.toNat ++ " outside "
      ++ Numeral.decimal Prefix.minLength.toNat ++ "..=" ++ Numeral.decimal Prefix.maxLength.toNat
  | preference bits =>
    "router preference " ++ Numeral.decimal bits.toNat ++ " is not low, medium or high"

end OutOfRange

/-- Something that is missing for an operation to go ahead. -/
inductive NotReady
  | noProvider
  | noEventLoop
  | noInterface (index : Int32)
  | because (reason : String)
deriving DecidableEq

namespace NotReady

def message : NotReady → String
  | noProvider => "no default event loop provider"
  | noEventLoop => "no event loop attached"
  | noInterface index => "invalid interface index " ++ Numeral.signed index.toInt
  | because reason => reason

end NotReady

inductive Error
  | malformed (cause : Malformed)
  | outOfRange (cause : OutOfRange)
  | busy
  | overlap (candidate existing : Prefix)
  /-- A router lifetime of zero needs the medium preference (RFC 4191 section 2.2). -/
  | timing
  | notReady (cause : NotReady)
deriving DecidableEq

namespace Error

def message : Error → String
  | malformed cause => "parse error: " ++ cause.message
  | outOfRange cause => "invalid argument: " ++ cause.message
  | busy => "advertisement session is busy"
  | overlap candidate existing =>
    "prefix " ++ candidate.text ++ " overlaps configured prefix " ++ existing.text
  | timing => "router lifetime 0 requires medium router preference"
  | notReady cause => "not ready: " ++ cause.message

end Error

end RouterAdvert
