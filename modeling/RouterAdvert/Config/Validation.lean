import RouterAdvert.Config.Basic
import RouterAdvert.LinkAddress
import RouterAdvert.Error

/-!
# Validating a configuration

Validation finds everything that is wrong with a configuration, where building a session stops at
the first error. It also warns of settings that are legal but rarely meant, and it knows which
interfaces and link addresses cannot work although a session would take them.
-/

namespace RouterAdvert

/-- A setting that is legal but rarely meant. -/
inductive Warning
  | noMtu
  | longPrefix (index : Nat) (network : Prefix)
  | lifetimeOrder (index : Nat) (preferred valid : UInt32)
deriving DecidableEq

inductive Fault
  | noInterface
  | badInterface (index : Int32)
  | badLinkAddress (text : String)
  | multicastLinkAddress (address : LinkAddress)
  | smallMtu (size : UInt32)
  | preferenceWithoutLifetime (preference : Preference)
  | unusablePrefix (index : Nat) (error : Error)
  | overlappingPrefix (index : Nat) (network : Prefix) (other : Nat)
deriving DecidableEq

def prefixPlace (index : Nat) : String := "prefix[" ++ Numeral.decimal index ++ "]: "

def Warning.message : Warning → String
  | noMtu => "router.mtu: not specified, MTU option will not be advertised"
  | longPrefix index network =>
    prefixPlace index ++ network.text
      ++ " is longer than /64, hosts cannot autoconfigure from it"
  | lifetimeOrder index preferred valid =>
    prefixPlace index ++ "preferred_lifetime " ++ Numeral.decimal preferred.toNat
      ++ " exceeds valid_lifetime " ++ Numeral.decimal valid.toNat

def Fault.message : Fault → String
  | noInterface => "router.ifindex: not specified"
  | badInterface index =>
    "router.ifindex: " ++ Numeral.signed index.toInt ++ " is not a valid interface"
  | badLinkAddress text => "router.mac: invalid MAC address '" ++ text ++ "'"
  | multicastLinkAddress address => "router.mac: " ++ address.text ++ " is a multicast address"
  | smallMtu size =>
    "router.mtu: " ++ Numeral.decimal size.toNat ++ " is below the IPv6 minimum of "
      ++ Numeral.decimal minMtu.toNat
  | preferenceWithoutLifetime preference =>
    "router.preference: must be medium when lifetime is 0 (got " ++ preference.label ++ ")"
  | unusablePrefix index error => prefixPlace index ++ error.message
  | overlappingPrefix index network other =>
    prefixPlace index ++ network.text ++ " overlaps prefix[" ++ Numeral.decimal other ++ "]"

structure Findings where
  warnings : List Warning := []
  faults : List Fault := []
deriving DecidableEq

namespace Findings

def append (a b : Findings) : Findings := ⟨a.warnings ++ b.warnings, a.faults ++ b.faults⟩

instance : Append Findings := ⟨append⟩

def hasFaults (f : Findings) : Bool := !f.faults.isEmpty

def lines (f : Findings) : List String :=
  f.warnings.map ("[WARN] " ++ ·.message) ++ f.faults.map ("[ERROR] " ++ ·.message)

def warnIf (condition : Bool) (w : Warning) : Findings :=
  { warnings := if condition then [w] else [] }

def faultIf (condition : Bool) (f : Fault) : Findings :=
  { faults := if condition then [f] else [] }

end Findings

namespace RouterConfig

def interfaceFindings (r : RouterConfig) : Findings :=
  match r.interface with
  | none => { faults := [.noInterface] }
  | some index => .faultIf (index < 1) (.badInterface index)

/-- A link address has to be readable and may not be a multicast address. -/
def linkAddressFindings (r : RouterConfig) : Findings :=
  match r.linkAddress with
  | none => {}
  | some text =>
    match LinkAddress.read? text.toList with
    | none => { faults := [.badLinkAddress text] }
    | some address => .faultIf address.isMulticast (.multicastLinkAddress address)

/-- An MTU should be given, and has a least value. -/
def mtuFindings (r : RouterConfig) : Findings :=
  match r.mtu with
  | none => { warnings := [.noMtu] }
  | some size => .faultIf (size < minMtu) (.smallMtu size)

/-- A router that is no default router has the medium preference. -/
def preferenceFindings (r : RouterConfig) : Findings :=
  .faultIf (r.lifetime = 0 ∧ r.preference ≠ .medium) (.preferenceWithoutLifetime r.preference)

def findings (r : RouterConfig) : Findings :=
  r.interfaceFindings ++ r.linkAddressFindings ++ r.mtuFindings ++ r.preferenceFindings

end RouterConfig

namespace PrefixConfig

/-- The prefix that an entry asks for: its text has to be readable and its length allowed. -/
def usable (entry : PrefixConfig) : Except Error Prefix :=
  match Prefix.read entry.network with
  | .error cause => .error (.malformed (.network entry.network cause))
  | .ok network =>
    if Prefix.lengthAllowed network.length then .ok network
    else .error (.outOfRange (.prefixLength network.length))

def warnings (entry : PrefixConfig) (index : Nat) (network : Prefix) : Findings :=
  .warnIf network.isLong (.longPrefix index network)
    ++ .warnIf (entry.validLifetime < entry.preferredLifetime)
      (.lifetimeOrder index entry.preferredLifetime entry.validLifetime)

/-- What is to say about entries from an index on. An entry is compared with the entries before it
that were accepted. -/
def findings (accepted : List (Nat × Prefix)) (index : Nat) : List PrefixConfig → Findings
  | [] => {}
  | entry :: rest =>
    match entry.usable with
    | .error e => { faults := [.unusablePrefix index e] } ++ findings accepted (index + 1) rest
    | .ok network =>
      entry.warnings index network
        ++ match accepted.find? fun (_, other) => other.overlaps network with
          | some (other, _) =>
            { faults := [.overlappingPrefix index network other] }
              ++ findings accepted (index + 1) rest
          | none => findings (accepted ++ [(index, network)]) (index + 1) rest

end PrefixConfig

def Config.validate (c : Config) : Findings :=
  c.router.findings ++ PrefixConfig.findings [] 0 c.prefixes

end RouterAdvert
