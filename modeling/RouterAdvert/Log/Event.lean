import RouterAdvert.Error

/-!
# Log events

What is worth logging, as data: each event has a level, the component that reports it, a message and
named values.
-/

namespace RouterAdvert.Log

inductive Level
  | error
  | warn
  | info
  | debug
  | trace
deriving DecidableEq, Repr

namespace Level

def verbosity : Level → Nat
  | error => 1
  | warn => 2
  | info => 3
  | debug => 4
  | trace => 5

def name : Level → String
  | error => "ERROR"
  | warn => "WARN"
  | info => "INFO"
  | debug => "DEBUG"
  | trace => "TRACE"

end Level

inductive Value
  | number (n : Int)
  /-- Text that names something in the host and is quoted in plain lines. -/
  | label (text : String)
  | text (text : String)
deriving DecidableEq, Repr

inductive Event
  | released (interface : Int32) (prefixes : Nat)
  | stayedDetached (error : Error)
  | attached (loop : String) (priority : Int)
  | started (interface : Int32) (prefixes : Nat)
  | stopping (interface : Int32)
  | preferenceHidden (preference : Preference)
  | longPrefix (network : Prefix)
  | overlapIgnored (existing candidate : Prefix)
  | added (candidate : Prefix) (count : Nat)
  | built (interface : Int32) (prefixes : Nat)
  | ready (interface : Int32) (prefixes : Nat)
deriving DecidableEq

namespace Event

/-- The level of an event: what an operator wants to see is `info`, all else `debug`. -/
def level : Event → Level
  | started .. | stopping .. | ready .. => .info
  | released .. | stayedDetached .. | attached .. | preferenceHidden .. | longPrefix ..
  | overlapIgnored .. | added .. | built .. => .debug

def target : Event → String
  | released .. | stayedDetached .. | attached .. | started .. | stopping ..
  | preferenceHidden .. =>
    "radv::advertise::session"
  | longPrefix .. => "radv::advertise::prefix"
  | overlapIgnored .. | added .. => "radv::advertise::prefix_set"
  | built .. => "radv::config"
  | ready .. => "radv"

def message : Event → String
  | released .. => "Releasing Router Advertisement session"
  | stayedDetached .. => "No default event loop, staying detached"
  | attached .. => "Attached event loop"
  | started .. => "Started IPv6 Router Advertisement daemon"
  | stopping .. => "Stopping IPv6 Router Advertisement daemon"
  | preferenceHidden .. => "Preference set while router lifetime is 0, advertised as medium"
  | longPrefix .. => "Unusual prefix length greater than 64"
  | overlapIgnored .. => "IPv6 prefix already configured, ignoring"
  | added .. => "Added prefix"
  | built .. => "Built Router Advertisement session from config"
  | ready .. => "Session ready"

private def sessionValues (interface : Int32) (prefixes : Nat) : List (String × Value) :=
  [("ifindex", .number interface.toInt), ("prefixes", .number prefixes)]

def values : Event → List (String × Value)
  | released interface prefixes | started interface prefixes | built interface prefixes
  | ready interface prefixes => sessionValues interface prefixes
  | stayedDetached error => [("error", .text error.message)]
  | attached loop priority => [("event", .label loop), ("priority", .number priority)]
  | stopping interface => [("ifindex", .number interface.toInt)]
  | preferenceHidden preference => [("preference", .text preference.label)]
  | longPrefix network =>
    [("prefix", .text network.address.text), ("prefix_len", .number network.length.toNat)]
  | overlapIgnored existing candidate =>
    [("existing", .text existing.text), ("prefix", .text candidate.text)]
  | added candidate count => [("prefix", .text candidate.text), ("count", .number count)]

/-- The names of all that an event says; the message counts as a value too. -/
def valueNames (e : Event) : List String := "message" :: e.values.map (·.1)

end Event

end RouterAdvert.Log
