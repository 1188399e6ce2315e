import RouterAdvert.EventLoop
import RouterAdvert.LinkAddress
import RouterAdvert.PrefixSet

/-!
# Advertisement sessions

A session holds the router parameters of one advertising interface and the prefixes to announce
there. Its parameters change only while it is idle; the preference and the prefixes may change at
any time.
-/

namespace RouterAdvert

inductive Phase
  | idle
  | advertising
deriving DecidableEq, Repr

namespace Phase

def label : Phase → String
  | idle => "Idle"
  | advertising => "Advertising"

end Phase

structure RouterParameters where
  /-- The interface index; -1 means that none is set. -/
  interface : Int32 := -1
  linkAddress : Option LinkAddress := none
  mtu : Option UInt32 := none
  /-- The hop limit that hosts should use; 0 leaves it to them. -/
  hopLimit : UInt8 := 0
  /-- The router lifetime in seconds; 0 means that the router is no default router. -/
  lifetime : UInt32 := 0
  flags : RouterFlags := {}
deriving DecidableEq

inductive Setting
  | interface (index : Int32)
  | linkAddress (address : Option LinkAddress)
  | mtu (size : UInt32)
  | hopLimit (limit : UInt8)
  | lifetime (seconds : UInt32)
  | managed (on : Bool)
  | other (on : Bool)
deriving DecidableEq

namespace Setting

def outOfRange? : Setting → Option OutOfRange
  | interface index => if index < -1 then some (.interface index) else none
  | mtu size => if size < minMtu then some (.mtu size) else none
  | _ => none

/-- Writes a value into the parameters; the all-zero link address means none. -/
def store : Setting → RouterParameters → RouterParameters
  | interface index, r => { r with interface := index }
  | linkAddress address, r => { r with linkAddress := address.filter (· != .zero) }
  | mtu size, r => { r with mtu := some size }
  | hopLimit limit, r => { r with hopLimit := limit }
  | lifetime seconds, r => { r with lifetime := seconds }
  | managed on, r => { r with flags := { r.flags with managed := on } }
  | other on, r => { r with flags := { r.flags with other := on } }

end Setting

/-- What can be asked of a session, apart from attaching the default loop of its provider. `Loop` is
what stands for the loop to attach: the loop itself or where it comes from. -/
inductive Call (Loop : Type)
  | attach (loop : Loop) (priority : Int)
  | detach
  | start
  | stop
  | set (setting : Setting)
  | prefer (preference : Preference)
  | add (candidate : PrefixId)
deriving DecidableEq

/-- What a provider does when a session asks it for a loop: it may first make calls to that session,
and then offers a loop or fails. A default loop that it attaches in between comes down to the calls
that this leads to. -/
structure ProviderAnswer where
  calls : List (Call LoopSource) := []
  offer : Except Error LoopSource

/-- Hands out the default event loop of a host. A provider may keep a handle to the session that it
serves, which counts as a reference. Whatever else it could keep, such as a loop or another session,
is left out: a provider here has no references to these. -/
structure Provider where
  /-- The answer to a request, given the number of requests before it. -/
  answer : Nat → ProviderAnswer
  holdsSession : Bool := false

namespace Provider

def offering (offer : Except Error LoopSource) : Provider := { answer := fun _ => { offer } }

/-- Hands out the default loop. It always does: that the default can no longer be reached, as when
its thread comes to an end ("thread default event loop unavailable"), is left out. -/
def threadDefault : Provider := offering (.ok .threadDefault)

def failing (reason : String) : Provider := offering (.error (.notReady (.because reason)))

def unbound : Provider := failing "no session"

def named (name : String) : Provider := offering (.ok (.fresh name))

/-- Holds the session and names its loop after the interface; with `attachFirst` it attaches another
loop with that priority before. -/
def perInterface (attachFirst : Option Int) : Provider where
  answer _ := {
    calls := attachFirst.toList.map (.attach (.fresh "first") ·)
    offer := .ok .perInterface }
  holdsSession := true

end Provider

/-- An advertisement session. -/
structure Session where
  phase : Phase := .idle
  router : RouterParameters := {}
  members : PrefixSet := []
  loop : Option EventLoop := none
  priority : Int := 0
  provider : Option Provider := none

namespace Session

/-- The flags to advertise: a router that is no default router has the medium preference. -/
def advertisedFlags (s : Session) : RouterFlags :=
  if s.router.lifetime = 0 then { s.router.flags with preference := .medium } else s.router.flags

def flagsByte (s : Session) : UInt8 := s.advertisedFlags.toByte

/-- Attaches an event loop, unless one is attached. -/
def attach (s : Session) (loop : EventLoop) (priority : Int) : Outcome Session Log.Event :=
  match s.loop with
  | some _ => .fail s .busy
  | none => {
      state := { s with loop := some loop, priority }
      log := [.attached loop.name priority] }

/-- Releases the event loop. -/
def detach (s : Session) : Outcome Session Log.Event :=
  { state := { s with loop := none } }

/-- Starts to advertise, which takes an event loop and an interface. -/
def start (s : Session) : Outcome Session Log.Event :=
  if s.loop.isNone then .fail s (.notReady .noEventLoop)
  else if s.router.interface ≤ 0 then .fail s (.notReady (.noInterface s.router.interface))
  else
    match s.phase with
    | .advertising => { state := s }
    | .idle => {
        state := { s with phase := .advertising }
        log := [.started s.router.interface s.members.length] }

def stop (s : Session) : Outcome Session Log.Event :=
  match s.phase with
  | .advertising => { state := { s with phase := .idle }, log := [.stopping s.router.interface] }
  | .idle => { state := s }

/-- Sets a router parameter. A value out of range is reported before the session being busy, and
that before a zero lifetime that does not go with the preference. -/
def set (s : Session) (setting : Setting) : Outcome Session Log.Event :=
  match setting.outOfRange? with
  | some cause => .fail s (.outOfRange cause)
  | none =>
    if s.phase ≠ .idle then .fail s .busy
    else if setting = .lifetime 0 ∧ s.router.flags.preference ≠ .medium then .fail s .timing
    else { state := { s with router := setting.store s.router } }

/-- Sets the default router preference, in any phase. -/
def prefer (s : Session) (preference : Preference) : Outcome Session Log.Event where
  state := { s with router := { s.router with flags := { s.router.flags with preference } } }
  log :=
    if s.router.lifetime = 0 ∧ preference ≠ .medium then [.preferenceHidden preference] else []

def add (network : PrefixId → Prefix) (s : Session) (candidate : PrefixId) :
    Outcome Session Log.Event :=
  (s.members.add network candidate).lift (fun members => { s with members }) id

end Session

end RouterAdvert
