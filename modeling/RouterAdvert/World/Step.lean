import RouterAdvert.World.Basic

/-!
# Operations on named handles

Everything that can be done to a world, as data, and `step`, which does it. A handle whose name is
taken replaces the older one after the new object is there.
-/

namespace RouterAdvert

inductive Edit
  | network (value : Prefix)
  | onLink (on : Bool)
  | autonomous (on : Bool)
  | validLifetime (seconds : UInt32)
  | preferredLifetime (seconds : UInt32)
deriving DecidableEq

namespace Edit

def apply (o : PrefixInformation) : Edit → Outcome PrefixInformation Log.Event
  | network value =>
    if Prefix.lengthAllowed value.length then {
      state := { o with network := value }
      log := if value.isLong then [.longPrefix value] else [] }
    else .fail o (.outOfRange (.prefixLength value.length))
  | onLink on => { state := { o with onLink := on } }
  | autonomous on => { state := { o with autonomous := on } }
  | validLifetime seconds => { state := { o with validLifetime := seconds } }
  | preferredLifetime seconds => { state := { o with preferredLifetime := seconds } }

end Edit

/-- An operation on a world. Handles are given by their names; `copy` is the name of a handle to
make. -/
inductive Op
  | newSession (session : String) (provider : Option Provider)
  | cloneSession (session copy : String)
  | dropSession (session : String)
  /-- Attaches the named loop, or the default loop of the session's provider. -/
  | attach (session : String) (loop : Option String) (priority : Int)
  | detach (session : String)
  | start (session : String)
  | stop (session : String)
  | set (session : String) (setting : Setting)
  | setLinkAddressText (session text : String)
  | prefer (session : String) (preference : Preference)
  | preferBits (session : String) (bits : UInt8)
  | addPrefix (session network : String)
  | takeMember (session : String) (index : Nat) (copy : String)
  | newLoop (loop name : String)
  | acquireDefault (loop : String)
  | takeLoop (session copy : String)
  | dropLoop (loop : String)
  | newPrefix (network : String)
  | clonePrefix (network copy : String)
  | dropPrefix (network : String)
  | edit (network : String) (change : Edit)
  | setNetworkText (network text : String)
  | snapshot (network copy : String)
  | newSet (set : String)
  | dropSet (set : String)
  | addToSet (set network : String)

inductive Reply
  | done
  | nothing
  | failed (error : Error)
  | unknownHandle
deriving DecidableEq

structure StepResult where
  world : World
  reply : Reply := .done
  log : List World.Entry := []

namespace World

def Result.answer (r : World.Result) : StepResult where
  world := r.state
  reply :=
    match r.result with
    | .ok () => .done
    | .error e => .failed e
  log := r.log

def unchanged (w : World) (reply : Reply) : StepResult := { world := w, reply }

/-- Goes on with the object that a name refers to. -/
def withHandle {α : Type} (w : World) (found : Option α) (go : α → StepResult) : StepResult :=
  match found with
  | none => w.unchanged .unknownHandle
  | some object => go object

/-- Changes the handles to sessions and releases the session that lost one. -/
def rebindSessions (w : World) (handles : Handles SessionId) (old : Option SessionId) :
    StepResult :=
  let next := { w with sessionHandles := handles }
  match old with
  | none => { world := next }
  | some id =>
    let (world, log) := next.releaseUnheld id
    { world, log }

def editPrefix (w : World) (id : PrefixId) (change : Edit) : Result :=
  (change.apply (w.option id)).lift (fun o => { w with prefixes := w.prefixes.set id o })
    (⟨.network id, ·⟩)

def callNamed (w : World) (session : String) (c : Call LoopSource) : StepResult :=
  w.withHandle (w.sessionHandles.get? session) fun id => (w.call id c).answer

def step (w : World) : Op → StepResult
  | .newSession session provider =>
    let id := w.sessions.length
    let made : Session := { provider }
    let next := { w with sessions := w.sessions ++ [some made] }
    next.rebindSessions (w.sessionHandles.bind session id) (w.sessionHandles.get? session)
  | .cloneSession session copy =>
    w.withHandle (w.sessionHandles.get? session) fun id =>
      w.rebindSessions (w.sessionHandles.bind copy id) (w.sessionHandles.get? copy)
  | .dropSession session =>
    w.withHandle (w.sessionHandles.get? session) fun id =>
      w.rebindSessions (w.sessionHandles.drop session) (some id)
  | .attach session none priority =>
    w.withHandle (w.sessionHandles.get? session) fun id => (w.attachDefault id priority).answer
  | .attach session (some loop) priority =>
    w.withHandle (w.loopHandles.get? loop) fun found =>
      w.callNamed session (.attach (.given found) priority)
  | .detach session => w.callNamed session .detach
  | .start session => w.callNamed session .start
  | .stop session => w.callNamed session .stop
  | .set session setting => w.callNamed session (.set setting)
  | .setLinkAddressText session text =>
    match LinkAddress.read? text.toList with
    | none => w.unchanged (.failed (.malformed (.linkAddress text)))
    | some address => w.callNamed session (.set (.linkAddress (some address)))
  | .prefer session preference => w.callNamed session (.prefer preference)
  | .preferBits session bits =>
    match Preference.ofBits? bits with
    | none => w.unchanged (.failed (.outOfRange (.preference bits)))
    | some preference => w.callNamed session (.prefer preference)
  | .addPrefix session network =>
    w.withHandle (w.prefixHandles.get? network) fun id => w.callNamed session (.add id)
  | .takeMember session index copy =>
    w.withHandle (w.sessionHandles.get? session) fun id =>
      match (w.session? id).bind (·.members[index]?) with
      | none => w.unchanged .nothing
      | some member => { world := { w with prefixHandles := w.prefixHandles.bind copy member } }
  | .newLoop loop name =>
    let (made, next) := w.makeLoop name false
    { world := { next with loopHandles := next.loopHandles.bind loop made } }
  | .acquireDefault loop =>
    let (found, next) := w.defaultLoop
    { world := { next with loopHandles := next.loopHandles.bind loop found } }
  | .takeLoop session copy =>
    w.withHandle (w.sessionHandles.get? session) fun id =>
      match (w.session? id).bind (·.loop) with
      | none => w.unchanged .nothing
      | some loop => { world := { w with loopHandles := w.loopHandles.bind copy loop } }
  | .dropLoop loop =>
    w.withHandle (w.loopHandles.get? loop) fun _ =>
      { world := { w with loopHandles := w.loopHandles.drop loop } }
  | .newPrefix network => {
      world := { w with
        prefixes := w.prefixes ++ [default]
        prefixHandles := w.prefixHandles.bind network w.prefixes.length } }
  | .clonePrefix network copy =>
    w.withHandle (w.prefixHandles.get? network) fun id =>
      { world := { w with prefixHandles := w.prefixHandles.bind copy id } }
  | .dropPrefix network =>
    w.withHandle (w.prefixHandles.get? network) fun _ =>
      { world := { w with prefixHandles := w.prefixHandles.drop network } }
  | .edit network change =>
    w.withHandle (w.prefixHandles.get? network) fun id => (w.editPrefix id change).answer
  | .setNetworkText network text =>
    w.withHandle (w.prefixHandles.get? network) fun id =>
      match Prefix.read text with
      | .error cause => w.unchanged (.failed (.malformed (.network text cause)))
      | .ok value => (w.editPrefix id (.network value)).answer
  | .snapshot network copy =>
    w.withHandle (w.prefixHandles.get? network) fun id =>
      { world := { w with snapshots := w.snapshots.bind copy (w.option id) } }
  | .newSet set => { world := { w with sets := w.sets.bind set [] } }
  | .dropSet set =>
    w.withHandle (w.sets.get? set) fun _ => { world := { w with sets := w.sets.drop set } }
  | .addToSet set network =>
    w.withHandle (w.prefixHandles.get? network) fun id =>
      w.withHandle (w.sets.get? set) fun members =>
        Result.answer <| (members.add w.network id).lift
          (fun changed => { w with sets := w.sets.bind set changed }) (⟨.set set, ·⟩)

/-- Carries out operations one after the other, whatever their answers. -/
def run (w : World) : List Op → World
  | [] => w
  | op :: rest => (w.step op).world.run rest

def runLog (w : World) : List Op → List Entry
  | [] => []
  | op :: rest => (w.step op).log ++ (w.step op).world.runLog rest

/-- Carries out operations up to the first that fails. -/
def attempt (w : World) : List Op → Result
  | [] => { state := w }
  | op :: rest =>
    let first := w.step op
    match first.reply with
    | .failed e => { state := first.world, result := .error e, log := first.log }
    | _ =>
      let last := first.world.attempt rest
      { last with log := first.log ++ last.log }

end World

end RouterAdvert
