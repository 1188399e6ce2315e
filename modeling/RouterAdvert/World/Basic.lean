import RouterAdvert.Session.Basic

/-!
# Shared objects and their handles

A world holds sessions, prefixes and prefix sets, and the named handles to them. Sessions, prefixes
and event loops are shared: a session lives as long as a handle to it does, and a reference is
wherever an object is named or contained.
-/

namespace RouterAdvert

/-- Named handles to objects, each name at most once. -/
abbrev Handles (α : Type) := List (String × α)

namespace Handles

def get? {α : Type} (hs : Handles α) (name : String) : Option α := hs.lookup name

def drop {α : Type} (hs : Handles α) (name : String) : Handles α := hs.filter (·.1 != name)

def bind {α : Type} (hs : Handles α) (name : String) (object : α) : Handles α :=
  match hs with
  | [] => [(name, object)]
  | (other, found) :: rest =>
    if other = name then (name, object) :: rest else (other, found) :: bind rest name object

def namesOf {α : Type} [DecidableEq α] (hs : Handles α) (object : α) : List String :=
  (hs.filter (·.2 = object)).map (·.1)

def count {α : Type} [DecidableEq α] (hs : Handles α) (object : α) : Nat :=
  hs.countP (·.2 = object)

end Handles

abbrev SessionId := Nat

/-- All objects and handles. Sessions and prefixes are numbered in the order of their creation; the
place of a released session stays empty. -/
structure World where
  sessions : List (Option Session) := []
  prefixes : List PrefixInformation := []
  /-- The number of event loops made so far, which is the serial of the next one. -/
  loopsMade : Nat := 0
  /-- The default loop that was handed out last; it counts only while somebody holds it. -/
  lastDefault : Option EventLoop := none
  requests : Nat := 0
  sessionHandles : Handles SessionId := []
  prefixHandles : Handles PrefixId := []
  loopHandles : Handles EventLoop := []
  sets : Handles PrefixSet := []
  snapshots : Handles PrefixInformation := []

namespace World

/-- A session that has not been released. -/
def session? (w : World) (id : SessionId) : Option Session := w.sessions[id]?.join

def liveSessions (w : World) : List Session := w.sessions.filterMap id

def option (w : World) (id : PrefixId) : PrefixInformation := w.prefixes[id]?.getD default

def network (w : World) (id : PrefixId) : Prefix := (w.option id).network

def heldByProvider (s : Session) : Bool := s.provider.any (·.holdsSession)

def sessionRefs (w : World) (id : SessionId) : Nat :=
  w.sessionHandles.count id + (if (w.session? id).any heldByProvider then 1 else 0)

/-- The number of references to a prefix: its handles and its places in sessions and sets. -/
def prefixRefs (w : World) (id : PrefixId) : Nat :=
  w.prefixHandles.count id + (w.liveSessions.flatMap (·.members)).count id
    + (w.sets.flatMap (·.2)).count id

/-- The number of references to an event loop: its handles and the sessions attached to it. -/
def loopRefs (w : World) (loop : EventLoop) : Nat :=
  w.loopHandles.count loop + w.liveSessions.countP (·.loop = some loop)

/-- What a log entry is about. -/
inductive Subject
  | session (id : SessionId)
  | network (id : PrefixId)
  | set (name : String)
  | command
deriving DecidableEq, Repr

structure Entry where
  subject : Subject
  event : Log.Event
deriving DecidableEq

abbrev Result := Outcome World Entry

def putSession (w : World) (id : SessionId) (s : Session) : World :=
  { w with sessions := w.sessions.set id (some s) }

/-- Lets an operation act on one session. Nothing happens to a session that has been released. -/
def onSession (w : World) (id : SessionId) (act : Session → Outcome Session Log.Event) : Result :=
  match w.session? id with
  | none => { state := w }
  | some s => (act s).lift (w.putSession id) (⟨.session id, ·⟩)

def releaseUnheld (w : World) (id : SessionId) : World × List Entry :=
  match w.session? id with
  | none => (w, [])
  | some s =>
    if w.sessionRefs id = 0 then
      ({ w with sessions := w.sessions.set id none },
        [⟨.session id, .released s.router.interface s.members.length⟩])
    else (w, [])

def makeLoop (w : World) (name : String) (isDefault : Bool) : EventLoop × World :=
  (⟨w.loopsMade, name, isDefault⟩, { w with loopsMade := w.loopsMade + 1 })

/-- The default loop: the one that is held somewhere, else a new one. Where the default is kept can
always be reached; the failure "thread default event loop unavailable" of a thread that comes to an
end is left out. -/
def defaultLoop (w : World) : EventLoop × World :=
  match w.lastDefault.filter (w.loopRefs · ≠ 0) with
  | some loop => (loop, w)
  | none =>
    let (loop, next) := w.makeLoop "default" true
    (loop, { next with lastDefault := some loop })

def obtainLoop (w : World) (interface : Int32) : LoopSource → EventLoop × World
  | .given loop => (loop, w)
  | .fresh name => w.makeLoop name false
  | .perInterface => w.makeLoop ("if" ++ Numeral.signed interface.toInt) false
  | .threadDefault => w.defaultLoop

def attachFrom (w : World) (id : SessionId) (source : LoopSource) (priority : Int) : Result :=
  match w.session? id with
  | none => { state := w }
  | some s =>
    if s.loop.isSome then .fail w .busy
    else
      let (loop, next) := w.obtainLoop s.router.interface source
      next.onSession id (·.attach loop priority)

def call (w : World) (id : SessionId) : Call LoopSource → Result
  | .attach source priority => w.attachFrom id source priority
  | .detach => w.onSession id Session.detach
  | .start => w.onSession id Session.start
  | .stop => w.onSession id Session.stop
  | .set setting => w.onSession id (·.set setting)
  | .prefer preference => w.onSession id (·.prefer preference)
  | .add candidate => w.onSession id (Session.add w.network · candidate)

/-- Carries out calls one after the other, whatever their results, and collects what they log. -/
def callAll (w : World) (id : SessionId) : List (Call LoopSource) → World × List Entry
  | [] => (w, [])
  | c :: rest =>
    let first := w.call id c
    let (last, log) := first.state.callAll id rest
    (last, first.log ++ log)

/-- Attaches the default loop of the session's provider. The provider is asked only if no loop is
attached, and its loop is attached only if none is attached by then. Getting no default loop is no
error: the session stays as it is. -/
def attachDefault (w : World) (id : SessionId) (priority : Int) : Result :=
  match w.session? id with
  | none => { state := w }
  | some s =>
    if s.loop.isSome then .fail w .busy
    else
      match s.provider with
      | none => { state := w, log := [⟨.session id, .stayedDetached (.notReady .noProvider)⟩] }
      | some provider =>
        let answer := provider.answer w.requests
        let (asked, log) := { w with requests := w.requests + 1 }.callAll id answer.calls
        match answer.offer with
        | .error e => { state := asked, log := log ++ [⟨.session id, .stayedDetached e⟩] }
        | .ok source =>
          let last := asked.attachFrom id source priority
          { last with log := log ++ last.log }

end World

end RouterAdvert
