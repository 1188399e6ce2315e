import RouterAdvert.Proofs.World.References
import RouterAdvert.Proofs.World.Steps

/-!
# Counters of references

Each shared object has a counter that goes up when a reference to it is taken and down when one is
given up, and a session whose counter reaches zero gives up all that it holds. `settle` keeps the
counters for an operation without looking for references elsewhere.
-/

namespace RouterAdvert

/-- The counters of all shared objects. -/
abbrev Counts := Ref → Nat

namespace Counts

def take (c : Counts) (taken : List Ref) : Counts := fun r => c r + taken.count r

def give (c : Counts) (given : List Ref) : Counts := fun r => c r - given.count r

/-- Counts a handle to a session that is given up, and with the last one what the session holds. -/
def giveSession (c : Counts) (id : SessionId) (holdings : List Ref) : Counts :=
  let next := c.give [.session id]
  if next (.session id) = 0 then next.give holdings else next

theorem give_nil (c : Counts) : c.give [] = c := rfl

end Counts

namespace Session

/-- The references that a session takes when it is called. -/
def taken (network : PrefixId → Prefix) (s : Session) : Call EventLoop → List Ref
  | .attach loop _ => if s.loop.isNone then [.loop loop] else []
  | .add candidate =>
    if (s.members.firstOverlap? network (network candidate)).isNone then [.network candidate] else []
  | _ => []

/-- The references that a session gives up when it is called. -/
def given (s : Session) : Call EventLoop → List Ref
  | .detach => s.loop.toList.map .loop
  | _ => []

theorem count_holdings_answer (network : PrefixId → Prefix) (s : Session) (c : Call EventLoop)
    (r : Ref) :
    (s.answer network c).state.holdings.count r + (s.given c).count r =
      s.holdings.count r + (s.taken network c).count r := by
  cases c with
  | attach loop priority =>
    cases hl : s.loop with
    | none => simp [answer, attach, holdings, given, taken, hl]
    | some found => simp [answer, attach, holdings, given, taken, hl, Outcome.fail]
  | detach => simp [answer, detach, holdings, given, taken, List.count_append]
  | start =>
    simp only [answer, start]
    repeat' split
    all_goals rfl
  | stop =>
    simp only [answer, stop]
    split <;> rfl
  | set setting =>
    simp only [answer, set]
    repeat' split
    all_goals rfl
  | prefer preference => rfl
  | add candidate =>
    simp only [answer, add, PrefixSet.add, taken]
    cases s.members.firstOverlap? network (network candidate) with
    | none =>
      simp only [holdings, Outcome.lift, given, List.map_append, List.count_append,
        Option.isNone_none, if_true, List.count_nil]
      simp
      omega
    | some existing => simp [holdings, Outcome.lift, given]

end Session

namespace World

def settleCalls (w : World) (c : Counts) (id : SessionId) : List (Call LoopSource) → Counts
  | [] => c
  | call :: rest =>
    match w.session? id with
    | none => c
    | some s =>
      let received := w.received s call
      (w.call id call).state.settleCalls ((c.take (s.taken w.network received)).give
        (s.given received)) id rest

def settleNamed (w : World) (c : Counts) (session : String) (call : Call LoopSource) : Counts :=
  match w.sessionHandles.get? session with
  | none => c
  | some id => w.settleCalls c id [call]

def settleDefault (w : World) (c : Counts) (id : SessionId) (priority : Int) : Counts :=
  match w.session? id with
  | none => c
  | some s =>
    if s.loop.isSome then c
    else
      match s.provider with
      | none => c
      | some provider =>
        { w with requests := w.requests + 1 }.settleCalls c id
          ((provider.answer w.requests).allCalls priority)

def settleHandle (w : World) (c : Counts) (old : Option SessionId) : Counts :=
  match old with
  | none => c
  | some id => c.giveSession id ((w.session? id).elim [] (·.holdings))

def settle (w : World) (c : Counts) : Op → Counts
  | .newSession session provider =>
    let made := Ref.session w.sessions.length
    let taken := (if provider.any (·.holdsSession) then [made] else []) ++ [made]
    w.settleHandle (c.take taken) (w.sessionHandles.get? session)
  | .cloneSession session copy =>
    match w.sessionHandles.get? session with
    | none => c
    | some id => w.settleHandle (c.take [.session id]) (w.sessionHandles.get? copy)
  | .dropSession session => w.settleHandle c (w.sessionHandles.get? session)
  | .attach session none priority =>
    match w.sessionHandles.get? session with
    | none => c
    | some id => w.settleDefault c id priority
  | .takeMember session index copy =>
    match (w.sessionHandles.get? session).bind fun id =>
        (w.session? id).bind (·.members[index]?) with
    | none => c
    | some member =>
      (c.take [.network member]).give ((w.prefixHandles.get? copy).toList.map .network)
  | .newLoop loop name =>
    (c.take [.loop (w.makeLoop name false).1]).give ((w.loopHandles.get? loop).toList.map .loop)
  | .acquireDefault loop =>
    (c.take [.loop w.defaultLoop.1]).give ((w.loopHandles.get? loop).toList.map .loop)
  | .takeLoop session copy =>
    match (w.sessionHandles.get? session).bind fun id => (w.session? id).bind (·.loop) with
    | none => c
    | some loop => (c.take [.loop loop]).give ((w.loopHandles.get? copy).toList.map .loop)
  | .dropLoop loop => c.give ((w.loopHandles.get? loop).toList.map .loop)
  | .newPrefix network =>
    (c.take [.network w.prefixes.length]).give
      ((w.prefixHandles.get? network).toList.map .network)
  | .clonePrefix network copy =>
    match w.prefixHandles.get? network with
    | none => c
    | some id => (c.take [.network id]).give ((w.prefixHandles.get? copy).toList.map .network)
  | .dropPrefix network => c.give ((w.prefixHandles.get? network).toList.map .network)
  | .newSet set | .dropSet set => c.give (((w.sets.get? set).getD []).map .network)
  | .addToSet set network =>
    match w.prefixHandles.get? network, w.sets.get? set with
    | some id, some members =>
      if (members.firstOverlap? w.network (w.network id)).isNone then c.take [.network id] else c
    | _, _ => c
  | op =>
    match w.call? op with
    | none => c
    | some (session, call) => w.settleNamed c session call

theorem settle_of_call? {w : World} {op : Op} {name : String} {call : Call LoopSource}
    (hc : w.call? op = some (name, call)) (c : Counts) :
    w.settle c op = w.settleNamed c name call := by
  cases op with
  | detach | start | stop | set | setLinkAddressText | prefer | preferBits | addPrefix =>
    simp only [settle, hc]
  | attach session loop priority =>
    cases loop with
    | none => simp [call?] at hc
    | some loop => simp only [settle, hc]
  | _ => simp [call?] at hc

/-- An operation that should make a call and cannot takes and gives up nothing. -/
theorem settle_of_idle {w : World} {op : Op} (hs : op.onSessions = true) (hc : w.call? op = none)
    (hm : op.managesSessions = false) (c : Counts) : w.settle c op = c := by
  cases op with
  | detach | start | stop | set | setLinkAddressText | prefer | preferBits | addPrefix =>
    simp only [settle, hc]
  | attach session loop priority =>
    cases loop with
    | none => simp [Op.managesSessions] at hm
    | some loop => simp only [settle, hc]
  | newSession | cloneSession | dropSession => simp [Op.managesSessions] at hm
  | _ => simp [Op.onSessions] at hs

def settleAll (w : World) (c : Counts) : List Op → Counts
  | [] => c
  | op :: rest => (w.step op).world.settleAll (w.settle c op) rest

end World

end RouterAdvert
