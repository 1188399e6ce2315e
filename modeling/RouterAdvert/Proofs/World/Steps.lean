import RouterAdvert.Proofs.World.Calls

/-!
# What operations do to sessions

Most operations leave sessions alone or make one call to a session. The others attach a default
loop, or change the handles to sessions and release the session that lost its last one.
`sessionStep` tells these cases apart.
-/

namespace RouterAdvert

def Op.onSessions : Op → Bool
  | .newSession .. | .cloneSession .. | .dropSession .. | .attach .. | .detach .. | .start ..
  | .stop .. | .set .. | .setLinkAddressText .. | .prefer .. | .preferBits .. | .addPrefix .. => true
  | _ => false

/-- Whether an operation may do more to sessions than make one call. -/
def Op.managesSessions : Op → Bool
  | .newSession .. | .cloneSession .. | .dropSession .. | .attach _ none _ => true
  | _ => false

namespace World

/-- The call that an operation makes to a named session, if it makes a single one. -/
def call? (w : World) : Op → Option (String × Call LoopSource)
  | .attach session (some loop) priority =>
    (w.loopHandles.get? loop).map fun found => (session, .attach (.given found) priority)
  | .detach session => some (session, .detach)
  | .start session => some (session, .start)
  | .stop session => some (session, .stop)
  | .set session setting => some (session, .set setting)
  | .setLinkAddressText session text =>
    (LinkAddress.read? text.toList).map fun address => (session, .set (.linkAddress (some address)))
  | .prefer session preference => some (session, .prefer preference)
  | .preferBits session bits =>
    (Preference.ofBits? bits).map fun preference => (session, .prefer preference)
  | .addPrefix session network => (w.prefixHandles.get? network).map fun id => (session, .add id)
  | _ => none

theorem step_of_call? {w : World} {op : Op} {name : String} {c : Call LoopSource}
    (h : w.call? op = some (name, c)) : w.step op = w.callNamed name c := by
  cases op with
  | attach session loop priority =>
    cases loop with
    | none => simp [call?] at h
    | some loop =>
      rcases Option.map_eq_some_iff.mp h with ⟨found, hfound, heq⟩
      cases heq
      simp [step, hfound]
  | setLinkAddressText session text =>
    rcases Option.map_eq_some_iff.mp h with ⟨address, hread, heq⟩
    cases heq
    simp [step, hread]
  | preferBits session bits =>
    rcases Option.map_eq_some_iff.mp h with ⟨preference, hread, heq⟩
    cases heq
    simp [step, hread]
  | addPrefix session network =>
    rcases Option.map_eq_some_iff.mp h with ⟨found, hfound, heq⟩
    cases heq
    simp [step, hfound]
  | detach session | start session | stop session | set session setting
  | prefer session preference =>
    cases h
    rfl
  | _ => simp [call?] at h

/-- An operation on sessions that makes no call and does not manage them comes down to nothing. -/
theorem world_step_of_idle {w : World} {op : Op} (hs : op.onSessions = true)
    (hc : w.call? op = none) (hm : op.managesSessions = false) : (w.step op).world = w := by
  cases op with
  | newSession | cloneSession | dropSession => simp [Op.managesSessions] at hm
  | attach session loop priority =>
    cases loop with
    | none => simp [Op.managesSessions] at hm
    | some loop =>
      rw [call?, Option.map_eq_none_iff] at hc
      simp [step, hc]
  | detach | start | stop | set | prefer => simp [call?] at hc
  | setLinkAddressText session text =>
    rw [call?, Option.map_eq_none_iff] at hc
    simp [step, hc]
  | preferBits session bits =>
    rw [call?, Option.map_eq_none_iff] at hc
    simp [step, hc]
  | addPrefix session network =>
    rw [call?, Option.map_eq_none_iff] at hc
    simp [step, hc]
  | _ => simp [Op.onSessions] at hs

theorem sessions_step_of_bystander {w : World} {op : Op} (hc : w.call? op = none)
    (hm : op.managesSessions = false) :
    (w.step op).world.sessions = w.sessions ∧
      (w.step op).world.sessionHandles = w.sessionHandles := by
  by_cases hs : op.onSessions = true
  · rw [world_step_of_idle hs hc hm]
    exact ⟨rfl, rfl⟩
  · cases op with
    | acquireDefault loop =>
      exact ⟨w.sessions_defaultLoop, w.sameHoldings_defaultLoop.sessionHandles⟩
    | newLoop | newPrefix | newSet => exact ⟨rfl, rfl⟩
    | takeMember | takeLoop | dropLoop | clonePrefix | dropPrefix | edit | setNetworkText | snapshot
    | dropSet | addToSet =>
      simp only [step, withHandle]
      repeat' split
      all_goals exact ⟨rfl, rfl⟩
    | _ => simp [Op.onSessions] at hs

def exchanges (w : World) (id : SessionId) (op : Op) : List Exchange :=
  match op with
  | .attach session none priority =>
    if w.sessionHandles.get? session = some id then w.defaultExchanges id priority else []
  | _ =>
    match w.call? op with
    | none => []
    | some (session, c) =>
      if w.sessionHandles.get? session = some id then w.exchangesOf id [c] else []

theorem exchanges_of_call? {w : World} {op : Op} {name : String} {c : Call LoopSource}
    (h : w.call? op = some (name, c)) (id : SessionId) :
    w.exchanges id op =
      if w.sessionHandles.get? name = some id then w.exchangesOf id [c] else [] := by
  unfold exchanges
  split
  · simp [call?] at h
  · rw [h]

theorem exchanges_of_bystander {w : World} {op : Op} (hc : w.call? op = none)
    (hm : op.managesSessions = false) (id : SessionId) : w.exchanges id op = [] := by
  unfold exchanges
  split
  · simp [Op.managesSessions] at hm
  · rw [hc]

/-- What an operation does to sessions and their handles. -/
inductive SessionStep (w : World) (op : Op) : Prop
  | still (idle : ∀ id, w.exchanges id op = [])
      (sessions : (w.step op).world.sessions = w.sessions)
      (handles : (w.step op).world.sessionHandles = w.sessionHandles)
  | called {name : String} {found : SessionId} {c : Call LoopSource}
      (call : w.call? op = some (name, c)) (get : w.sessionHandles.get? name = some found)
      (world : (w.step op).world = (w.call found c).state)
  | asked {name : String} {found : SessionId} {priority : Int}
      (is_attach : op = .attach name none priority) (get : w.sessionHandles.get? name = some found)
      (world : (w.step op).world = (w.attachDefault found priority).state)
  | created {name : String} {provider : Option Provider}
      (is_new : op = .newSession name provider)
  | cloned {name copy : String} {found : SessionId}
      (is_clone : op = .cloneSession name copy) (get : w.sessionHandles.get? name = some found)
      (step : w.step op =
        w.rebindSessions (w.sessionHandles.bind copy found) (w.sessionHandles.get? copy))
  | dropped {name : String} {found : SessionId}
      (is_drop : op = .dropSession name) (get : w.sessionHandles.get? name = some found)
      (step : w.step op = w.rebindSessions (w.sessionHandles.drop name) (some found))

theorem sessionStep_of_call? {w : World} {op : Op} {name : String} {c : Call LoopSource}
    (hc : w.call? op = some (name, c)) : SessionStep w op := by
  have hstep := step_of_call? hc
  have hexchanges := exchanges_of_call? hc
  unfold callNamed at hstep
  cases hname : w.sessionHandles.get? name with
  | none =>
    rw [hname] at hstep hexchanges
    exact .still (by simpa using hexchanges) (by rw [hstep]; rfl) (by rw [hstep]; rfl)
  | some found =>
    rw [hname] at hstep
    exact .called hc hname (by rw [hstep]; rfl)

theorem sessionStep (w : World) (op : Op) : SessionStep w op := by
  cases hc : w.call? op with
  | some named => exact sessionStep_of_call? hc
  | none =>
    by_cases hm : op.managesSessions = false
    · exact .still (exchanges_of_bystander hc hm) (sessions_step_of_bystander hc hm).1
        (sessions_step_of_bystander hc hm).2
    · cases op with
      | newSession name provider => exact .created rfl
      | cloneSession name copy =>
        cases hname : w.sessionHandles.get? name with
        | none => exact .still (fun _ => rfl) (by simp [step, hname]) (by simp [step, hname])
        | some found => exact .cloned rfl hname (by simp only [step, withHandle_some, hname])
      | dropSession name =>
        cases hname : w.sessionHandles.get? name with
        | none => exact .still (fun _ => rfl) (by simp [step, hname]) (by simp [step, hname])
        | some found => exact .dropped rfl hname (by simp only [step, withHandle_some, hname])
      | attach name loop priority =>
        cases loop with
        | none =>
          cases hname : w.sessionHandles.get? name with
          | none =>
            refine .still (fun id => ?_) (by simp [step, hname]) (by simp [step, hname])
            simp [exchanges, hname]
          | some found => exact .asked rfl hname (by simp only [step, hname]; rfl)
        | some loop => simp [Op.managesSessions] at hm
      | _ => simp [Op.managesSessions] at hm

/-- A session to which no handle is left is released, and nothing else happens. -/
theorem releaseUnheld_cases (w : World) (id : SessionId) :
    (w.releaseUnheld id).1 = w ∧ (w.session? id = none ∨ w.sessionRefs id ≠ 0) ∨
      ∃ s, w.session? id = some s ∧ w.sessionRefs id = 0 ∧
        (w.releaseUnheld id).1 = { w with sessions := w.sessions.set id none } := by
  unfold releaseUnheld
  cases h : w.session? id with
  | none => exact .inl ⟨rfl, .inl rfl⟩
  | some s =>
    by_cases hrefs : w.sessionRefs id = 0
    · refine .inr ⟨s, rfl, hrefs, ?_⟩
      simp only [hrefs, if_true]
    · refine .inl ⟨?_, .inr hrefs⟩
      simp only [hrefs, if_false]

theorem sameHoldings_releaseUnheld (w : World) (found : SessionId) :
    SameHoldings w (w.releaseUnheld found).1 := by
  rcases releaseUnheld_cases w found with ⟨hkept, -⟩ | ⟨t, -, -, hreleased⟩
  · rw [hkept]
    exact .refl w
  · rw [hreleased]
    exact ⟨rfl, rfl, rfl, rfl, rfl, rfl⟩

theorem sameHoldings_rebindSessions (w : World) (handles : Handles SessionId)
    (old : Option SessionId) :
    SameHoldings { w with sessionHandles := handles } (w.rebindSessions handles old).world := by
  cases old with
  | none => exact .refl _
  | some found => exact sameHoldings_releaseUnheld _ found

theorem sessionHandles_rebindSessions (w : World) (handles : Handles SessionId)
    (old : Option SessionId) : (w.rebindSessions handles old).world.sessionHandles = handles :=
  (sameHoldings_rebindSessions w handles old).sessionHandles

theorem length_sessions_rebindSessions (w : World) (handles : Handles SessionId)
    (old : Option SessionId) :
    (w.rebindSessions handles old).world.sessions.length = w.sessions.length := by
  cases old with
  | none => rfl
  | some found =>
    change (releaseUnheld { w with sessionHandles := handles } found).1.sessions.length = _
    rcases releaseUnheld_cases { w with sessionHandles := handles } found with
      ⟨hkept, -⟩ | ⟨t, -, -, hreleased⟩
    · rw [hkept]
    · rw [hreleased, List.length_set]

theorem sameHoldings_callNamed (w : World) (name : String) (c : Call LoopSource) :
    SameHoldings w (w.callNamed name c).world := by
  unfold callNamed
  cases w.sessionHandles.get? name with
  | none => exact .refl w
  | some found => exact sameHoldings_call w found c

theorem sameHoldings_step_of_onSessions (w : World) {op : Op} (h : op.onSessions = true) :
    ∃ handles, SameHoldings { w with sessionHandles := handles } (w.step op).world := by
  cases hc : w.call? op with
  | some named =>
    rw [step_of_call? hc]
    exact ⟨w.sessionHandles, sameHoldings_callNamed w _ _⟩
  | none =>
    by_cases hm : op.managesSessions = false
    · rw [world_step_of_idle h hc hm]
      exact ⟨w.sessionHandles, .refl w⟩
    · cases op with
      | newSession name provider =>
        have hrest := sameHoldings_rebindSessions
          { w with sessions := w.sessions ++ [some { provider }] }
          (w.sessionHandles.bind name w.sessions.length) (w.sessionHandles.get? name)
        exact ⟨_, hrest.prefixes, hrest.sessionHandles, hrest.prefixHandles, hrest.loopHandles,
          hrest.sets, hrest.snapshots⟩
      | cloneSession name copy =>
        simp only [step]
        cases w.sessionHandles.get? name with
        | none => exact ⟨w.sessionHandles, .refl w⟩
        | some found =>
          exact ⟨_, sameHoldings_rebindSessions w (w.sessionHandles.bind copy found) _⟩
      | dropSession name =>
        simp only [step]
        cases w.sessionHandles.get? name with
        | none => exact ⟨w.sessionHandles, .refl w⟩
        | some found =>
          exact ⟨_, sameHoldings_rebindSessions w (w.sessionHandles.drop name) (some found)⟩
      | attach name loop priority =>
        cases loop with
        | some loop => simp [Op.managesSessions] at hm
        | none =>
          simp only [step]
          cases w.sessionHandles.get? name with
          | none => exact ⟨w.sessionHandles, .refl w⟩
          | some found => exact ⟨w.sessionHandles, sameHoldings_attachDefault w found priority⟩
      | _ => simp [Op.managesSessions] at hm

theorem session?_releaseUnheld (w : World) (found id : SessionId) :
    (w.releaseUnheld found).1.session? id = w.session? id ∨
      (w.releaseUnheld found).1.session? id = none := by
  rcases releaseUnheld_cases w found with ⟨hkept, -⟩ | ⟨t, ht, -, hreleased⟩
  · rw [hkept]
    exact .inl rfl
  · rw [hreleased, session?_release ht]
    by_cases hf : id = found
    · exact .inr (if_pos hf)
    · exact .inl (if_neg hf)

theorem session?_rebindSessions (w : World) (handles : Handles SessionId) (old : Option SessionId)
    (id : SessionId) :
    (w.rebindSessions handles old).world.session? id = w.session? id ∨
      (w.rebindSessions handles old).world.session? id = none := by
  cases old with
  | none => exact .inl rfl
  | some found => exact session?_releaseUnheld { w with sessionHandles := handles } found id

theorem session?_rebindSessions_of_none {w : World} {id : SessionId} (h : w.session? id = none)
    (handles : Handles SessionId) (old : Option SessionId) :
    (w.rebindSessions handles old).world.session? id = none := by
  rcases session?_rebindSessions w handles old id with hkept | hgone
  · rw [hkept, h]
  · exact hgone

theorem session?_create (w : World) (made : Session) (id : SessionId) :
    ({ w with sessions := w.sessions ++ [some made] } : World).session? id =
      if id = w.sessions.length then some made else w.session? id := by
  rw [session?, session?]
  by_cases hlt : id < w.sessions.length
  · rw [List.getElem?_append_left hlt, if_neg (Nat.ne_of_lt hlt)]
  · rw [List.getElem?_append_right (Nat.le_of_not_lt hlt), List.getElem?_singleton]
    by_cases heq : id = w.sessions.length
    · simp [heq]
    · have hbeyond : w.sessions[id]? = none := List.getElem?_eq_none (Nat.le_of_not_lt hlt)
      have hpast : ¬id - w.sessions.length = 0 :=
        Nat.sub_ne_zero_of_lt (Nat.lt_of_le_of_ne (Nat.le_of_not_lt hlt) (Ne.symm heq))
      rw [if_neg hpast, if_neg heq, hbeyond]

end World

end RouterAdvert
