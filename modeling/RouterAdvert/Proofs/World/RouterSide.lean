import RouterAdvert.Proofs.World.Sides

/-!
# What routers see

Worlds that differ in prefixes and members alone cannot be told apart by operations on routers, and
operations on prefixes lead to such worlds only.
-/

namespace RouterAdvert

def Session.bare (s : Session) : Session := { s with members := [] }

namespace Session

variable {s t : Session}

theorem exists_members_of_bare_eq (h : s.bare = t.bare) : ∃ members, t = { s with members } := by
  obtain ⟨phase, router, members, loop, priority, provider⟩ := t
  simp only [bare, mk.injEq] at h
  obtain ⟨rfl, rfl, -, rfl, rfl, rfl⟩ := h
  exact ⟨members, rfl⟩

theorem loop_eq_of_bare_eq (h : s.bare = t.bare) : s.loop = t.loop := congrArg (·.loop) h

theorem provider_eq_of_bare_eq (h : s.bare = t.bare) : s.provider = t.provider :=
  congrArg (·.provider) h

theorem answer_with_members (s : Session) (members : PrefixSet) (network network' : PrefixId → Prefix)
    {c : Call EventLoop} (hc : ∀ p, c ≠ .add p) :
    (answer network' { s with members } c).state = { (s.answer network c).state with members } ∧
      (answer network' { s with members } c).result = (s.answer network c).result := by
  obtain ⟨phase, router, own, attached, _, provider⟩ := s
  cases c with
  | add p => exact absurd rfl (hc p)
  | attach loop priority => cases attached <;> exact ⟨rfl, rfl⟩
  | start =>
    simp only [answer, start]
    split
    · exact ⟨rfl, rfl⟩
    · split
      · exact ⟨rfl, rfl⟩
      · cases phase <;> exact ⟨rfl, rfl⟩
  | stop => cases phase <;> exact ⟨rfl, rfl⟩
  | set setting =>
    simp only [answer, set]
    cases setting.outOfRange? with
    | some cause => exact ⟨rfl, rfl⟩
    | none =>
      dsimp only
      split
      · exact ⟨rfl, rfl⟩
      · split <;> exact ⟨rfl, rfl⟩
  | detach | prefer => exact ⟨rfl, rfl⟩

theorem bare_answer (h : s.bare = t.bare) (network network' : PrefixId → Prefix)
    (c : Call EventLoop) :
    (s.answer network c).state.bare = (t.answer network' c).state.bare := by
  obtain ⟨members, rfl⟩ := exists_members_of_bare_eq h
  cases c with
  | add p => rfl
  | attach | detach | start | stop | set | prefer =>
    rw [(s.answer_with_members members network network' (by simp)).1]
    rfl

theorem result_answer_of_bare_eq (h : s.bare = t.bare) (network network' : PrefixId → Prefix)
    {c : Call EventLoop} (hc : ∀ p, c ≠ .add p) :
    (s.answer network c).result = (t.answer network' c).result := by
  obtain ⟨members, rfl⟩ := exists_members_of_bare_eq h
  exact (s.answer_with_members members network network' hc).2.symm

end Session

namespace World

/-- Two worlds that agree in everything but prefixes and the members of sets. -/
structure SameRouters (w v : World) : Prop where
  sessions : SameParts Session.bare w v
  loopsMade : w.loopsMade = v.loopsMade
  lastDefault : w.lastDefault = v.lastDefault
  requests : w.requests = v.requests
  sessionHandles : w.sessionHandles = v.sessionHandles
  loopHandles : w.loopHandles = v.loopHandles

variable {w v : World} {id : SessionId}

theorem SameRouters.refl (w : World) : SameRouters w w := ⟨rfl, rfl, rfl, rfl, rfl, rfl⟩

theorem SameRouters.trans {u : World} (h : SameRouters w v) (h' : SameRouters v u) :
    SameRouters w u where
  sessions := h.sessions.trans h'.sessions
  loopsMade := h.loopsMade.trans h'.loopsMade
  lastDefault := h.lastDefault.trans h'.lastDefault
  requests := h.requests.trans h'.requests
  sessionHandles := h.sessionHandles.trans h'.sessionHandles
  loopHandles := h.loopHandles.trans h'.loopHandles

theorem SameRouters.loopRefs_eq (h : SameRouters w v) : w.loopRefs = v.loopRefs := by
  funext loop
  have hattached : ∀ u : World, u.liveSessions.countP (·.loop = some loop) =
      (u.liveSessions.map Session.bare).countP (·.loop = some loop) := by
    intro u
    rw [List.countP_map]
    rfl
  rw [loopRefs, loopRefs, h.loopHandles, hattached, hattached, h.sessions.map_liveSessions]

theorem SameRouters.makeLoop (h : SameRouters w v) (name : String) (isDefault : Bool) :
    (w.makeLoop name isDefault).1 = (v.makeLoop name isDefault).1 ∧
      SameRouters (w.makeLoop name isDefault).2 (v.makeLoop name isDefault).2 := by
  simp only [World.makeLoop, h.loopsMade]
  exact ⟨trivial, h.sessions, rfl, h.lastDefault, h.requests, h.sessionHandles, h.loopHandles⟩

theorem SameRouters.defaultLoop (h : SameRouters w v) :
    w.defaultLoop.1 = v.defaultLoop.1 ∧ SameRouters w.defaultLoop.2 v.defaultLoop.2 := by
  unfold World.defaultLoop
  rw [h.lastDefault, h.loopRefs_eq]
  cases v.lastDefault.filter (v.loopRefs · ≠ 0) with
  | some loop => exact ⟨rfl, h⟩
  | none =>
    obtain ⟨hloop, hnext⟩ := h.makeLoop "default" true
    exact ⟨hloop, hnext.sessions, hnext.loopsMade, congrArg some hloop, hnext.requests,
      hnext.sessionHandles, hnext.loopHandles⟩

theorem SameRouters.obtainLoop (h : SameRouters w v) (interface : Int32) (source : LoopSource) :
    (w.obtainLoop interface source).1 = (v.obtainLoop interface source).1 ∧
      SameRouters (w.obtainLoop interface source).2 (v.obtainLoop interface source).2 := by
  cases source with
  | given loop => exact ⟨rfl, h⟩
  | fresh name => exact h.makeLoop name false
  | perInterface => exact h.makeLoop _ false
  | threadDefault => exact h.defaultLoop

theorem SameRouters.putSession (h : SameRouters w v) {s t : Session} (hst : s.bare = t.bare)
    (id : SessionId) : SameRouters (w.putSession id s) (v.putSession id t) where
  sessions := h.sessions.putSession hst id
  loopsMade := h.loopsMade
  lastDefault := h.lastDefault
  requests := h.requests
  sessionHandles := h.sessionHandles
  loopHandles := h.loopHandles

theorem SameRouters.onSession (h : SameRouters w v) (id : SessionId) (c : Call EventLoop) :
    SameRouters (w.onSession id (Session.answer w.network · c)).state
        (v.onSession id (Session.answer v.network · c)).state ∧
      ((∀ p, c ≠ .add p) → (w.onSession id (Session.answer w.network · c)).result =
        (v.onSession id (Session.answer v.network · c)).result) := by
  unfold World.onSession
  rcases h.sessions.session?_cases id with ⟨hs, ht⟩ | ⟨s, t, hs, ht, hst⟩
  · rw [hs, ht]
    exact ⟨h, fun _ => rfl⟩
  · rw [hs, ht]
    exact ⟨h.putSession (Session.bare_answer hst _ _ c) id, Session.result_answer_of_bare_eq hst _ _⟩

theorem SameRouters.attachFrom (h : SameRouters w v) (id : SessionId) (source : LoopSource)
    (priority : Int) :
    SameRouters (w.attachFrom id source priority).state (v.attachFrom id source priority).state ∧
      (w.attachFrom id source priority).result = (v.attachFrom id source priority).result := by
  rcases h.sessions.session?_cases id with ⟨hs, ht⟩ | ⟨s, t, hs, ht, hst⟩
  · simp only [World.attachFrom, hs, ht]
    exact ⟨h, trivial⟩
  · have hloop := Session.loop_eq_of_bare_eq hst
    have hinterface : s.router.interface = t.router.interface := congrArg (·.router.interface) hst
    cases hl : s.loop with
    | some loop =>
      rw [attachFrom_of_attached hs (by rw [hl]; rfl),
        attachFrom_of_attached ht (by rw [← hloop, hl]; rfl)]
      exact ⟨h, rfl⟩
    | none =>
      obtain ⟨hobtained, hnext⟩ := h.obtainLoop t.router.interface source
      rw [attachFrom_of_detached hs hl, attachFrom_of_detached ht (hloop.symm.trans hl), hinterface,
        hobtained]
      obtain ⟨hstate, hresult⟩ := hnext.onSession id (.attach _ priority)
      exact ⟨hstate, hresult (by simp)⟩

theorem SameRouters.call (h : SameRouters w v) (id : SessionId) (c : Call LoopSource) :
    SameRouters (w.call id c).state (v.call id c).state ∧
      ((∀ p, c ≠ .add p) → (w.call id c).result = (v.call id c).result) := by
  cases c with
  | attach source priority =>
    obtain ⟨hstate, hresult⟩ := h.attachFrom id source priority
    exact ⟨hstate, fun _ => hresult⟩
  | detach => exact (h.onSession id .detach).imp_right fun hresult _ => hresult (by simp)
  | start => exact (h.onSession id .start).imp_right fun hresult _ => hresult (by simp)
  | stop => exact (h.onSession id .stop).imp_right fun hresult _ => hresult (by simp)
  | set setting =>
    exact (h.onSession id (.set setting)).imp_right fun hresult _ => hresult (by simp)
  | prefer preference =>
    exact (h.onSession id (.prefer preference)).imp_right fun hresult _ => hresult (by simp)
  | add p => exact ⟨(h.onSession id (.add p)).1, fun hc => absurd rfl (hc p)⟩

theorem SameRouters.callAll (h : SameRouters w v) (id : SessionId) (calls : List (Call LoopSource)) :
    SameRouters (w.callAll id calls).1 (v.callAll id calls).1 := by
  induction calls generalizing w v with
  | nil => exact h
  | cons c rest ih => exact ih (h.call id c).1

theorem SameRouters.attachDefault (h : SameRouters w v) (id : SessionId) (priority : Int) :
    SameRouters (w.attachDefault id priority).state (v.attachDefault id priority).state ∧
      (w.attachDefault id priority).result = (v.attachDefault id priority).result := by
  rcases h.sessions.session?_cases id with ⟨hs, ht⟩ | ⟨s, t, hs, ht, hst⟩
  · simp only [World.attachDefault, hs, ht]
    exact ⟨h, trivial⟩
  · have hloop := Session.loop_eq_of_bare_eq hst
    have hprovider := Session.provider_eq_of_bare_eq hst
    simp only [World.attachDefault, hs, ht, hloop, hprovider, h.requests]
    cases hl : t.loop with
    | some loop => exact ⟨h, rfl⟩
    | none =>
      cases t.provider with
      | none => exact ⟨h, rfl⟩
      | some provider =>
        have hasked : SameRouters { w with requests := v.requests + 1 }
            { v with requests := v.requests + 1 } :=
          ⟨h.sessions, h.loopsMade, h.lastDefault, rfl, h.sessionHandles, h.loopHandles⟩
        have hcalled := hasked.callAll id (provider.answer v.requests).calls
        simp only [Option.isSome_none, Bool.false_eq_true, if_false]
        cases (provider.answer v.requests).offer with
        | error e => exact ⟨hcalled, rfl⟩
        | ok source => exact hcalled.attachFrom id source priority

theorem SameRouters.callNamed (h : SameRouters w v) (name : String) {c : Call LoopSource}
    (hc : ∀ p, c ≠ .add p) :
    (w.callNamed name c).reply = (v.callNamed name c).reply ∧
      SameRouters (w.callNamed name c).world (v.callNamed name c).world := by
  have hsession : w.sessionHandles.get? name = v.sessionHandles.get? name := by
    rw [h.sessionHandles]
  refine withHandle_agree h hsession fun id => answer_agree ?_
  exact (h.call id c).imp_right fun hresult => hresult hc

theorem SameRouters.bindLoop (h : SameRouters w v) (name : String) (loop : EventLoop) :
    SameRouters { w with loopHandles := w.loopHandles.bind name loop }
      { v with loopHandles := v.loopHandles.bind name loop } where
  sessions := h.sessions
  loopsMade := h.loopsMade
  lastDefault := h.lastDefault
  requests := h.requests
  sessionHandles := h.sessionHandles
  loopHandles := by rw [h.loopHandles]

theorem SameRouters.dropLoop (h : SameRouters w v) (name : String) :
    SameRouters { w with loopHandles := w.loopHandles.drop name }
      { v with loopHandles := v.loopHandles.drop name } where
  sessions := h.sessions
  loopsMade := h.loopsMade
  lastDefault := h.lastDefault
  requests := h.requests
  sessionHandles := h.sessionHandles
  loopHandles := by rw [h.loopHandles]

theorem SameRouters.loop_eq (h : SameRouters w v) (id : SessionId) :
    (w.session? id).bind (·.loop) = (v.session? id).bind (·.loop) := by
  rcases h.sessions.session?_cases id with ⟨hs, ht⟩ | ⟨s, t, hs, ht, hst⟩
  · rw [hs, ht]
  · rw [hs, ht]
    exact Session.loop_eq_of_bare_eq hst

/-- An operation on routers gives the same reply in two worlds that agree in them, and they agree
afterwards. -/
theorem SameRouters.step_of_isRouterSide (h : SameRouters w v) {op : Op}
    (hop : op.isRouterSide = true) :
    (w.step op).reply = (v.step op).reply ∧ SameRouters (w.step op).world (v.step op).world := by
  have hsession : ∀ name, w.sessionHandles.get? name = v.sessionHandles.get? name :=
    fun name => congrArg (·.get? name) h.sessionHandles
  have hloop : ∀ name, w.loopHandles.get? name = v.loopHandles.get? name :=
    fun name => congrArg (·.get? name) h.loopHandles
  cases op with
  | attach session loop priority =>
    cases loop with
    | none =>
      exact withHandle_agree h (hsession session) fun id => answer_agree (h.attachDefault id priority)
    | some loop => exact withHandle_agree h (hloop loop) fun found => h.callNamed session (by simp)
  | detach session | start session | stop session | set session | prefer session =>
    exact h.callNamed session (by simp)
  | setLinkAddressText session text =>
    simp only [step]
    cases LinkAddress.read? text.toList with
    | none => exact ⟨rfl, h⟩
    | some address => exact h.callNamed session (by simp)
  | preferBits session bits =>
    simp only [step]
    cases Preference.ofBits? bits with
    | none => exact ⟨rfl, h⟩
    | some preference => exact h.callNamed session (by simp)
  | newLoop loop name =>
    obtain ⟨hmade, hnext⟩ := h.makeLoop name false
    simp only [step, hmade]
    exact ⟨trivial, hnext.bindLoop loop _⟩
  | acquireDefault loop =>
    obtain ⟨hfound, hnext⟩ := h.defaultLoop
    simp only [step, hfound]
    exact ⟨trivial, hnext.bindLoop loop _⟩
  | takeLoop session copy =>
    refine withHandle_agree h (hsession session) fun id => ?_
    rw [h.loop_eq id]
    cases (v.session? id).bind (·.loop) with
    | none => exact ⟨rfl, h⟩
    | some loop => exact ⟨rfl, h.bindLoop copy loop⟩
  | dropLoop loop => exact withHandle_agree h (hloop loop) fun _ => ⟨rfl, h.dropLoop loop⟩
  | _ => simp [Op.isRouterSide] at hop

theorem SameRouters.step (h : SameRouters w v) {op : Op} (hop : op.isPrefixSide = false) :
    (w.step op).reply = (v.step op).reply ∧ SameRouters (w.step op).world (v.step op).world := by
  cases hrouter : op.isRouterSide with
  | true => exact h.step_of_isRouterSide hrouter
  | false =>
    obtain ⟨hreply, hsessions, hhandles⟩ :=
      h.sessions.step_of_handles Session.provider_eq_of_bare_eq h.sessionHandles hrouter hop
    obtain ⟨sessions, handles, hw⟩ := exists_step_of_handles w hrouter hop
    obtain ⟨sessions', handles', hv⟩ := exists_step_of_handles v hrouter hop
    refine ⟨hreply, hsessions, ?_, ?_, ?_, hhandles, ?_⟩
    · rw [hw, hv]
      exact h.loopsMade
    · rw [hw, hv]
      exact h.lastDefault
    · rw [hw, hv]
      exact h.requests
    · rw [hw, hv]
      exact h.loopHandles

theorem sameRouters_step_of_isPrefixSide (w : World) {op : Op} (hop : op.isPrefixSide = true) :
    SameRouters (w.step op).world w := by
  cases op with
  | addPrefix session network =>
    simp only [step]
    cases w.prefixHandles.get? network with
    | none => exact .refl w
    | some p =>
      simp only [withHandle_some, World.callNamed]
      cases w.sessionHandles.get? session with
      | none => exact .refl w
      | some id =>
        change SameRouters (w.onSession id (Session.add w.network · p)).state w
        cases hs : w.session? id with
        | none =>
          rw [World.onSession, hs]
          exact .refl w
        | some s =>
          rw [onSession_of_live hs]
          refine ⟨.of_set_session hs ?_ rfl, rfl, rfl, rfl, rfl, rfl⟩
          rfl
  | newPrefix | newSet => exact ⟨rfl, rfl, rfl, rfl, rfl, rfl⟩
  | takeMember | clonePrefix | dropPrefix | edit | setNetworkText | snapshot | dropSet | addToSet =>
    simp only [step, withHandle]
    repeat' split
    all_goals exact ⟨rfl, rfl, rfl, rfl, rfl, rfl⟩
  | _ => simp [Op.isPrefixSide] at hop

end World

end RouterAdvert
