import RouterAdvert.Proofs.Session.Exchange
import RouterAdvert.World.Step

/-!
# Calls as exchanges

A call that reaches a session through a world does to it what `Session.answer` says, and to the rest
of the world nothing but make event loops. `exchangesOf` lists what calls in a row come down to for
the session, and `defaultExchanges` does so for the attachment of a default loop, with the calls
that the provider makes.
-/

namespace RouterAdvert.World

theorem session?_eq_some_iff {w : World} {id : SessionId} {s : Session} :
    w.session? id = some s ↔ w.sessions[id]? = some (some s) := by
  unfold session?
  cases w.sessions[id]? with
  | none => simp
  | some o => simp

theorem lt_of_session? {w : World} {id : SessionId} {s : Session} (h : w.session? id = some s) :
    id < w.sessions.length :=
  (List.getElem?_eq_some_iff.mp (session?_eq_some_iff.mp h)).1

theorem session?_of_sessions_eq {w w' : World} (h : w'.sessions = w.sessions) (id : SessionId) :
    w'.session? id = w.session? id := by
  rw [session?, session?, h]

theorem session?_of_sessions_set {w w' : World} {id : SessionId} (h : id < w.sessions.length)
    {o : Option Session} (hw : w'.sessions = w.sessions.set id o) (other : SessionId) :
    w'.session? other = if other = id then o else w.session? other := by
  rw [session?, session?, hw, List.getElem?_set]
  by_cases ho : id = other
  · subst ho
    simp [h]
  · rw [if_neg ho, if_neg (Ne.symm ho)]

theorem session?_release {w : World} {id : SessionId} {s : Session} (h : w.session? id = some s)
    (other : SessionId) :
    ({ w with sessions := w.sessions.set id none } : World).session? other =
      if other = id then none else w.session? other :=
  session?_of_sessions_set (lt_of_session? h) rfl other

theorem session?_putSession {w : World} {id : SessionId} {s : Session} (h : w.session? id = some s)
    (t : Session) (other : SessionId) :
    (w.putSession id t).session? other = if other = id then some t else w.session? other :=
  session?_of_sessions_set (lt_of_session? h) rfl other

theorem set_session_self {w : World} {id : SessionId} {s : Session} (h : w.session? id = some s) :
    w.sessions.set id (some s) = w.sessions := by
  rcases List.getElem?_eq_some_iff.mp (session?_eq_some_iff.mp h) with ⟨hlt, hget⟩
  rw [← hget, List.set_getElem_self]

@[simp] theorem world_unchanged (w : World) (reply : Reply) : (w.unchanged reply).world = w := rfl

@[simp] theorem withHandle_none {α : Type} (w : World) (go : α → StepResult) :
    w.withHandle none go = w.unchanged .unknownHandle := rfl

@[simp] theorem withHandle_some {α : Type} (w : World) (object : α) (go : α → StepResult) :
    w.withHandle (some object) go = go object := rfl

structure SameHoldings (w w' : World) : Prop where
  prefixes : w'.prefixes = w.prefixes
  sessionHandles : w'.sessionHandles = w.sessionHandles
  prefixHandles : w'.prefixHandles = w.prefixHandles
  loopHandles : w'.loopHandles = w.loopHandles
  sets : w'.sets = w.sets
  snapshots : w'.snapshots = w.snapshots

theorem SameHoldings.refl (w : World) : SameHoldings w w := ⟨rfl, rfl, rfl, rfl, rfl, rfl⟩

theorem SameHoldings.trans {u v w : World} (h : SameHoldings u v) (h' : SameHoldings v w) :
    SameHoldings u w where
  prefixes := h'.prefixes.trans h.prefixes
  sessionHandles := h'.sessionHandles.trans h.sessionHandles
  prefixHandles := h'.prefixHandles.trans h.prefixHandles
  loopHandles := h'.loopHandles.trans h.loopHandles
  sets := h'.sets.trans h.sets
  snapshots := h'.snapshots.trans h.snapshots

theorem network_of_prefixes_eq {w w' : World} (h : w'.prefixes = w.prefixes) :
    w'.network = w.network := by
  funext id
  rw [network, network, option, option, h]

theorem SameHoldings.network {w w' : World} (h : SameHoldings w w') : w'.network = w.network :=
  network_of_prefixes_eq h.prefixes

theorem sameHoldings_defaultLoop (w : World) : SameHoldings w w.defaultLoop.2 := by
  unfold defaultLoop
  split
  · exact .refl w
  · exact ⟨rfl, rfl, rfl, rfl, rfl, rfl⟩

theorem sessions_defaultLoop (w : World) : w.defaultLoop.2.sessions = w.sessions := by
  unfold defaultLoop
  split <;> rfl

theorem sameHoldings_obtainLoop (w : World) (interface : Int32) (source : LoopSource) :
    SameHoldings w (w.obtainLoop interface source).2 := by
  cases source with
  | given loop => exact .refl w
  | fresh name => exact ⟨rfl, rfl, rfl, rfl, rfl, rfl⟩
  | perInterface => exact ⟨rfl, rfl, rfl, rfl, rfl, rfl⟩
  | threadDefault => exact w.sameHoldings_defaultLoop

theorem sessions_obtainLoop (w : World) (interface : Int32) (source : LoopSource) :
    (w.obtainLoop interface source).2.sessions = w.sessions := by
  cases source with
  | given loop => rfl
  | fresh name => rfl
  | perInterface => rfl
  | threadDefault => exact w.sessions_defaultLoop

theorem sameHoldings_onSession (w : World) (id : SessionId)
    (act : Session → Outcome Session Log.Event) : SameHoldings w (w.onSession id act).state := by
  unfold onSession
  split
  · exact .refl w
  · exact ⟨rfl, rfl, rfl, rfl, rfl, rfl⟩

theorem sameHoldings_attachFrom (w : World) (id : SessionId) (source : LoopSource)
    (priority : Int) : SameHoldings w (w.attachFrom id source priority).state := by
  unfold attachFrom
  split
  · exact .refl w
  · split
    · exact .refl w
    · exact (sameHoldings_obtainLoop w _ source).trans (sameHoldings_onSession _ id _)

theorem sameHoldings_call (w : World) (id : SessionId) (c : Call LoopSource) :
    SameHoldings w (w.call id c).state := by
  cases c with
  | attach source priority => exact sameHoldings_attachFrom w id source priority
  | detach => exact sameHoldings_onSession w id _
  | start => exact sameHoldings_onSession w id _
  | stop => exact sameHoldings_onSession w id _
  | set setting => exact sameHoldings_onSession w id _
  | prefer preference => exact sameHoldings_onSession w id _
  | add candidate => exact sameHoldings_onSession w id _

theorem sameHoldings_callAll (w : World) (id : SessionId) (calls : List (Call LoopSource)) :
    SameHoldings w (w.callAll id calls).1 := by
  induction calls generalizing w with
  | nil => exact .refl w
  | cons c rest ih => exact (sameHoldings_call w id c).trans (ih _)

/-- A call as it reaches a session: the loop to attach has been obtained. -/
def received (w : World) (s : Session) (c : Call LoopSource) : Call EventLoop :=
  c.map fun source => (w.obtainLoop s.router.interface source).1

variable {w : World} {id : SessionId} {s : Session}

theorem onSession_of_live (h : w.session? id = some s) (act : Session → Outcome Session Log.Event) :
    w.onSession id act = (act s).lift (w.putSession id) (⟨.session id, ·⟩) := by
  rw [onSession, h]

/-- An attachment is refused by a session that is attached, and no loop is obtained for it. -/
theorem attachFrom_of_attached (h : w.session? id = some s) (hl : s.loop.isSome)
    (source : LoopSource) (priority : Int) :
    w.attachFrom id source priority = .fail w .busy := by
  rw [attachFrom, h]
  simp only [hl, if_true]

theorem attachFrom_of_detached (h : w.session? id = some s) (hl : s.loop = none)
    (source : LoopSource) (priority : Int) :
    w.attachFrom id source priority =
      (w.obtainLoop s.router.interface source).2.onSession id
        (·.attach (w.obtainLoop s.router.interface source).1 priority) := by
  rw [attachFrom, h]
  simp [hl]

private theorem attach_of_attached (s : Session) (hl : s.loop.isSome) (loop : EventLoop)
    (priority : Int) : s.attach loop priority = .fail s .busy := by
  rcases Option.isSome_iff_exists.mp hl with ⟨found, hfound⟩
  rw [Session.attach, hfound]

theorem sessions_call (h : w.session? id = some s) (c : Call LoopSource) :
    (w.call id c).state.sessions =
      w.sessions.set id (some (s.answer w.network (w.received s c)).state) := by
  cases c with
  | attach source priority =>
    change (w.attachFrom id source priority).state.sessions = _
    cases hl : s.loop with
    | none =>
      have hnext := session?_of_sessions_eq (sessions_obtainLoop w s.router.interface source) id
      rw [attachFrom_of_detached h hl, onSession_of_live (hnext.trans h)]
      change (w.obtainLoop s.router.interface source).2.sessions.set id _ = _
      rw [sessions_obtainLoop]
      rfl
    | some loop =>
      have hsome : s.loop.isSome := by rw [hl]; rfl
      rw [attachFrom_of_attached h hsome]
      change w.sessions = w.sessions.set id (some (s.attach _ priority).state)
      rw [attach_of_attached s hsome]
      exact (set_session_self h).symm
  | detach | start | stop | set setting | prefer preference | add candidate =>
    exact congrArg (·.state.sessions) (onSession_of_live h _)

theorem result_call (h : w.session? id = some s) (c : Call LoopSource) :
    (w.call id c).result = (s.answer w.network (w.received s c)).result := by
  cases c with
  | attach source priority =>
    change (w.attachFrom id source priority).result = _
    cases hl : s.loop with
    | none =>
      have hnext := session?_of_sessions_eq (sessions_obtainLoop w s.router.interface source) id
      rw [attachFrom_of_detached h hl, onSession_of_live (hnext.trans h)]
      rfl
    | some loop =>
      have hsome : s.loop.isSome := by rw [hl]; rfl
      rw [attachFrom_of_attached h hsome]
      exact (congrArg (·.result) (attach_of_attached s hsome _ priority)).symm
  | detach | start | stop | set setting | prefer preference | add candidate =>
    exact congrArg (·.result) (onSession_of_live h _)

theorem session?_call (h : w.session? id = some s) (c : Call LoopSource) :
    (w.call id c).state.session? id = some (s.answer w.network (w.received s c)).state := by
  rw [session?_of_sessions_set (lt_of_session? h) (sessions_call h c), if_pos rfl]

theorem call_of_released (h : w.session? id = none) (c : Call LoopSource) :
    w.call id c = { state := w } := by
  cases c with
  | attach source priority => rw [call, attachFrom, h]
  | detach | start | stop | set setting | prefer preference | add candidate =>
    rw [call, onSession, h]

theorem session?_call_of_ne {other : SessionId} (hne : other ≠ id) (c : Call LoopSource) :
    (w.call id c).state.session? other = w.session? other := by
  cases h : w.session? id with
  | none => rw [call_of_released h]
  | some s => rw [session?_of_sessions_set (lt_of_session? h) (sessions_call h c), if_neg hne]

theorem session?_call_of_none {other : SessionId} (h : w.session? other = none)
    (c : Call LoopSource) : (w.call id c).state.session? other = none := by
  by_cases ho : other = id
  · subst ho
    rw [call_of_released h]
    exact h
  · exact (session?_call_of_ne ho c).trans h

theorem isSome_session?_call (w : World) (id other : SessionId) (c : Call LoopSource) :
    ((w.call id c).state.session? other).isSome = (w.session? other).isSome := by
  by_cases ho : other = id
  · subst ho
    cases h : w.session? other with
    | none => rw [session?_call_of_none h]
    | some s => rw [session?_call h]; rfl
  · rw [session?_call_of_ne ho]

theorem length_sessions_call (w : World) (id : SessionId) (c : Call LoopSource) :
    (w.call id c).state.sessions.length = w.sessions.length := by
  cases h : w.session? id with
  | none => rw [call_of_released h]
  | some s => rw [sessions_call h c, List.length_set]

def exchangesOf (w : World) (id : SessionId) : List (Call LoopSource) → List Exchange
  | [] => []
  | c :: rest =>
    match w.session? id with
    | none => []
    | some s => ⟨w.received s c, (w.call id c).result⟩ :: (w.call id c).state.exchangesOf id rest

theorem callAll_append (w : World) (id : SessionId) (before after : List (Call LoopSource)) :
    (w.callAll id (before ++ after)).1 = ((w.callAll id before).1.callAll id after).1 := by
  induction before generalizing w with
  | nil => rfl
  | cons c rest ih => exact ih _

/-- Calls in a row lead their session through the exchanges that they come down to. -/
theorem answers_callAll (h : w.session? id = some s) (calls : List (Call LoopSource)) :
    ∃ t, s.Answers w.network (w.exchangesOf id calls) t ∧
      (w.callAll id calls).1.sessions = w.sessions.set id (some t) := by
  induction calls generalizing w s with
  | nil => exact ⟨s, .nil s, (set_session_self h).symm⟩
  | cons c rest ih =>
    rcases ih (session?_call h c) with ⟨t, hanswers, hsessions⟩
    refine ⟨t, ?_, ?_⟩
    · rw [(sameHoldings_call w id c).network] at hanswers
      simp only [exchangesOf, h, result_call h c]
      exact .cons _ hanswers
    · change ((w.call id c).state.callAll id rest).1.sessions = _
      rw [hsessions, sessions_call h c, List.set_set]

end RouterAdvert.World

namespace RouterAdvert

def ProviderAnswer.allCalls (a : ProviderAnswer) (priority : Int) : List (Call LoopSource) :=
  match a.offer with
  | .error _ => a.calls
  | .ok source => a.calls ++ [.attach source priority]

namespace World

variable {w : World} {id : SessionId} {s : Session}

def defaultExchanges (w : World) (id : SessionId) (priority : Int) : List Exchange :=
  match w.session? id with
  | none => []
  | some s =>
    if s.loop.isSome then []
    else
      match s.provider with
      | none => []
      | some provider =>
        { w with requests := w.requests + 1 }.exchangesOf id
          ((provider.answer w.requests).allCalls priority)

theorem attachDefault_of_attached (h : w.session? id = some s) (hl : s.loop.isSome)
    (priority : Int) : w.attachDefault id priority = .fail w .busy := by
  rw [attachDefault, h]
  simp only [hl, if_true]

/-- Without a provider the attachment of a default loop is answered and does nothing. -/
theorem state_attachDefault_of_no_provider (h : w.session? id = some s) (hl : s.loop = none)
    (hp : s.provider = none) (priority : Int) : (w.attachDefault id priority).state = w := by
  rw [attachDefault, h]
  simp [hl, hp]

theorem state_attachDefault_of_provider (h : w.session? id = some s) (hl : s.loop = none)
    {provider : Provider} (hp : s.provider = some provider) (priority : Int) :
    (w.attachDefault id priority).state =
      ({ w with requests := w.requests + 1 }.callAll id
        ((provider.answer w.requests).allCalls priority)).1 := by
  rw [attachDefault, h]
  simp only [hl, hp, Option.isSome_none, Bool.false_eq_true, if_false, ProviderAnswer.allCalls]
  cases (provider.answer w.requests).offer with
  | error e => rfl
  | ok source =>
    simp only [callAll_append]
    rfl

/-- The attachment of a default loop does nothing, or lets a provider make its calls and then
attaches what it offers. -/
theorem state_attachDefault_cases (w : World) (id : SessionId) (priority : Int) :
    (w.attachDefault id priority).state = w ∨
      ∃ s provider, w.session? id = some s ∧ s.provider = some provider ∧
        (w.attachDefault id priority).state =
          ({ w with requests := w.requests + 1 }.callAll id
            ((provider.answer w.requests).allCalls priority)).1 := by
  cases h : w.session? id with
  | none => exact .inl (by rw [attachDefault, h])
  | some s =>
    cases hl : s.loop with
    | some loop => exact .inl (by rw [attachDefault_of_attached h (by rw [hl]; rfl)]; rfl)
    | none =>
      cases hp : s.provider with
      | none => exact .inl (state_attachDefault_of_no_provider h hl hp priority)
      | some provider =>
        exact .inr ⟨s, provider, rfl, hp, state_attachDefault_of_provider h hl hp priority⟩

/-- Attaching a default loop leads the session through the exchanges that it comes down to. -/
theorem answers_attachDefault (h : w.session? id = some s) (priority : Int) :
    ∃ t, s.Answers w.network (w.defaultExchanges id priority) t ∧
      (w.attachDefault id priority).state.sessions = w.sessions.set id (some t) := by
  cases hl : s.loop with
  | some loop =>
    have hsome : s.loop.isSome := by rw [hl]; rfl
    rw [attachDefault_of_attached h hsome]
    refine ⟨s, ?_, (set_session_self h).symm⟩
    simp only [defaultExchanges, h, hsome, if_true]
    exact .nil s
  | none =>
    cases hp : s.provider with
    | none =>
      rw [state_attachDefault_of_no_provider h hl hp]
      refine ⟨s, ?_, (set_session_self h).symm⟩
      simp only [defaultExchanges, h, hl, hp, Option.isSome_none, Bool.false_eq_true, if_false]
      exact .nil s
    | some provider =>
      rw [state_attachDefault_of_provider h hl hp]
      simp only [defaultExchanges, h, hl, hp, Option.isSome_none, Bool.false_eq_true, if_false]
      have hasked : ({ w with requests := w.requests + 1 } : World).session? id = some s := h
      exact answers_callAll hasked _

theorem session?_attachDefault_of_ne {other : SessionId} (hne : other ≠ id) (priority : Int) :
    (w.attachDefault id priority).state.session? other = w.session? other := by
  cases h : w.session? id with
  | none => rw [attachDefault, h]
  | some s =>
    rcases answers_attachDefault h priority with ⟨t, -, hsessions⟩
    rw [session?_of_sessions_set (lt_of_session? h) hsessions, if_neg hne]

theorem session?_attachDefault_of_none {other : SessionId} (h : w.session? other = none)
    (priority : Int) : (w.attachDefault id priority).state.session? other = none := by
  by_cases ho : other = id
  · subst ho
    rw [attachDefault, h]
    exact h
  · exact (session?_attachDefault_of_ne ho priority).trans h

theorem isSome_session?_attachDefault (w : World) (id other : SessionId) (priority : Int) :
    ((w.attachDefault id priority).state.session? other).isSome = (w.session? other).isSome := by
  by_cases ho : other = id
  · subst ho
    cases h : w.session? other with
    | none => rw [session?_attachDefault_of_none h]
    | some s =>
      rcases answers_attachDefault h priority with ⟨t, -, hsessions⟩
      rw [session?_of_sessions_set (lt_of_session? h) hsessions, if_pos rfl]
      rfl
  · rw [session?_attachDefault_of_ne ho]

theorem length_sessions_attachDefault (w : World) (id : SessionId) (priority : Int) :
    (w.attachDefault id priority).state.sessions.length = w.sessions.length := by
  cases h : w.session? id with
  | none => rw [attachDefault, h]
  | some s =>
    rcases answers_attachDefault h priority with ⟨t, -, hsessions⟩
    rw [hsessions, List.length_set]

theorem sameHoldings_attachDefault (w : World) (id : SessionId) (priority : Int) :
    SameHoldings w (w.attachDefault id priority).state := by
  rcases state_attachDefault_cases w id priority with hkept | ⟨s, provider, -, -, hasked⟩
  · rw [hkept]
    exact .refl w
  · rw [hasked]
    have hrequested : SameHoldings w { w with requests := w.requests + 1 } :=
      ⟨rfl, rfl, rfl, rfl, rfl, rfl⟩
    exact hrequested.trans (sameHoldings_callAll _ id _)

end World

end RouterAdvert
