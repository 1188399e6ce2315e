import RouterAdvert.Proofs.World.Failure

/-!
# Holders of event loops

An event loop is alive as long as a named handle or a session holds it. Attaching, detaching and
releasing a session, and giving a name to a loop or giving it up, each change what a single holder
holds.
-/

namespace RouterAdvert

/-- Whoever may hold an event loop. -/
inductive Holder
  | handle (name : String)
  | session (id : SessionId)
deriving DecidableEq

namespace World

def holds (w : World) : Holder → Option EventLoop
  | .handle name => w.loopHandles.get? name
  | .session id => (w.session? id).bind (·.loop)

/-- An operation that gives one holder another loop, or takes its loop, and leaves all others be. -/
def Rebinds (w : World) (op : Op) (holder : Holder) (loop : Option EventLoop) : Prop :=
  (w.step op).reply = .done ∧
    ∀ other, (w.step op).world.holds other = if other = holder then loop else w.holds other

variable {w w' : World} {id : SessionId} {s : Session} {name : String} {loop : EventLoop}

theorem mem_liveSessions : s ∈ w.liveSessions ↔ ∃ id, w.session? id = some s := by
  have hplace : s ∈ w.liveSessions ↔ some s ∈ w.sessions := by simp [liveSessions]
  rw [hplace, List.mem_iff_getElem?]
  simp only [session?_eq_some_iff]

theorem loopRefs_ne_zero_of_holds {holder : Holder} (h : w.holds holder = some loop) :
    w.loopRefs loop ≠ 0 := by
  rw [loopRefs]
  cases holder with
  | handle name =>
    have := Handles.count_pos_of_get? h
    omega
  | session id =>
    obtain ⟨s, hs, hloop⟩ := Option.bind_eq_some_iff.mp h
    have hpos : 0 < w.liveSessions.countP (·.loop = some loop) :=
      List.countP_pos_iff.mpr ⟨s, mem_liveSessions.mpr ⟨id, hs⟩, decide_eq_true hloop⟩
    omega

theorem Sound.loopRefs_ne_zero_iff (h : Sound w) :
    w.loopRefs loop ≠ 0 ↔ ∃ holder, w.holds holder = some loop := by
  refine ⟨fun hrefs => ?_, fun ⟨holder, hholds⟩ => loopRefs_ne_zero_of_holds hholds⟩
  by_cases hnamed : 0 < w.loopHandles.count loop
  · obtain ⟨⟨name, found⟩, hmem, hfound⟩ := List.countP_pos_iff.mp hnamed
    have hfound : found = loop := of_decide_eq_true hfound
    exact ⟨.handle name, Handles.get?_of_mem h.loopNames (hfound ▸ hmem)⟩
  · have hattached : 0 < w.liveSessions.countP (·.loop = some loop) := by
      rw [loopRefs] at hrefs
      omega
    obtain ⟨s, hmem, hloop⟩ := List.countP_pos_iff.mp hattached
    obtain ⟨id, hs⟩ := mem_liveSessions.mp hmem
    refine ⟨.session id, ?_⟩
    rw [holds, hs]
    exact of_decide_eq_true hloop

theorem holds_of_same (hs : w'.sessions = w.sessions) (hh : w'.loopHandles = w.loopHandles) :
    w'.holds = w.holds := by
  funext holder
  cases holder with
  | handle name => rw [holds, holds, hh]
  | session id => rw [holds, holds, session?_of_sessions_eq hs]

theorem holds_bind (w : World) (name : String) (loop : EventLoop) (holder : Holder) :
    ({ w with loopHandles := w.loopHandles.bind name loop } : World).holds holder =
      if holder = .handle name then some loop else w.holds holder := by
  cases holder with
  | handle other => simp only [holds, Handles.get?_bind, Holder.handle.injEq]
  | session id => rfl

theorem holds_drop (w : World) (name : String) (holder : Holder) :
    ({ w with loopHandles := w.loopHandles.drop name } : World).holds holder =
      if holder = .handle name then none else w.holds holder := by
  cases holder with
  | handle other => simp only [holds, Handles.get?_drop, Holder.handle.injEq]
  | session id => rfl

theorem holds_of_sessions_set (h : w.session? id = some s) {o : Option Session}
    (hs : w'.sessions = w.sessions.set id o) (hh : w'.loopHandles = w.loopHandles)
    (holder : Holder) :
    w'.holds holder = if holder = .session id then o.bind (·.loop) else w.holds holder := by
  cases holder with
  | handle name => rw [holds, hh]; rfl
  | session other =>
    simp only [holds, session?_of_sessions_set (lt_of_session? h) hs, Holder.session.injEq]
    split <;> rfl

theorem holds_putSession (h : w.session? id = some s) (t : Session) (holder : Holder) :
    (w.putSession id t).holds holder = if holder = .session id then t.loop else w.holds holder := by
  have hput : (w.putSession id t).sessions = w.sessions.set id (some t) := rfl
  exact holds_of_sessions_set h hput rfl holder

theorem rebinds_acquireDefault (w : World) (name : String) :
    w.Rebinds (.acquireDefault name) (.handle name) (some w.defaultLoop.1) := by
  refine ⟨rfl, fun other => ?_⟩
  have hsame := holds_of_same w.sessions_defaultLoop w.sameHoldings_defaultLoop.loopHandles
  rw [← hsame]
  exact holds_bind w.defaultLoop.2 name w.defaultLoop.1 other

theorem rebinds_dropLoop (hname : w.loopHandles.get? name = some loop) :
    w.Rebinds (.dropLoop name) (.handle name) none := by
  simp only [Rebinds, step, hname, withHandle_some, true_and]
  exact holds_drop w name

theorem Sound.rebinds_detach (hsound : Sound w) (hname : w.sessionHandles.get? name = some id) :
    w.Rebinds (.detach name) (.session id) none := by
  obtain ⟨s, hs⟩ := hsound.live_of_get? hname
  have hstep : w.step (.detach name) = (w.call id .detach).answer := by
    simp only [World.step, callNamed, hname, withHandle_some]
  rw [Rebinds, hstep]
  refine ⟨reply_answer_of_ok ((result_call hs .detach).trans rfl), fun other => ?_⟩
  exact holds_of_sessions_set hs (sessions_call hs .detach)
    (sameHoldings_call w id .detach).loopHandles other

/-- The last handle to a session takes the session's hold of its loop with it. -/
theorem Sound.rebinds_dropSession (hsound : Sound w)
    (hname : w.sessionHandles.get? name = some id) (hlast : w.sessionRefs id = 1) :
    w.Rebinds (.dropSession name) (.session id) none := by
  obtain ⟨s, hs⟩ := hsound.live_of_get? hname
  have hlive : (w.unnamed name).session? id = some s := hs
  have hunheld : (w.unnamed name).sessionRefs id = 0 := by
    have hrefs := refs_unnamed hsound.sessionNames hname (.session id)
    rw [if_pos rfl] at hrefs
    change (w.unnamed name).sessionRefs id + 1 = w.sessionRefs id at hrefs
    omega
  refine ⟨?_, fun other => ?_⟩
  · simp only [World.step, hname, withHandle_some, reply_rebindSessions]
  · rw [world_dropSession hname]
    rcases releaseUnheld_cases (w.unnamed name) id with ⟨-, hgone | hheld⟩ | ⟨t, -, -, hreleased⟩
    · rw [hlive] at hgone
      cases hgone
    · exact absurd hunheld hheld
    · have hdropped : (w.unnamed name).holds = w.holds := holds_of_same rfl rfl
      rw [← hdropped]
      exact holds_of_sessions_set hlive (congrArg (·.sessions) hreleased)
        (congrArg (·.loopHandles) hreleased) other

end World

end RouterAdvert
