import RouterAdvert.Proofs.World.DefaultAttachment
import RouterAdvert.Proofs.World.Holders

/-!
# One default loop

Whoever acquires the default loop gets the one that was handed out last while anybody holds it, and
else a new one. So all who hold a default loop hold the last one, as long as no provider keeps an
older one for itself and hands it out later. This is an invariant of every operation, and of the
calls that providers make within one.
-/

namespace RouterAdvert

/-- A provider that keeps no default loop for itself: what it attaches or offers is no default loop,
or is acquired at that moment. -/
def Provider.HoldsNoDefault (p : Provider) : Prop :=
  ∀ n offered loop priority, .attach (.given loop) priority ∈ (p.answer n).allCalls offered →
    loop.isDefault = false

/-- A provider that always offers the same holds no default loop unless it offers one. -/
theorem Provider.holdsNoDefault_offering {offer : Except Error LoopSource}
    (h : ∀ loop, offer = .ok (.given loop) → loop.isDefault = false) :
    (Provider.offering offer).HoldsNoDefault := by
  intro n offered loop priority hmem
  cases offer with
  | error e => cases hmem
  | ok source =>
    cases List.mem_singleton.mp hmem
    exact h loop rfl

namespace World

variable {w w' : World} {id : SessionId} {s : Session} {name : String} {loop : EventLoop}
  {made : Nat}

theorem defaultLoop_cases (w : World) :
    (∃ loop, w.lastDefault = some loop ∧ w.loopRefs loop ≠ 0 ∧ w.defaultLoop = (loop, w)) ∨
      (∀ loop, w.lastDefault = some loop → w.loopRefs loop = 0) ∧
        w.defaultLoop = (⟨w.loopsMade, "default", true⟩,
          { w with
            loopsMade := w.loopsMade + 1
            lastDefault := some ⟨w.loopsMade, "default", true⟩ }) := by
  unfold defaultLoop
  cases hfound : w.lastDefault.filter (w.loopRefs · ≠ 0) with
  | some loop =>
    obtain ⟨hlast, hrefs⟩ := Option.filter_eq_some_iff.mp hfound
    exact .inl ⟨loop, hlast, of_decide_eq_true hrefs, rfl⟩
  | none =>
    refine .inr ⟨fun loop hlast => ?_, rfl⟩
    have hrefs := Option.filter_eq_none_iff.mp hfound loop hlast
    simpa using hrefs

/-- All who hold a default loop hold the one that was handed out last. `made` is a number of loops
that were made at an earlier time. -/
structure OneDefault (made : Nat) (w : World) : Prop where
  grown : made ≤ w.loopsMade
  held : ∀ holder loop, w.holds holder = some loop → loop.isDefault → w.lastDefault = some loop
  last : ∀ loop, w.lastDefault = some loop → loop.isDefault ∧ loop.serial < w.loopsMade

theorem oneDefault_empty : OneDefault 0 {} where
  grown := Nat.le_refl 0
  held := by
    intro holder loop hholds
    cases holder <;> cases hholds
  last := by
    intro loop hlast
    cases hlast

theorem handle_of_call? {op : Op} {priority : Int}
    (h : w.call? op = some (name, .attach (.given loop) priority)) :
    ∃ handle, w.holds (.handle handle) = some loop := by
  cases op with
  | attach session source level =>
    cases source with
    | none => simp [call?] at h
    | some handle =>
      obtain ⟨found, hfound, heq⟩ := Option.map_eq_some_iff.mp h
      cases heq
      exact ⟨handle, hfound⟩
  | _ => simp [call?] at h

namespace OneDefault

theorem of_held (h : OneDefault made w) (hmade : w.loopsMade ≤ w'.loopsMade)
    (hlast : w'.lastDefault = w.lastDefault)
    (hheld : ∀ holder loop, w'.holds holder = some loop → loop.isDefault →
      w.lastDefault = some loop) : OneDefault made w' where
  grown := Nat.le_trans h.grown hmade
  held holder loop hholds hdefault := hlast.trans (hheld holder loop hholds hdefault)
  last loop hfound := by
    obtain ⟨hdefault, hserial⟩ := h.last loop (hlast ▸ hfound)
    exact ⟨hdefault, Nat.lt_of_lt_of_le hserial hmade⟩

/-- One holder may get a loop if a default loop that it gets is the last one. -/
theorem of_rebound (h : OneDefault made w) (hmade : w.loopsMade ≤ w'.loopsMade)
    (hlast : w'.lastDefault = w.lastDefault) {holder : Holder} {given : Option EventLoop}
    (hheld : ∀ a, w'.holds a = if a = holder then given else w.holds a)
    (hgiven : ∀ loop, given = some loop → loop.isDefault → w.lastDefault = some loop) :
    OneDefault made w' := by
  apply h.of_held hmade hlast
  intro a loop hholds hdefault
  rw [hheld] at hholds
  split at hholds
  · exact hgiven loop hholds hdefault
  · exact h.held a loop hholds hdefault

theorem eq_of_held (h : OneDefault made w) {a b : Holder} {other : EventLoop}
    (ha : w.holds a = some loop) (hb : w.holds b = some other) (hloop : loop.isDefault)
    (hother : other.isDefault) : loop = other := by
  have hlast := h.held a loop ha hloop
  rw [h.held b other hb hother] at hlast
  exact (Option.some.inj hlast).symm

/-- When the last holder of a default loop lets go of it, nobody holds one. -/
theorem unheld_of_let_go (h : OneDefault made w) {op : Op} {holder : Holder}
    (hgone : w.Rebinds op holder none) (hholds : w.holds holder = some loop)
    (hdefault : loop.isDefault) (honly : ∀ a, w.holds a = some loop → a = holder) (a : Holder)
    (found : EventLoop) (ha : (w.step op).world.holds a = some found) : found.isDefault = false := by
  rw [hgone.2] at ha
  split at ha
  · cases ha
  · next hne =>
    -- Another default loop would be the one that was let go of, which nobody else held.
    apply Bool.eq_false_iff.mpr
    intro hfound
    rw [← h.eq_of_held hholds ha hdefault hfound] at ha
    exact hne (honly a ha)

/-- A default loop that somebody holds is the one to acquire. -/
theorem defaultLoop_of_held (h : OneDefault made w) {holder : Holder}
    (hholds : w.holds holder = some loop) (hdefault : loop.isDefault) :
    w.defaultLoop = (loop, w) := by
  have hlast := h.held holder loop hholds hdefault
  rcases w.defaultLoop_cases with ⟨found, hfound, -, heq⟩ | ⟨hunheld, -⟩
  · rw [hlast] at hfound
    cases hfound
    exact heq
  · exact absurd (hunheld loop hlast) (loopRefs_ne_zero_of_holds hholds)

theorem fst_defaultLoop (h : OneDefault made w) (hsound : Sound w)
    (hnone : ∀ a loop, w.holds a = some loop → loop.isDefault = false) :
    w.defaultLoop.1 = ⟨w.loopsMade, "default", true⟩ := by
  rcases w.defaultLoop_cases with ⟨loop, hlast, hrefs, -⟩ | ⟨-, hmade⟩
  · obtain ⟨a, hholds⟩ := hsound.loopRefs_ne_zero_iff.mp hrefs
    have hdefault := (h.last loop hlast).1
    rw [hnone a loop hholds] at hdefault
    cases hdefault
  · exact congrArg Prod.fst hmade

theorem defaultLoop (h : OneDefault made w) :
    OneDefault made w.defaultLoop.2 ∧ w.defaultLoop.2.lastDefault = some w.defaultLoop.1 := by
  rcases w.defaultLoop_cases with ⟨loop, hlast, -, hfound⟩ | ⟨hunheld, hmade⟩
  · rw [hfound]
    exact ⟨h, hlast⟩
  · rw [hmade]
    refine ⟨⟨Nat.le_succ_of_le h.grown, ?_, ?_⟩, rfl⟩
    · -- Nobody may hold a default loop when another one is made.
      intro holder loop hholds hdefault
      have hlast := h.held holder loop hholds hdefault
      exact absurd (hunheld loop hlast) (loopRefs_ne_zero_of_holds hholds)
    · intro loop hlast
      cases hlast
      exact ⟨rfl, Nat.lt_succ_self _⟩

theorem obtainLoop (h : OneDefault made w) (interface : Int32) {source : LoopSource}
    (hgiven : ∀ loop, source = .given loop → loop.isDefault → w.lastDefault = some loop) :
    let obtained := w.obtainLoop interface source
    OneDefault made obtained.2 ∧
      (obtained.1.isDefault → obtained.2.lastDefault = some obtained.1) := by
  cases source with
  | given loop => exact ⟨h, hgiven loop rfl⟩
  | fresh name => exact ⟨h.of_held (Nat.le_succ _) rfl h.held, fun hdefault => by cases hdefault⟩
  | perInterface => exact ⟨h.of_held (Nat.le_succ _) rfl h.held, fun hdefault => by cases hdefault⟩
  | threadDefault => exact ⟨h.defaultLoop.1, fun _ => h.defaultLoop.2⟩

theorem attachFrom (h : OneDefault made w) {source : LoopSource} (priority : Int)
    (hgiven : ∀ loop, source = .given loop → loop.isDefault → w.lastDefault = some loop) :
    OneDefault made (w.attachFrom id source priority).state := by
  cases hs : w.session? id with
  | none =>
    rw [World.attachFrom, hs]
    exact h
  | some s =>
    cases hl : s.loop with
    | some loop =>
      rw [attachFrom_of_attached hs (by rw [hl]; rfl)]
      exact h
    | none =>
      obtain ⟨hobtained, hlast⟩ := h.obtainLoop s.router.interface hgiven
      have hlive := (session?_of_sessions_eq (w.sessions_obtainLoop s.router.interface source) id).trans
        hs
      rw [state_attachFrom_of_detached hs hl]
      refine hobtained.of_rebound (Nat.le_refl _) rfl (holds_putSession hlive _) ?_
      intro loop heq hdefault
      cases heq
      exact hlast hdefault

theorem onSession (h : OneDefault made w) {c : Call EventLoop}
    (hc : ∀ loop priority, c ≠ .attach loop priority) :
    OneDefault made (w.onSession id (·.answer w.network c)).state := by
  cases hs : w.session? id with
  | none =>
    rw [World.onSession, hs]
    exact h
  | some s =>
    rw [onSession_of_live hs]
    refine h.of_rebound (Nat.le_refl _) rfl (holds_putSession hs _) ?_
    intro loop hloop
    apply h.held (.session id) loop
    rw [holds, hs]
    exact (Session.effect_answer w.network s c).loop_of_ne_attach hc hloop

theorem call (h : OneDefault made w) {c : Call LoopSource}
    (hgiven : ∀ loop priority, c = .attach (.given loop) priority → loop.isDefault →
      w.lastDefault = some loop) : OneDefault made (w.call id c).state := by
  cases c with
  | attach source priority =>
    apply h.attachFrom priority
    intro loop hsource
    exact hgiven loop priority (congrArg (Call.attach · priority) hsource)
  | detach => exact h.onSession (c := .detach) (by simp)
  | start => exact h.onSession (c := .start) (by simp)
  | stop => exact h.onSession (c := .stop) (by simp)
  | set setting => exact h.onSession (c := .set setting) (by simp)
  | prefer preference => exact h.onSession (c := .prefer preference) (by simp)
  | add candidate => exact h.onSession (c := .add candidate) (by simp)

theorem callAll (h : OneDefault made w) {calls : List (Call LoopSource)}
    (hgiven : ∀ loop priority, .attach (.given loop) priority ∈ calls → loop.isDefault = false) :
    OneDefault made (w.callAll id calls).1 := by
  induction calls generalizing w with
  | nil => exact h
  | cons c rest ih =>
    have hfirst : OneDefault made (w.call id c).state := by
      apply h.call
      intro loop priority hc hdefault
      have := hgiven loop priority (hc ▸ List.mem_cons_self)
      rw [hdefault] at this
      cases this
    apply ih hfirst
    intro loop priority hmem
    exact hgiven loop priority (List.mem_cons_of_mem c hmem)

theorem attachDefault (h : OneDefault made w) (priority : Int)
    (hproviders : ∀ s p, w.session? id = some s → s.provider = some p → p.HoldsNoDefault) :
    OneDefault made (w.attachDefault id priority).state := by
  rcases state_attachDefault_cases w id priority with hkept | ⟨s, p, hs, hp, hasked⟩
  · rw [hkept]
    exact h
  · rw [hasked]
    have hrequested : OneDefault made { w with requests := w.requests + 1 } :=
      h.of_held (Nat.le_refl _) rfl h.held
    exact hrequested.callAll (hproviders s p hs hp w.requests priority)

theorem bind (h : OneDefault made w) (name : String)
    (hloop : loop.isDefault → w.lastDefault = some loop) :
    OneDefault made { w with loopHandles := w.loopHandles.bind name loop } := by
  refine h.of_rebound (Nat.le_refl _) rfl (holds_bind w name loop) ?_
  intro found heq hdefault
  cases heq
  exact hloop hdefault

theorem releaseUnheld (h : OneDefault made w) (id : SessionId) :
    OneDefault made (w.releaseUnheld id).1 := by
  rcases releaseUnheld_cases w id with ⟨hkept, -⟩ | ⟨s, hs, -, hreleased⟩
  · rw [hkept]
    exact h
  · have hsessions := congrArg (·.sessions) hreleased
    have hhandles := congrArg (·.loopHandles) hreleased
    have hmade := congrArg (·.loopsMade) hreleased
    refine h.of_rebound (Nat.le_of_eq hmade.symm) (congrArg (·.lastDefault) hreleased)
      (holds_of_sessions_set hs hsessions hhandles) ?_
    intro loop hnone
    cases hnone

theorem rebindSessions (h : OneDefault made w) (handles : Handles SessionId)
    (old : Option SessionId) : OneDefault made (w.rebindSessions handles old).world := by
  have hnext : OneDefault made { w with sessionHandles := handles } :=
    h.of_held (Nat.le_refl _) rfl h.held
  cases old with
  | none => exact hnext
  | some id => exact hnext.releaseUnheld id

theorem create (h : OneDefault made w) (provider : Option Provider) :
    OneDefault made { w with sessions := w.sessions ++ [some { provider }] } := by
  refine h.of_held (Nat.le_refl _) rfl fun holder loop hholds hdefault => ?_
  cases holder with
  | handle name => exact h.held (.handle name) loop hholds hdefault
  | session id =>
    rw [holds, session?_create] at hholds
    split at hholds
    · cases hholds
    · exact h.held (.session id) loop hholds hdefault

theorem step_of_not_onSessions (h : OneDefault made w) {op : Op} (hs : ¬op.onSessions = true) :
    OneDefault made (w.step op).world := by
  cases op with
  | newLoop handle label =>
    have hnext : OneDefault made { w with loopsMade := w.loopsMade + 1 } :=
      h.of_held (Nat.le_succ _) rfl h.held
    exact hnext.bind handle fun hdefault => by cases hdefault
  | acquireDefault handle => exact h.defaultLoop.1.bind handle fun _ => h.defaultLoop.2
  | takeLoop session copy =>
    simp only [World.step]
    cases w.sessionHandles.get? session with
    | none => exact h
    | some id =>
      rw [withHandle_some]
      cases hloop : (w.session? id).bind (·.loop) with
      | none => exact h
      | some loop => exact h.bind copy (h.held (.session id) loop hloop)
  | dropLoop handle =>
    simp only [World.step]
    cases w.loopHandles.get? handle with
    | none => exact h
    | some loop =>
      refine h.of_rebound (Nat.le_refl _) rfl (holds_drop w handle) ?_
      intro found hnone
      cases hnone
  | newPrefix | newSet | takeMember | clonePrefix | dropPrefix | edit | setNetworkText | snapshot
  | dropSet | addToSet =>
    simp only [World.step, withHandle]
    repeat' split
    all_goals exact h.of_held (Nat.le_refl _) rfl h.held
  | _ => simp [Op.onSessions] at hs

theorem step_of_managesSessions (h : OneDefault made w)
    (hproviders : ∀ id s p, w.session? id = some s → s.provider = some p → p.HoldsNoDefault)
    {op : Op} (hm : op.managesSessions = true) : OneDefault made (w.step op).world := by
  cases op with
  | newSession session provider => exact (h.create provider).rebindSessions _ _
  | cloneSession session copy =>
    simp only [World.step]
    cases w.sessionHandles.get? session with
    | none => exact h
    | some id => exact h.rebindSessions _ _
  | dropSession session =>
    simp only [World.step]
    cases w.sessionHandles.get? session with
    | none => exact h
    | some id => exact h.rebindSessions (w.sessionHandles.drop session) (some id)
  | attach session source priority =>
    cases source with
    | some handle => simp [Op.managesSessions] at hm
    | none =>
      simp only [World.step]
      cases w.sessionHandles.get? session with
      | none => exact h
      | some id => exact h.attachDefault priority (hproviders id)
  | _ => simp [Op.managesSessions] at hm

theorem step (h : OneDefault made w)
    (hproviders : ∀ id s p, w.session? id = some s → s.provider = some p → p.HoldsNoDefault)
    (op : Op) : OneDefault made (w.step op).world := by
  cases hc : w.call? op with
  | some named =>
    obtain ⟨name, c⟩ := named
    rw [step_of_call? hc, World.callNamed]
    cases w.sessionHandles.get? name with
    | none => exact h
    | some id =>
      apply h.call
      intro loop priority hgiven
      obtain ⟨handle, hhandle⟩ := handle_of_call? (hgiven ▸ hc)
      exact h.held (.handle handle) loop hhandle
  | none =>
    by_cases hm : op.managesSessions = true
    · exact h.step_of_managesSessions hproviders hm
    · by_cases hs : op.onSessions = true
      · rw [world_step_of_idle hs hc (Bool.eq_false_iff.mpr hm)]
        exact h
      · exact h.step_of_not_onSessions hs

theorem run (h : OneDefault made w) {ops : List Op}
    (hproviders : ∀ id s p, w.session? id = some s → s.provider = some p → p.HoldsNoDefault)
    (hops : ∀ name p, .newSession name (some p) ∈ ops → p.HoldsNoDefault) :
    OneDefault made (w.run ops) := by
  induction ops generalizing w with
  | nil => exact h
  | cons op rest ih =>
    apply ih (h.step hproviders op)
    · apply provider_of_step hproviders
      intro name p hop
      exact hops name p (hop ▸ List.mem_cons_self)
    · intro name p hmem
      exact hops name p (List.mem_cons_of_mem op hmem)

end OneDefault

end World

end RouterAdvert
