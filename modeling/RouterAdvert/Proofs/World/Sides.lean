import RouterAdvert.Proofs.World.Failure

/-!
# Operations of one side

An operation is about routers or about prefixes, unless it gives or gives up a handle to a session.
A relation of worlds shows that one side does not see the other if the operations of the other side
keep it and those of its own give the same replies in related worlds. `SameParts` relates worlds by
what can be seen of their sessions.
-/

namespace RouterAdvert

def Op.isRouterSide : Op → Bool
  | .attach .. | .detach .. | .start .. | .stop .. | .set .. | .setLinkAddressText .. | .prefer ..
  | .preferBits .. | .newLoop .. | .acquireDefault .. | .takeLoop .. | .dropLoop .. => true
  | _ => false

def Op.isPrefixSide : Op → Bool
  | .addPrefix .. | .takeMember .. | .newPrefix .. | .clonePrefix .. | .dropPrefix .. | .edit ..
  | .setNetworkText .. | .snapshot .. | .newSet .. | .dropSet .. | .addToSet .. => true
  | _ => false

namespace World

/-- The replies of a run to those operations that are kept. -/
def replies (keep : Op → Bool) (w : World) : List Op → List Reply
  | [] => []
  | op :: rest =>
    let next := w.step op
    if keep op then next.reply :: next.world.replies keep rest else next.world.replies keep rest

/-- Operations that keep a relation on their own can be left out of a run, if all others give the
same replies in related worlds. -/
theorem unwinding (keep : Op → Bool) (allowed : Op → Prop) (Related : World → World → Prop)
    (hkept : ∀ {w v op}, Related w v → allowed op → keep op = true →
      (w.step op).reply = (v.step op).reply ∧ Related (w.step op).world (v.step op).world)
    (hhidden : ∀ {w v op}, Related w v → allowed op → keep op = false → Related (w.step op).world v)
    {w v : World} (h : Related w v) {ops : List Op} (hops : ∀ op ∈ ops, allowed op) :
    w.replies keep ops = v.replies keep (ops.filter keep) ∧
      Related (w.run ops) (v.run (ops.filter keep)) := by
  induction ops generalizing w v with
  | nil => exact ⟨rfl, h⟩
  | cons op rest ih =>
    obtain ⟨hallowed, hrest⟩ := List.forall_mem_cons.mp hops
    cases hop : keep op with
    | true =>
      obtain ⟨hreply, hnext⟩ := hkept h hallowed hop
      obtain ⟨hreplies, hend⟩ := ih hnext hrest
      rw [List.filter_cons_of_pos hop]
      simp only [replies, hop, if_true, hreply, hreplies]
      exact ⟨trivial, hend⟩
    | false =>
      obtain ⟨hreplies, hend⟩ := ih (hhidden h hallowed hop) hrest
      have hnot : ¬keep op = true := by simp [hop]
      rw [List.filter_cons_of_neg hnot]
      simp only [replies, hop, Bool.false_eq_true, if_false]
      exact ⟨hreplies, hend⟩

theorem reply_answer_congr {r r' : World.Result} (h : r.result = r'.result) :
    r.answer.reply = r'.answer.reply := by
  simp only [Result.answer, h]

section

variable {Related : World → World → Prop} {w v : World}

theorem answer_agree {r r' : World.Result}
    (h : Related r.state r'.state ∧ r.result = r'.result) :
    r.answer.reply = r'.answer.reply ∧ Related r.answer.world r'.answer.world :=
  ⟨reply_answer_congr h.2, h.1⟩

/-- Operations that refer to the same object in related worlds agree if they agree about every
object. -/
theorem withHandle_agree (h : Related w v) {α : Type} {found found' : Option α}
    (hfound : found = found') {go go' : α → StepResult}
    (hgo : ∀ x, (go x).reply = (go' x).reply ∧ Related (go x).world (go' x).world) :
    (w.withHandle found go).reply = (v.withHandle found' go').reply ∧
      Related (w.withHandle found go).world (v.withHandle found' go').world := by
  subst hfound
  cases found with
  | none => exact ⟨rfl, h⟩
  | some x => exact hgo x

end

/-- Two worlds whose sessions agree, place by place, in what is looked at. -/
def SameParts {α : Type} (part : Session → α) (w v : World) : Prop :=
  w.sessions.map (Option.map part) = v.sessions.map (Option.map part)

variable {α : Type} {part : Session → α} {w v w' : World} {id : SessionId}

theorem SameParts.of_sessions_eq (h : w.sessions = v.sessions) : SameParts part w v := by
  rw [SameParts, h]

theorem SameParts.length_eq (h : SameParts part w v) : w.sessions.length = v.sessions.length := by
  have hlength := congrArg List.length h
  rwa [List.length_map, List.length_map] at hlength

theorem SameParts.map_session? (h : SameParts part w v) (id : SessionId) :
    (w.session? id).map part = (v.session? id).map part := by
  have hplace := congrArg (·[id]?) h
  simp only [List.getElem?_map] at hplace
  have hjoin := congrArg Option.join hplace
  simpa only [session?, Option.join_map_eq_map_join] using hjoin

theorem SameParts.session?_cases (h : SameParts part w v) (id : SessionId) :
    (w.session? id = none ∧ v.session? id = none) ∨
      ∃ s t, w.session? id = some s ∧ v.session? id = some t ∧ part s = part t := by
  have hmap := h.map_session? id
  cases hs : w.session? id with
  | none => exact .inl ⟨rfl, by simpa [hs] using hmap.symm⟩
  | some s =>
    obtain ⟨t, ht, hpart⟩ := Option.map_eq_some_iff.mp (hmap.symm.trans (congrArg _ hs))
    exact .inr ⟨s, t, rfl, ht, hpart.symm⟩

theorem SameParts.map_liveSessions (h : SameParts part w v) :
    w.liveSessions.map part = v.liveSessions.map part := by
  have hlive := congrArg (List.filterMap id) h
  simpa only [List.filterMap_map, liveSessions, List.map_filterMap, Function.comp_def, id] using hlive

theorem SameParts.putSession (h : SameParts part w v) {s t : Session} (hst : part s = part t)
    (id : SessionId) : SameParts part (w.putSession id s) (v.putSession id t) := by
  simp only [SameParts, World.putSession, List.map_set, Option.map_some, hst]
  rw [h]

theorem SameParts.of_set_session {s t : Session} (h : w.session? id = some s) (ht : part t = part s)
    (hw : w'.sessions = w.sessions.set id (some t)) : SameParts part w' w := by
  have hsame : SameParts part w w := rfl
  have hput := hsame.putSession ht id
  rw [putSession_self h] at hput
  exact (SameParts.of_sessions_eq hw).trans hput

theorem exists_releaseUnheld (w : World) (id : SessionId) :
    ∃ sessions, (w.releaseUnheld id).1 = { w with sessions } := by
  rcases releaseUnheld_cases w id with ⟨hkept, -⟩ | ⟨s, -, -, hreleased⟩
  · exact ⟨w.sessions, hkept⟩
  · exact ⟨_, hreleased⟩

theorem exists_rebindSessions (w : World) (handles : Handles SessionId) (old : Option SessionId) :
    ∃ sessions, (w.rebindSessions handles old).world =
      { w with sessions, sessionHandles := handles } := by
  cases old with
  | none => exact ⟨w.sessions, rfl⟩
  | some id => exact exists_releaseUnheld { w with sessionHandles := handles } id

theorem SameParts.releaseUnheld (h : SameParts part w v)
    (hprovider : ∀ {s t}, part s = part t → s.provider = t.provider)
    (hhandles : w.sessionHandles = v.sessionHandles) (id : SessionId) :
    SameParts part (w.releaseUnheld id).1 (v.releaseUnheld id).1 := by
  rcases h.session?_cases id with ⟨hs, ht⟩ | ⟨s, t, hs, ht, hpart⟩
  · simp only [World.releaseUnheld, hs, ht]
    exact h
  · have hrefs : w.sessionRefs id = v.sessionRefs id := by
      simp only [sessionRefs, hs, ht, hhandles, Option.any_some, heldByProvider, hprovider hpart]
    simp only [World.releaseUnheld, hs, ht, hrefs]
    split
    · rw [SameParts, List.map_set, List.map_set, h]
    · exact h

theorem SameParts.rebindSessions (h : SameParts part w v)
    (hprovider : ∀ {s t}, part s = part t → s.provider = t.provider)
    (handles : Handles SessionId) (old : Option SessionId) :
    SameParts part (w.rebindSessions handles old).world (v.rebindSessions handles old).world := by
  have hnext : SameParts part { w with sessionHandles := handles }
      { v with sessionHandles := handles } := h
  cases old with
  | none => exact hnext
  | some id => exact hnext.releaseUnheld hprovider rfl id

theorem exists_step_of_handles (w : World) {op : Op} (hrouters : op.isRouterSide = false)
    (hprefixes : op.isPrefixSide = false) :
    ∃ sessions handles, (w.step op).world = { w with sessions, sessionHandles := handles } := by
  cases op with
  | newSession session provider =>
    obtain ⟨sessions, hworld⟩ := exists_rebindSessions
      { w with sessions := w.sessions ++ [some { provider }] }
      (w.sessionHandles.bind session w.sessions.length) (w.sessionHandles.get? session)
    exact ⟨sessions, _, hworld⟩
  | cloneSession session copy =>
    simp only [step]
    cases w.sessionHandles.get? session with
    | none => exact ⟨_, _, rfl⟩
    | some id =>
      obtain ⟨sessions, hworld⟩ := exists_rebindSessions w (w.sessionHandles.bind copy id)
        (w.sessionHandles.get? copy)
      exact ⟨sessions, _, hworld⟩
  | dropSession session =>
    simp only [step]
    cases w.sessionHandles.get? session with
    | none => exact ⟨_, _, rfl⟩
    | some id =>
      obtain ⟨sessions, hworld⟩ := exists_rebindSessions w (w.sessionHandles.drop session) (some id)
      exact ⟨sessions, _, hworld⟩
  | _ => simp [Op.isRouterSide, Op.isPrefixSide] at hrouters hprefixes

/-- Operations on handles to sessions see nothing of the sessions but their providers. -/
theorem SameParts.step_of_handles (h : SameParts part w v)
    (hprovider : ∀ {s t}, part s = part t → s.provider = t.provider)
    (hhandles : w.sessionHandles = v.sessionHandles) {op : Op} (hrouters : op.isRouterSide = false)
    (hprefixes : op.isPrefixSide = false) :
    (w.step op).reply = (v.step op).reply ∧ SameParts part (w.step op).world (v.step op).world ∧
      (w.step op).world.sessionHandles = (v.step op).world.sessionHandles := by
  cases op with
  | newSession session provider =>
    have hcreated : SameParts part { w with sessions := w.sessions ++ [some { provider }] }
        { v with sessions := v.sessions ++ [some { provider }] } := by
      rw [SameParts, List.map_append, List.map_append, h]
    simp only [step, reply_rebindSessions, sessionHandles_rebindSessions, hhandles, h.length_eq]
    exact ⟨trivial, hcreated.rebindSessions hprovider _ _, trivial⟩
  | cloneSession session copy | dropSession session =>
    simp only [step, hhandles]
    cases v.sessionHandles.get? session with
    | none => exact ⟨rfl, h, hhandles⟩
    | some id =>
      simp only [withHandle_some, reply_rebindSessions, sessionHandles_rebindSessions]
      exact ⟨trivial, h.rebindSessions hprovider _ _, trivial⟩
  | _ => simp [Op.isRouterSide, Op.isPrefixSide] at hrouters hprefixes

end World

end RouterAdvert
