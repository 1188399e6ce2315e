import RouterAdvert.Proofs.World.Handles
import RouterAdvert.Proofs.World.Steps

/-!
# Histories of sessions

Operations reach a session through its handles and through its provider. The history of a session in
a run is the list of all exchanges that these come down to. As long as a session lives, its state is
what its history makes of it; it is released when the last handle is given up, and stays released.
-/

namespace RouterAdvert.World

def history (w : World) (id : SessionId) : List Op → List Exchange
  | [] => []
  | op :: rest => w.exchanges id op ++ (w.step op).world.history id rest

/-- A session that was released: no handle refers to it, and its place is not used again. -/
structure Retired (w : World) (id : SessionId) : Prop where
  made : id < w.sessions.length
  gone : w.session? id = none
  unheld : w.sessionHandles.count id = 0

/-- What an operation may do to a live session. -/
inductive Fate (w : World) (id : SessionId) (s : Session) (op : Op) : Prop
  | lives (t : Session) (answers : s.Answers w.network (w.exchanges id op) t)
      (live : (w.step op).world.session? id = some t)
  | released (idle : w.exchanges id op = []) (retired : Retired (w.step op).world id)

variable {w : World} {id : SessionId} {s : Session} {op : Op}

theorem Fate.of_unchanged (h : w.session? id = some s) (hidle : w.exchanges id op = [])
    (hsame : (w.step op).world.session? id = w.session? id) : Fate w id s op :=
  .lives s (hidle ▸ .nil s) (hsame.trans h)

private theorem Fate.of_release {v : World} (h : v.session? id = some s)
    (hidle : w.exchanges id op = []) (found : SessionId)
    (hstep : (w.step op).world = (v.releaseUnheld found).1) : Fate w id s op := by
  rcases releaseUnheld_cases v found with ⟨hkept, -⟩ | ⟨t, ht, hrefs, hreleased⟩
  · exact .lives s (hidle ▸ .nil s) (by rw [hstep, hkept, h])
  · have hset := session?_release ht id
    rw [← hreleased, ← hstep] at hset
    by_cases hf : id = found
    · subst hf
      rw [if_pos rfl] at hset
      refine .released hidle ⟨?_, hset, ?_⟩
      · rw [hstep, hreleased]
        simpa using lt_of_session? ht
      · rw [hstep, hreleased]
        change v.sessionHandles.count id = 0
        unfold sessionRefs at hrefs
        omega
    · rw [if_neg hf] at hset
      exact .lives s (hidle ▸ .nil s) (hset.trans h)

private theorem Fate.of_rebind {v : World} {handles : Handles SessionId} {old : Option SessionId}
    (h : v.session? id = some s) (hidle : w.exchanges id op = [])
    (hstep : w.step op = v.rebindSessions handles old) : Fate w id s op := by
  cases old with
  | none =>
    refine .lives s (hidle ▸ .nil s) ?_
    rw [hstep]
    exact h
  | some found =>
    have hnext : ({ v with sessionHandles := handles } : World).session? id = some s := h
    exact .of_release hnext hidle found (by rw [hstep]; rfl)

private theorem Fate.of_call {name : String} {found : SessionId} {c : Call LoopSource}
    (h : w.session? id = some s) (hc : w.call? op = some (name, c))
    (hname : w.sessionHandles.get? name = some found)
    (hworld : (w.step op).world = (w.call found c).state) : Fate w id s op := by
  have hexchanges := exchanges_of_call? hc id
  rw [hname] at hexchanges
  by_cases hf : found = id
  · subst hf
    rw [if_pos rfl] at hexchanges
    rcases answers_callAll h [c] with ⟨t, hanswers, hsessions⟩
    refine .lives t (hexchanges ▸ hanswers) ?_
    have hset := session?_of_sessions_set (lt_of_session? h) hsessions found
    rw [if_pos rfl] at hset
    rw [hworld]
    exact hset
  · refine .of_unchanged h (by simpa [hf] using hexchanges) ?_
    rw [hworld]
    exact session?_call_of_ne (Ne.symm hf) c

private theorem Fate.of_attachDefault {name : String} {found : SessionId} {priority : Int}
    (h : w.session? id = some s) (hname : w.sessionHandles.get? name = some found)
    (hworld : (w.step (.attach name none priority)).world = (w.attachDefault found priority).state) :
    Fate w id s (.attach name none priority) := by
  have hexchanges : w.exchanges id (.attach name none priority) =
      if w.sessionHandles.get? name = some id then w.defaultExchanges id priority else [] := rfl
  rw [hname] at hexchanges
  by_cases hf : found = id
  · subst hf
    rw [if_pos rfl] at hexchanges
    rcases answers_attachDefault h priority with ⟨t, hanswers, hsessions⟩
    refine .lives t (hexchanges ▸ hanswers) ?_
    have hset := session?_of_sessions_set (lt_of_session? h) hsessions found
    rw [if_pos rfl] at hset
    rw [hworld]
    exact hset
  · refine .of_unchanged h (by simpa [hf] using hexchanges) ?_
    rw [hworld]
    exact session?_attachDefault_of_ne (Ne.symm hf) priority

/-- A live session goes through the exchanges of an operation, or is released. -/
theorem fate_of_live (h : w.session? id = some s) (op : Op) : Fate w id s op := by
  cases sessionStep w op with
  | still idle sessions handles =>
    exact .of_unchanged h (idle id) (session?_of_sessions_eq sessions id)
  | called call get world => exact .of_call h call get world
  | asked is_attach get world =>
    subst is_attach
    exact .of_attachDefault h get world
  | @created name provider is_new =>
    subst is_new
    have hnext : ({ w with sessions := w.sessions ++ [some { provider }] } : World).session? id =
        some s := by
      rw [session?_create, if_neg (Nat.ne_of_lt (lt_of_session? h)), h]
    exact .of_rebind hnext rfl rfl
  | cloned is_clone get step =>
    subst is_clone
    exact .of_rebind h rfl step
  | dropped is_drop get step =>
    subst is_drop
    exact .of_rebind h rfl step

/-- A place without a session stays empty or gets the new session that is asked for. -/
theorem session?_step_of_none (h : w.session? id = none) (op : Op) :
    (w.step op).world.session? id = none ∨ ∃ name provider, op = .newSession name provider ∧
      (w.step op).world.session? id = some { provider } := by
  cases sessionStep w op with
  | still idle sessions handles => exact .inl ((session?_of_sessions_eq sessions id).trans h)
  | called call get world =>
    rw [world]
    exact .inl (session?_call_of_none h _)
  | asked is_attach get world =>
    rw [world]
    exact .inl (session?_attachDefault_of_none h _)
  | @created name provider is_new =>
    subst is_new
    rcases session?_rebindSessions { w with sessions := w.sessions ++ [some { provider }] }
      (w.sessionHandles.bind name w.sessions.length) (w.sessionHandles.get? name) id
      with hkept | hgone
    · rw [session?_create, h] at hkept
      by_cases hid : id = w.sessions.length
      · rw [if_pos hid] at hkept
        exact .inr ⟨name, provider, rfl, hkept⟩
      · rw [if_neg hid] at hkept
        exact .inl hkept
    · exact .inl hgone
  | cloned is_clone get step =>
    rw [step]
    exact .inl (session?_rebindSessions_of_none h _ _)
  | dropped is_drop get step =>
    rw [step]
    exact .inl (session?_rebindSessions_of_none h _ _)

/-- What new sessions have and every effect keeps, all sessions have after an operation. -/
theorem session_invariant_step {P : Session → Prop} (hnew : ∀ provider, P { provider })
    (hkept : ∀ {network s c t r}, Session.Effect network s c t r → P s → P t)
    (h : ∀ id s, w.session? id = some s → P s) (op : Op) {t : Session}
    (ht : (w.step op).world.session? id = some t) : P t := by
  cases hs : w.session? id with
  | none =>
    rcases session?_step_of_none hs op with hgone | ⟨-, provider, -, hmade⟩
    · rw [hgone] at ht
      cases ht
    · rw [hmade] at ht
      cases ht
      exact hnew provider
  | some s =>
    cases fate_of_live hs op with
    | lives t' answers live =>
      rw [live] at ht
      cases ht
      exact answers.keeps hkept (h id s hs)
    | released idle retired =>
      rw [retired.gone] at ht
      cases ht

theorem session_invariant_run {P : Session → Prop} (hnew : ∀ provider, P { provider })
    (hkept : ∀ {network s c t r}, Session.Effect network s c t r → P s → P t)
    (h : ∀ id s, w.session? id = some s → P s) (ops : List Op) :
    ∀ id s, (w.run ops).session? id = some s → P s := by
  induction ops generalizing w with
  | nil => exact h
  | cons op rest ih => exact ih fun _ _ => session_invariant_step hnew hkept h op

theorem provider_step {t : Session} (h : w.session? id = some s)
    (ht : (w.step op).world.session? id = some t) : t.provider = s.provider := by
  cases fate_of_live h op with
  | lives t' answers live =>
    rw [live] at ht
    cases ht
    exact answers.provider
  | released idle retired =>
    rw [retired.gone] at ht
    cases ht

theorem provider_of_step {P : Provider → Prop} {op : Op}
    (h : ∀ id s p, w.session? id = some s → s.provider = some p → P p)
    (hop : ∀ name p, op = .newSession name (some p) → P p) :
    ∀ id s p, (w.step op).world.session? id = some s → s.provider = some p → P p := by
  intro id t p ht hp
  cases hs : w.session? id with
  | none =>
    rcases session?_step_of_none hs op with hgone | ⟨name, provider, hnew, hmade⟩
    · rw [hgone] at ht
      cases ht
    · rw [hmade] at ht
      cases ht
      cases hp
      exact hop name p hnew
  | some s => exact h id s p hs (provider_step hs ht ▸ hp)

theorem provider_of_run {P : Provider → Prop} {ops : List Op}
    (h : ∀ id s p, w.session? id = some s → s.provider = some p → P p)
    (hops : ∀ name p, .newSession name (some p) ∈ ops → P p) :
    ∀ id s p, (w.run ops).session? id = some s → s.provider = some p → P p := by
  induction ops generalizing w with
  | nil => exact h
  | cons op rest ih =>
    apply ih
    · apply provider_of_step h
      intro name p hop
      exact hops name p (hop ▸ List.mem_cons_self)
    · intro name p hmem
      exact hops name p (List.mem_cons_of_mem op hmem)

theorem Retired.of_same_sessions {w' : World} (h : Retired w id) (hs : w'.sessions = w.sessions)
    (hh : w'.sessionHandles = w.sessionHandles) : Retired w' id where
  made := hs ▸ h.made
  gone := (session?_of_sessions_eq hs id).trans h.gone
  unheld := hh ▸ h.unheld

private theorem Retired.rebind (h : Retired w id) {handles : Handles SessionId}
    (hh : handles.count id = 0) (old : Option SessionId) :
    Retired (w.rebindSessions handles old).world id := by
  refine ⟨?_, session?_rebindSessions_of_none h.gone handles old, ?_⟩
  · rw [length_sessions_rebindSessions]
    exact h.made
  · rw [sessionHandles_rebindSessions]
    exact hh

theorem Retired.ne_of_get? (h : Retired w id) {name : String} {found : SessionId}
    (hname : w.sessionHandles.get? name = some found) : id ≠ found := by
  rintro rfl
  have := Handles.count_pos_of_get? hname
  have := h.unheld
  omega

theorem Retired.call (h : Retired w id) {found : SessionId} (hne : id ≠ found)
    (c : Call LoopSource) : Retired (w.call found c).state id := by
  refine ⟨?_, (session?_call_of_ne hne c).trans h.gone, ?_⟩
  · rw [length_sessions_call]
    exact h.made
  · rw [(sameHoldings_call w found c).sessionHandles]
    exact h.unheld

theorem Retired.attachDefault (h : Retired w id) {found : SessionId} (hne : id ≠ found)
    (priority : Int) : Retired (w.attachDefault found priority).state id := by
  refine ⟨?_, (session?_attachDefault_of_ne hne priority).trans h.gone, ?_⟩
  · rw [length_sessions_attachDefault]
    exact h.made
  · rw [(sameHoldings_attachDefault w found priority).sessionHandles]
    exact h.unheld

/-- A released session stays released. -/
theorem Retired.step (h : Retired w id) (op : Op) : Retired (w.step op).world id := by
  cases sessionStep w op with
  | still idle sessions handles => exact h.of_same_sessions sessions handles
  | called call get world =>
    rw [world]
    exact h.call (h.ne_of_get? get) _
  | asked is_attach get world =>
    rw [world]
    exact h.attachDefault (h.ne_of_get? get) _
  | @created name provider is_new =>
    subst is_new
    have hne := Nat.ne_of_lt h.made
    have hnext : Retired { w with sessions := w.sessions ++ [some { provider }] } id := by
      refine ⟨?_, ?_, h.unheld⟩
      · simp only [List.length_append]
        exact Nat.lt_add_right _ h.made
      · rw [session?_create, if_neg hne, h.gone]
    exact hnext.rebind (Handles.count_bind_of_ne hne.symm h.unheld name) _
  | cloned is_clone get step =>
    rw [step]
    exact h.rebind (Handles.count_bind_of_ne (h.ne_of_get? get).symm h.unheld _) _
  | @dropped name found is_drop get step =>
    rw [step]
    have := Handles.count_drop_le w.sessionHandles name id
    have := h.unheld
    exact h.rebind (by omega) _

/-- A released session has no handles and nothing can be asked of it. -/
theorem Retired.exchanges_eq_nil (h : Retired w id) (op : Op) : w.exchanges id op = [] := by
  unfold exchanges
  split
  · split
    · rename_i hname
      exact absurd rfl (h.ne_of_get? hname)
    · rfl
  · split
    · rfl
    · split
      · rename_i hname
        exact absurd rfl (h.ne_of_get? hname)
      · rfl

theorem Retired.run (h : Retired w id) (ops : List Op) :
    Retired (w.run ops) id ∧ w.history id ops = [] := by
  induction ops generalizing w with
  | nil => exact ⟨h, rfl⟩
  | cons op rest ih =>
    rcases ih (h.step op) with ⟨hrun, hhistory⟩
    exact ⟨hrun, by rw [history, h.exchanges_eq_nil, hhistory, List.append_nil]⟩

theorem Retired.sessionRefs_eq_zero (h : Retired w id) : w.sessionRefs id = 0 := by
  unfold sessionRefs
  rw [h.gone, h.unheld]
  rfl

/-- A session that lives at the beginning of a run goes through its history. It lives at the end, or
it was released and no handle is left. -/
theorem evolves_run (h : w.session? id = some s) (ops : List Op) :
    ∃ t, s.Evolves (w.history id ops) t ∧
      ((w.run ops).session? id = some t ∨ Retired (w.run ops) id) := by
  induction ops generalizing w s with
  | nil => exact ⟨s, .nil s, .inl h⟩
  | cons op rest ih =>
    cases fate_of_live h op with
    | lives t answers live =>
      rcases ih live with ⟨u, hevolves, hend⟩
      exact ⟨u, answers.evolves_append hevolves, hend⟩
    | released idle retired =>
      rcases retired.run rest with ⟨hrun, hhistory⟩
      refine ⟨s, ?_, .inr hrun⟩
      rw [history, idle, hhistory]
      exact .nil s

theorem evolves_of_live_at_end {t : Session} (h : w.session? id = some s) {ops : List Op}
    (ht : (w.run ops).session? id = some t) : s.Evolves (w.history id ops) t := by
  obtain ⟨u, hevolves, hlive | hretired⟩ := evolves_run h ops
  · rw [hlive] at ht
    cases ht
    exact hevolves
  · rw [hretired.gone] at ht
    cases ht

theorem exchanges_of_none (h : w.session? id = none) (op : Op) : w.exchanges id op = [] := by
  have hcalls : ∀ c, w.exchangesOf id [c] = [] := by
    intro c
    rw [exchangesOf, h]
  have hdefault : ∀ priority, w.defaultExchanges id priority = [] := by
    intro priority
    rw [defaultExchanges, h]
  unfold exchanges
  split
  · simp [hdefault]
  · split
    · rfl
    · simp [hcalls]

theorem evolves_from_new {t : Session} (h : w.session? id = none) {ops : List Op}
    (ht : (w.run ops).session? id = some t) :
    ∃ provider, Session.Evolves { provider } (w.history id ops) t := by
  induction ops generalizing w with
  | nil =>
    change w.session? id = some t at ht
    rw [h] at ht
    cases ht
  | cons op rest ih =>
    rw [history, exchanges_of_none h, List.nil_append]
    rcases session?_step_of_none h op with hnone | ⟨-, provider, -, hmade⟩
    · exact ih hnone ht
    · exact ⟨provider, evolves_of_live_at_end hmade ht⟩

end RouterAdvert.World
