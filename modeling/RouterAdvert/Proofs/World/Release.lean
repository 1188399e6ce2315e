import RouterAdvert.Proofs.World.Sound

/-!
# The end of a session

A session lives as long as a handle or its provider refers to it. `Renames` collects the operations
that may take a handle away: the session that loses one is released, and logged as released, if that
was the last reference to it.
-/

namespace RouterAdvert

namespace World

variable {w v : World} {id : SessionId} {s t : Session} {op : Op} {handles : Handles SessionId}
  {old : Option SessionId}

theorem releaseUnheld_of_gone (h : w.session? id = none) : w.releaseUnheld id = (w, []) := by
  rw [releaseUnheld, h]

theorem releaseUnheld_of_held (h : w.sessionRefs id ≠ 0) : w.releaseUnheld id = (w, []) := by
  unfold releaseUnheld
  cases w.session? id with
  | none => rfl
  | some s => simp only [h, if_false]

theorem releaseUnheld_of_unheld (h : w.session? id = some s) (hrefs : w.sessionRefs id = 0) :
    w.releaseUnheld id = ({ w with sessions := w.sessions.set id none },
      [⟨.session id, .released s.router.interface s.members.length⟩]) := by
  unfold releaseUnheld
  simp only [h, hrefs, if_true]

/-- What becomes of a session when names change, and what is logged about it. -/
inductive Rebound (v : World) (handles : Handles SessionId) (old : Option SessionId)
    (id : SessionId) : Prop
  | kept (session : (v.rebindSessions handles old).world.session? id = v.session? id)
      (held : old = some id → (v.session? id).isSome →
        ({ v with sessionHandles := handles } : World).sessionRefs id ≠ 0)
      (log : ∀ entry ∈ (v.rebindSessions handles old).log, entry.subject ≠ .session id)
  | released {s : Session} (live : v.session? id = some s) (lost : old = some id)
      (unheld : ({ v with sessionHandles := handles } : World).sessionRefs id = 0)
      (gone : (v.rebindSessions handles old).world.session? id = none)
      (log : (v.rebindSessions handles old).log =
        [⟨.session id, .released s.router.interface s.members.length⟩])

theorem rebound (v : World) (handles : Handles SessionId) (old : Option SessionId)
    (id : SessionId) : Rebound v handles old id := by
  cases old with
  | none => exact .kept rfl (by simp) (by simp [rebindSessions])
  | some found =>
    let next : World := { v with sessionHandles := handles }
    have hstep : v.rebindSessions handles (some found) =
        { world := (next.releaseUnheld found).1, log := (next.releaseUnheld found).2 } := rfl
    cases hfound : v.session? found with
    | none =>
      have hkept := releaseUnheld_of_gone (w := next) hfound
      refine .kept (by rw [hstep, hkept]; rfl) ?_ (by simp [hstep, hkept])
      rintro ⟨⟩ hlive
      rw [hfound] at hlive
      cases hlive
    | some s =>
      by_cases hrefs : next.sessionRefs found = 0
      · have hreleased := releaseUnheld_of_unheld (w := next) hfound hrefs
        have hset := session?_release (w := next) hfound id
        by_cases hid : id = found
        · subst hid
          rw [if_pos rfl] at hset
          exact .released hfound rfl hrefs (by rw [hstep, hreleased]; exact hset)
            (by rw [hstep, hreleased])
        · rw [if_neg hid] at hset
          refine .kept (by rw [hstep, hreleased]; exact hset) ?_ ?_
          · rintro ⟨⟩
            exact absurd rfl hid
          · simp [hstep, hreleased, Ne.symm hid]
      · have hkept := releaseUnheld_of_held hrefs
        refine .kept (by rw [hstep, hkept]; rfl) ?_ (by simp [hstep, hkept])
        rintro ⟨⟩ -
        exact hrefs

/-- An operation that gives a name to a session or takes one away: the world with the new session,
if there is one, the names after it, and the session that loses one. -/
inductive Renames (w : World) : Op → World → Handles SessionId → Option SessionId → Prop
  | created (name : String) (provider : Option Provider) :
      Renames w (.newSession name provider)
        { w with sessions := w.sessions ++ [some { provider }] }
        (w.sessionHandles.bind name w.sessions.length) (w.sessionHandles.get? name)
  | cloned {name : String} {found : SessionId} (copy : String)
      (get : w.sessionHandles.get? name = some found) :
      Renames w (.cloneSession name copy) w (w.sessionHandles.bind copy found)
        (w.sessionHandles.get? copy)
  | dropped {name : String} {found : SessionId} (get : w.sessionHandles.get? name = some found) :
      Renames w (.dropSession name) w (w.sessionHandles.drop name) (some found)

namespace Renames

theorem step_eq (h : Renames w op v handles old) : w.step op = v.rebindSessions handles old := by
  cases h with
  | created name provider => rfl
  | cloned copy get => simp only [step, get, withHandle_some]
  | dropped get => simp only [step, get, withHandle_some]

theorem exchanges_eq_nil (h : Renames w op v handles old) (id : SessionId) :
    w.exchanges id op = [] := by
  cases h <;> rfl

theorem session?_eq (h : Renames w op v handles old) (hs : w.session? id = some s) :
    v.session? id = some s := by
  cases h with
  | created name provider => rw [session?_create, if_neg (Nat.ne_of_lt (lt_of_session? hs)), hs]
  | cloned | dropped => exact hs

theorem get_old (h : Renames w op v handles old) (hold : old = some id) :
    ∃ name, w.sessionHandles.get? name = some id := by
  cases h with
  | created name provider => exact ⟨name, hold⟩
  | cloned copy get => exact ⟨copy, hold⟩
  | dropped get => exact ⟨_, get.trans hold⟩

theorem count_le (h : Renames w op v handles old) (hnames : w.sessionHandles.names.Nodup)
    (id : SessionId) :
    w.sessionHandles.count id ≤ handles.count id + if old = some id then 1 else 0 := by
  cases h with
  | created name provider =>
    have := Handles.count_bind w.sessionHandles name w.sessions.length id
    omega
  | @cloned name found copy get =>
    have := Handles.count_bind w.sessionHandles copy found id
    omega
  | @dropped name found get =>
    have := Handles.count_drop hnames name id
    rw [get] at this
    omega

end Renames

theorem sessionRefs_of_provider {w' : World} (h : w.session? id = some s)
    (ht : w'.session? id = some t) (hprovider : t.provider = s.provider) :
    w'.sessionRefs id + w.sessionHandles.count id =
      w.sessionRefs id + w'.sessionHandles.count id := by
  simp only [sessionRefs, h, ht, Option.any_some, heldByProvider, hprovider]
  omega

/-- What changes if an operation is no renaming: neither the names of sessions nor which of them
live. -/
theorem renames_or_steady (w : World) (op : Op) :
    (∃ v handles old, Renames w op v handles old) ∨
      (w.step op).world.sessionHandles = w.sessionHandles ∧
        ∀ id, ((w.step op).world.session? id).isSome = (w.session? id).isSome := by
  cases sessionStep w op with
  | still idle sessions handles =>
    exact .inr ⟨handles, fun id => congrArg Option.isSome (session?_of_sessions_eq sessions id)⟩
  | called call get world =>
    rw [world]
    exact .inr ⟨(sameHoldings_call w _ _).sessionHandles, fun id => isSome_session?_call w _ id _⟩
  | asked is_attach get world =>
    rw [world]
    exact .inr ⟨(sameHoldings_attachDefault w _ _).sessionHandles,
      fun id => isSome_session?_attachDefault w _ id _⟩
  | created is_new =>
    subst is_new
    exact .inl ⟨_, _, _, .created _ _⟩
  | cloned is_clone get step =>
    subst is_clone
    exact .inl ⟨_, _, _, .cloned _ get⟩
  | dropped is_drop get step =>
    subst is_drop
    exact .inl ⟨_, _, _, .dropped get⟩

def Held (w : World) : Prop := ∀ id s, w.session? id = some s → w.sessionRefs id ≠ 0

theorem held_empty : Held {} := by
  intro id s h
  cases h

theorem count_newSession (w : World) (name : String) (provider : Option Provider) :
    0 < (w.step (.newSession name provider)).world.sessionHandles.count w.sessions.length := by
  rw [(Renames.created name provider).step_eq, sessionHandles_rebindSessions]
  apply Handles.count_pos_of_get?
  rw [Handles.get?_bind, if_pos rfl]

private theorem sessionRefs_of_new (h : w.session? id = none) {name : String}
    {provider : Option Provider}
    (ht : (w.step (.newSession name provider)).world.session? id = some t) :
    (w.step (.newSession name provider)).world.sessionRefs id ≠ 0 := by
  have hid : id = w.sessions.length := by
    refine Decidable.byContradiction fun hne => ?_
    have hnone : ({ w with sessions := w.sessions ++ [some { provider }] } : World).session? id =
        none := by rw [session?_create, if_neg hne, h]
    rw [(Renames.created name provider).step_eq, session?_rebindSessions_of_none hnone] at ht
    cases ht
  have hcount := count_newSession w name provider
  rw [sessionRefs, hid]
  omega

theorem Held.step (h : Held w) (hsound : Sound w) (op : Op) : Held (w.step op).world := by
  intro id t ht
  cases hs : w.session? id with
  | none =>
    rcases session?_step_of_none hs op with hgone | ⟨name, provider, rfl, -⟩
    · rw [hgone] at ht
      cases ht
    · exact sessionRefs_of_new hs ht
  | some s =>
    have hrefs := sessionRefs_of_provider hs ht (provider_step hs ht)
    have hbefore := h id s hs
    rcases renames_or_steady w op with ⟨v, handles, old, hrenames⟩ | ⟨hhandles, -⟩
    · have hstep := hrenames.step_eq
      have hlive := hrenames.session?_eq hs
      have hcount := hrenames.count_le hsound.sessionNames id
      cases rebound v handles old id with
      | kept session held log =>
        have hafter : (w.step op).world.sessionRefs id =
            ({ v with sessionHandles := handles } : World).sessionRefs id := by
          simp only [sessionRefs, hstep, session, sessionHandles_rebindSessions]
          rfl
        by_cases hold : old = some id
        · rw [hafter]
          exact held hold (by rw [hlive]; rfl)
        · rw [if_neg hold] at hcount
          rw [hstep, sessionHandles_rebindSessions, ← hstep] at hrefs
          omega
      | released live lost unheld gone log =>
        rw [hstep, gone] at ht
        cases ht
    · rw [hhandles] at hrefs
      omega

theorem Held.run (h : Held w) (hsound : Sound w) (ops : List Op) : Held (w.run ops) := by
  induction ops generalizing w with
  | nil => exact h
  | cons op rest ih => exact ih (h.step hsound op) (hsound.step op)

theorem Held.last_reference (h : Held w) (hsound : Sound w) (hs : w.session? id = some s)
    (hgone : (w.step op).world.session? id = none) :
    w.sessionRefs id = 1 ∧
      (w.step op).log = [⟨.session id, .released s.router.interface s.members.length⟩] := by
  rcases renames_or_steady w op with ⟨v, handles, old, hrenames⟩ | ⟨-, hsteady⟩
  · have hstep := hrenames.step_eq
    have hlive := hrenames.session?_eq hs
    have hcount := hrenames.count_le hsound.sessionNames id
    have hbefore := h id s hs
    cases rebound v handles old id with
    | kept session held log =>
      rw [hstep, session, hlive] at hgone
      cases hgone
    | released live lost unheld gone log =>
      rw [hlive] at live
      cases live
      have hprovider : ({ v with sessionHandles := handles } : World).session? id = some s := hlive
      rw [if_pos lost] at hcount
      refine ⟨?_, by rw [hstep, log]⟩
      simp only [sessionRefs, hprovider, Option.any_some] at unheld
      simp only [sessionRefs, hs, Option.any_some] at hbefore ⊢
      omega
  · have hsome := hsteady id
    rw [hgone, hs] at hsome
    cases hsome

end World

end RouterAdvert
