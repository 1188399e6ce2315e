import RouterAdvert.Proofs.World.Members

/-!
# What holds of every reachable world

A name refers to one object, handles to sessions refer to sessions that have not been released, and
no prefix is in a set twice.
-/

namespace RouterAdvert.World

/-- The invariant of all operations. -/
structure Sound (w : World) : Prop where
  sessionNames : w.sessionHandles.names.Nodup
  prefixNames : w.prefixHandles.names.Nodup
  loopNames : w.loopHandles.names.Nodup
  setNames : w.sets.names.Nodup
  held : ∀ id, w.sessionHandles.count id ≠ 0 → (w.session? id).isSome
  distinct : ∀ o, (w.members o).Nodup

theorem sound_empty : Sound {} where
  sessionNames := .nil
  prefixNames := .nil
  loopNames := .nil
  setNames := .nil
  held := by
    intro id h
    exact absurd rfl h
  distinct := by
    intro o
    cases o <;> exact .nil

variable {w : World} {op : Op}

theorem Sound.sessionNames_step (h : Sound w) (op : Op) :
    (w.step op).world.sessionHandles.names.Nodup := by
  cases sessionStep w op with
  | still idle sessions handles =>
    rw [handles]
    exact h.sessionNames
  | called call get world =>
    rw [world, (sameHoldings_call w _ _).sessionHandles]
    exact h.sessionNames
  | asked is_attach get world =>
    rw [world, (sameHoldings_attachDefault w _ _).sessionHandles]
    exact h.sessionNames
  | @created name provider is_new =>
    subst is_new
    change (rebindSessions _ (w.sessionHandles.bind name _) _).world.sessionHandles.names.Nodup
    rw [sessionHandles_rebindSessions]
    exact Handles.nodup_names_bind h.sessionNames _ _
  | cloned is_clone get step =>
    rw [step, sessionHandles_rebindSessions]
    exact Handles.nodup_names_bind h.sessionNames _ _
  | dropped is_drop get step =>
    rw [step, sessionHandles_rebindSessions]
    exact Handles.nodup_names_drop h.sessionNames _

theorem Sound.otherNames_step (h : Sound w) (op : Op) :
    (w.step op).world.prefixHandles.names.Nodup ∧ (w.step op).world.loopHandles.names.Nodup ∧
      (w.step op).world.sets.names.Nodup := by
  have hbound : ∀ {prefixes loops sets}, (w.step op).world.bindings = (prefixes, loops, sets) →
      prefixes.names.Nodup → loops.names.Nodup → sets.names.Nodup →
      (w.step op).world.prefixHandles.names.Nodup ∧ (w.step op).world.loopHandles.names.Nodup ∧
        (w.step op).world.sets.names.Nodup := by
    rintro _ _ _ ⟨⟩ hprefixes hloops hsets
    exact ⟨hprefixes, hloops, hsets⟩
  cases bindingStep w op with
  | kept bindings => exact hbound bindings h.prefixNames h.loopNames h.setNames
  | boundPrefix source bindings =>
    exact hbound bindings (Handles.nodup_names_bind h.prefixNames _ _) h.loopNames h.setNames
  | droppedPrefix bindings =>
    exact hbound bindings (Handles.nodup_names_drop h.prefixNames _) h.loopNames h.setNames
  | boundLoop bindings =>
    exact hbound bindings h.prefixNames (Handles.nodup_names_bind h.loopNames _ _) h.setNames
  | droppedLoop bindings =>
    exact hbound bindings h.prefixNames (Handles.nodup_names_drop h.loopNames _) h.setNames
  | newSet is_new bindings | added is_add get bindings =>
    exact hbound bindings h.prefixNames h.loopNames (Handles.nodup_names_bind h.setNames _ _)
  | droppedSet is_drop bindings =>
    exact hbound bindings h.prefixNames h.loopNames (Handles.nodup_names_drop h.setNames _)

private theorem held_rebindSessions {v : World} {handles : Handles SessionId}
    (h : ∀ id, handles.count id ≠ 0 → (v.session? id).isSome) (old : Option SessionId)
    (id : SessionId) (hid : handles.count id ≠ 0) :
    ((v.rebindSessions handles old).world.session? id).isSome := by
  cases old with
  | none => exact h id hid
  | some found =>
    change ((releaseUnheld { v with sessionHandles := handles } found).1.session? id).isSome
    rcases releaseUnheld_cases { v with sessionHandles := handles } found with
      ⟨hkept, -⟩ | ⟨s, hs, hrefs, hreleased⟩
    · rw [hkept]
      exact h id hid
    · rw [hreleased, session?_release hs]
      by_cases hf : id = found
      · subst hf
        unfold sessionRefs at hrefs
        change handles.count id + _ = 0 at hrefs
        omega
      · rw [if_neg hf]
        exact h id hid

theorem Sound.held_step (h : Sound w) (op : Op) (id : SessionId)
    (hid : (w.step op).world.sessionHandles.count id ≠ 0) :
    ((w.step op).world.session? id).isSome := by
  cases sessionStep w op with
  | still idle sessions handles =>
    rw [session?_of_sessions_eq sessions]
    rw [handles] at hid
    exact h.held id hid
  | called call get world =>
    rw [world, (sameHoldings_call w _ _).sessionHandles] at hid
    rw [world, isSome_session?_call]
    exact h.held id hid
  | asked is_attach get world =>
    rw [world, (sameHoldings_attachDefault w _ _).sessionHandles] at hid
    rw [world, isSome_session?_attachDefault]
    exact h.held id hid
  | @created name provider is_new =>
    subst is_new
    change (rebindSessions _ (w.sessionHandles.bind name _) _).world.sessionHandles.count id ≠ 0
      at hid
    rw [sessionHandles_rebindSessions] at hid
    apply held_rebindSessions ?_ _ id hid
    intro other hother
    rw [session?_create]
    by_cases hnew : other = w.sessions.length
    · rw [if_pos hnew]
      rfl
    · rw [if_neg hnew]
      exact h.held other fun hzero =>
        hother (Handles.count_bind_of_ne (Ne.symm hnew) hzero name)
  | @cloned name copy found is_clone get step =>
    rw [step, sessionHandles_rebindSessions] at hid
    rw [step]
    apply held_rebindSessions ?_ _ id hid
    intro other hother
    by_cases hfound : other = found
    · subst hfound
      exact h.held other (Nat.ne_of_gt (Handles.count_pos_of_get? get))
    · exact h.held other fun hzero =>
        hother (Handles.count_bind_of_ne (Ne.symm hfound) hzero copy)
  | @dropped name found is_drop get step =>
    rw [step, sessionHandles_rebindSessions] at hid
    rw [step]
    apply held_rebindSessions ?_ _ id hid
    intro other hother
    have := Handles.count_drop_le w.sessionHandles name other
    exact h.held other (by omega)

/-- Every operation preserves the invariant. -/
theorem Sound.step (h : Sound w) (op : Op) : Sound (w.step op).world where
  sessionNames := h.sessionNames_step op
  prefixNames := (h.otherNames_step op).1
  loopNames := (h.otherNames_step op).2.1
  setNames := (h.otherNames_step op).2.2
  held := h.held_step op
  distinct := by
    intro o
    -- Ranges may overlap by now, but a member to be added again would overlap itself.
    rcases members_step w op o with hempty | hgrows
    · rw [hempty]
      exact .nil
    · exact hgrows.nodup (h.distinct o)

theorem Sound.run (h : Sound w) (ops : List Op) : Sound (w.run ops) := by
  induction ops generalizing w with
  | nil => exact h
  | cons op rest ih => exact ih (h.step op)

theorem Sound.live_of_get? (h : Sound w) {name : String} {id : SessionId}
    (hname : w.sessionHandles.get? name = some id) : ∃ s, w.session? id = some s :=
  Option.isSome_iff_exists.mp (h.held id (Nat.ne_of_gt (Handles.count_pos_of_get? hname)))

theorem Sound.nodup_of_live (h : Sound w) {s : Session} (hs : s ∈ w.liveSessions) :
    s.members.Nodup := by
  rcases List.mem_filterMap.mp hs with ⟨place, hmem, rfl⟩
  rcases List.mem_iff_getElem?.mp hmem with ⟨id, hid⟩
  rw [← members_session_of_live (session?_eq_some_iff.mpr hid)]
  exact h.distinct (.session id)

theorem Sound.nodup_of_set (h : Sound w) {name : String} {members : PrefixSet}
    (hs : (name, members) ∈ w.sets) : members.Nodup := by
  have hdistinct := h.distinct (.set name)
  rw [World.members, Handles.get?_of_mem h.setNames hs] at hdistinct
  exact hdistinct

end RouterAdvert.World
