import RouterAdvert.Proofs.World.Failure
import RouterAdvert.Proofs.World.Growth

/-!
# Prefixes that were made

Names and sets hold only prefixes that were made, as long as providers add no others. Nothing that
was made is ever taken away.
-/

namespace RouterAdvert

def Call.AddsBelow {Loop : Type} (n : Nat) : Call Loop → Prop
  | .add p => p < n
  | _ => True

instance {Loop : Type} (n : Nat) : (c : Call Loop) → Decidable (c.AddsBelow n)
  | .add p => inferInstanceAs (Decidable (p < n))
  | .attach .. | .detach | .start | .stop | .set _ | .prefer _ => .isTrue trivial

namespace World

/-- Names and sets hold only prefixes that were made. -/
structure Made (w : World) : Prop where
  named : ∀ name p, w.prefixHandles.get? name = some p → p < w.prefixes.length
  member : ∀ o, ∀ p ∈ w.members o, p < w.prefixes.length

theorem made_empty : Made {} where
  named := by
    intro name p h
    cases h
  member := by
    intro o p hp
    cases o <;> cases hp

variable {w : World} {op : Op}

theorem length_prefixes_step (w : World) (op : Op) :
    w.prefixes.length ≤ (w.step op).world.prefixes.length := by
  by_cases hsession : op.onSessions = true
  · rcases w.sameHoldings_step_of_onSessions hsession with ⟨handles, hsame⟩
    exact Nat.le_of_eq (congrArg List.length hsame.prefixes.symm)
  · cases op with
    | newPrefix name => simp [step]
    | acquireDefault loop =>
      exact Nat.le_of_eq (congrArg List.length w.sameHoldings_defaultLoop.prefixes.symm)
    | newLoop | newSet => exact Nat.le_refl _
    | takeMember | takeLoop | dropLoop | clonePrefix | dropPrefix | edit | setNetworkText | snapshot
    | dropSet | addToSet =>
      simp only [step, withHandle]
      repeat' split
      all_goals simp [Result.answer, editPrefix, Outcome.lift]
    | _ => simp [Op.onSessions] at hsession

/-- A name refers to what had a name before, to a member of a set or to a new prefix. -/
theorem get?_prefixHandles_step {name : String} {p : PrefixId}
    (h : (w.step op).world.prefixHandles.get? name = some p) :
    (∃ other, w.prefixHandles.get? other = some p) ∨ (∃ o, p ∈ w.members o) ∨
      p < (w.step op).world.prefixes.length := by
  cases bindingStep w op with
  | kept bindings | boundLoop bindings | droppedLoop bindings | newSet is_new bindings
  | droppedSet is_drop bindings | added is_add get bindings =>
    have hkept : (w.step op).world.prefixHandles = w.prefixHandles := congrArg (·.1) bindings
    exact .inl ⟨name, hkept ▸ h⟩
  | @boundPrefix other q source bindings =>
    have hbound : (w.step op).world.prefixHandles = w.prefixHandles.bind other q :=
      congrArg (·.1) bindings
    rw [hbound, Handles.get?_bind] at h
    by_cases hname : name = other
    · rw [if_pos hname] at h
      cases h
      exact source
    · rw [if_neg hname] at h
      exact .inl ⟨name, h⟩
  | @droppedPrefix other bindings =>
    have hdropped : (w.step op).world.prefixHandles = w.prefixHandles.drop other :=
      congrArg (·.1) bindings
    rw [hdropped, Handles.get?_drop] at h
    by_cases hname : name = other
    · rw [if_pos hname] at h
      cases h
    · rw [if_neg hname] at h
      exact .inl ⟨name, h⟩

theorem mem_gains {o : Owner} {p : PrefixId} (h : p ∈ w.gains o op) :
    (∃ name, w.prefixHandles.get? name = some p) ∨ .add p ∈ w.providerCalls op := by
  have hnamed : ∀ {c : Prop} [Decidable c] {name : String},
      p ∈ (if c then (w.prefixHandles.get? name).toList else []) →
        ∃ name, w.prefixHandles.get? name = some p := by
    intro c _ name hmem
    split at hmem
    · exact ⟨name, Option.mem_toList.mp hmem⟩
    · cases hmem
  unfold gains at h
  split at h
  · exact .inl (hnamed h)
  · split at h
    · rename_i hname
      obtain ⟨s, provider, hs, hl, hp, hcalls⟩ := added_defaultExchanges h
      right
      simpa [providerCalls, hname, hs, hl, hp] using hcalls
    · cases h
  · exact .inl (hnamed h)
  · cases h

theorem members_set_step_of_none {name : String} (h : w.sets.get? name = none) (op : Op) :
    (w.step op).world.members (.set name) = [] := by
  simp only [members]
  rcases sets_step w op with hsame | ⟨other, -, hnew⟩ | ⟨other, -, hdrop⟩ |
    ⟨other, -, candidate, found, -, hget, hadd⟩
  · rw [hsame, h]
    rfl
  · rw [hnew, Handles.get?_bind, h]
    split <;> rfl
  · rw [hdrop, Handles.get?_drop, h]
    split <;> rfl
  · have hne : name ≠ other := by
      rintro rfl
      rw [h] at hget
      cases hget
    rw [hadd, Handles.get?_bind, if_neg hne, h]
    rfl

theorem mem_members_step {o : Owner} {p : PrefixId} (h : p ∈ (w.step op).world.members o) :
    p ∈ w.members o ∨ p ∈ w.gains o op := by
  cases o with
  | session id =>
    cases hs : w.session? id with
    | none =>
      rw [members_session_step_of_none hs op] at h
      cases h
    | some s =>
      cases hlive : (w.step op).world.session? id with
      | none =>
        rw [members_session_of_none hlive] at h
        cases h
      | some t =>
        rw [members_step_session hs (by rw [hlive]; rfl)] at h
        exact List.mem_append.mp h
  | set name =>
    cases hset : w.sets.get? name with
    | none =>
      rw [members_set_step_of_none hset op] at h
      cases h
    | some found =>
      by_cases hnew : op = .newSet name
      · subst hnew
        simp [members, step, Handles.get?_bind] at h
      · by_cases hdrop : op = .dropSet name
        · subst hdrop
          simp [members, step, hset, Handles.get?_drop] at h
        · have hstep := get?_sets_step hset hnew hdrop
          simp only [members, hstep, Option.getD_some] at h
          simp only [members, hset, Option.getD_some]
          exact List.mem_append.mp h

/-- Through a run providers add only prefixes that have been made by then. -/
def AddsMade (w : World) : List Op → Prop
  | [] => True
  | op :: rest =>
    (∀ c ∈ w.providerCalls op, c.AddsBelow w.prefixes.length) ∧ (w.step op).world.AddsMade rest

instance decidableAddsMade (w : World) (ops : List Op) : Decidable (w.AddsMade ops) :=
  match ops with
  | [] => .isTrue trivial
  | op :: rest =>
    have := decidableAddsMade (w.step op).world rest
    inferInstanceAs (Decidable (_ ∧ (w.step op).world.AddsMade rest))

theorem Made.step (h : Made w)
    (hadds : ∀ c ∈ w.providerCalls op, c.AddsBelow w.prefixes.length) :
    Made (w.step op).world where
  named := by
    intro name p hname
    have hgrown := w.length_prefixes_step op
    rcases get?_prefixHandles_step hname with ⟨other, hother⟩ | ⟨o, hmem⟩ | hnew
    · exact Nat.lt_of_lt_of_le (h.named other p hother) hgrown
    · exact Nat.lt_of_lt_of_le (h.member o p hmem) hgrown
    · exact hnew
  member := by
    intro o p hmem
    refine Nat.lt_of_lt_of_le ?_ (w.length_prefixes_step op)
    rcases mem_members_step hmem with hold | hgained
    · exact h.member o p hold
    · rcases mem_gains hgained with ⟨name, hname⟩ | hadded
      · exact h.named name p hname
      · exact hadds (.add p) hadded

theorem Made.run (h : Made w) {ops : List Op} (hadds : w.AddsMade ops) : Made (w.run ops) := by
  induction ops generalizing w with
  | nil => exact h
  | cons op rest ih => exact ih (h.step hadds.1) hadds.2

end World

end RouterAdvert
