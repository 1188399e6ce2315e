import RouterAdvert.Proofs.World.Steps

/-!
# Changes to prefixes

An operation changes the option of at most one prefix, and that by one edit. What every edit keeps
therefore holds of all prefixes after any run.
-/

namespace RouterAdvert

namespace Edit

/-- Whether a change may be made: the length of a prefix has to be one that a router may
advertise. -/
def Allowed : Edit → Prop
  | network value => Prefix.lengthAllowed value.length = true
  | _ => True

theorem result_apply (o : PrefixInformation) (change : Edit) :
    (change.apply o).result = .ok () ↔ change.Allowed := by
  cases change with
  | network value =>
    by_cases hlength : Prefix.lengthAllowed value.length <;>
      simp [apply, Allowed, hlength, Outcome.fail]
  | onLink | autonomous | validLifetime | preferredLifetime => exact ⟨fun _ => trivial, fun _ => rfl⟩

theorem state_apply_network (o : PrefixInformation) {value : Prefix}
    (h : Prefix.lengthAllowed value.length = true) :
    ((network value).apply o).state = { o with network := value } := by
  simp [apply, h]

end Edit

namespace World

/-- The change that an operation tries to make to a prefix. -/
def edit? (w : World) : Op → Option (PrefixId × Edit)
  | .edit network change => (w.prefixHandles.get? network).map (·, change)
  | .setNetworkText network text =>
    match w.prefixHandles.get? network, Prefix.read text with
    | some id, .ok value => some (id, .network value)
    | _, _ => none
  | _ => none

theorem step_of_edit? {w : World} {op : Op} {id : PrefixId} {change : Edit}
    (h : w.edit? op = some (id, change)) : w.step op = (w.editPrefix id change).answer := by
  cases op with
  | edit network change =>
    cases hname : w.prefixHandles.get? network with
    | none => simp [edit?, hname] at h
    | some found =>
      simp only [edit?, hname, Option.map_some, Option.some.injEq, Prod.mk.injEq] at h
      obtain ⟨rfl, rfl⟩ := h
      simp only [step, hname, withHandle_some]
  | setNetworkText network text =>
    cases hname : w.prefixHandles.get? network with
    | none => simp [edit?, hname] at h
    | some found =>
      cases hread : Prefix.read text with
      | error cause => simp [edit?, hname, hread] at h
      | ok value =>
        simp only [edit?, hname, hread, Option.some.injEq, Prod.mk.injEq] at h
        obtain ⟨rfl, rfl⟩ := h
        simp only [step, hname, hread, withHandle_some]
  | _ => simp [edit?] at h

/-- A new prefix has the option that stands for a prefix that does not exist. -/
theorem option_newPrefix (w : World) (name : String) (p : PrefixId) :
    (w.step (.newPrefix name)).world.option p = w.option p := by
  change (w.prefixes ++ [default])[p]?.getD default = w.prefixes[p]?.getD default
  by_cases hlt : p < w.prefixes.length
  · rw [List.getElem?_append_left hlt]
  · rw [List.getElem?_append_right (Nat.le_of_not_lt hlt), List.getElem?_singleton,
      List.getElem?_eq_none (Nat.le_of_not_lt hlt)]
    by_cases hnew : p - w.prefixes.length = 0 <;> simp [hnew]

theorem option_step_of_no_edit {w : World} {op : Op} (h : w.edit? op = none) (p : PrefixId) :
    (w.step op).world.option p = w.option p := by
  have hkept : ∀ {w' : World}, w'.prefixes = w.prefixes → w'.option p = w.option p := by
    intro w' hprefixes
    rw [option, option, hprefixes]
  by_cases hsession : op.onSessions = true
  · rcases w.sameHoldings_step_of_onSessions hsession with ⟨handles, hsame⟩
    exact hkept hsame.prefixes
  · cases op with
    | newPrefix name => exact option_newPrefix w name p
    | edit network change =>
      rw [edit?, Option.map_eq_none_iff] at h
      simp [step, h]
    | setNetworkText network text =>
      cases hname : w.prefixHandles.get? network with
      | none => simp [step, hname]
      | some id =>
        cases hread : Prefix.read text with
        | error cause => simp [step, hname, hread]
        | ok value => simp [edit?, hname, hread] at h
    | acquireDefault loop => exact hkept w.sameHoldings_defaultLoop.prefixes
    | newLoop | newSet => rfl
    | takeMember | takeLoop | dropLoop | clonePrefix | dropPrefix | snapshot | dropSet | addToSet =>
      simp only [step, withHandle]
      repeat' split
      all_goals rfl
    | _ => simp [Op.onSessions] at hsession

theorem option_editPrefix (w : World) (id : PrefixId) (change : Edit) (p : PrefixId) :
    (w.editPrefix id change).state.option p = w.option p ∨
      p = id ∧ (w.editPrefix id change).state.option p = (change.apply (w.option p)).state := by
  change (w.prefixes.set id (change.apply (w.option id)).state)[p]?.getD default = w.option p ∨
    p = id ∧ (w.prefixes.set id (change.apply (w.option id)).state)[p]?.getD default = _
  rw [List.getElem?_set]
  by_cases hp : id = p
  · subst hp
    rw [if_pos rfl]
    by_cases hlt : id < w.prefixes.length
    · rw [if_pos hlt]
      exact .inr ⟨rfl, rfl⟩
    · rw [if_neg hlt, option, List.getElem?_eq_none (Nat.le_of_not_lt hlt)]
      exact .inl rfl
  · rw [if_neg hp]
    exact .inl rfl

/-- An operation leaves an option as it is, or makes one change to it. -/
theorem option_step (w : World) (op : Op) (p : PrefixId) :
    (w.step op).world.option p = w.option p ∨
      ∃ change, w.edit? op = some (p, change) ∧
        (w.step op).world.option p = (change.apply (w.option p)).state := by
  cases h : w.edit? op with
  | none => exact .inl (option_step_of_no_edit h p)
  | some edit =>
    obtain ⟨id, change⟩ := edit
    rw [step_of_edit? h]
    rcases option_editPrefix w id change p with hsame | ⟨rfl, hedited⟩
    · exact .inl hsame
    · exact .inr ⟨change, rfl, hedited⟩

theorem option_invariant_run {P : PrefixInformation → Prop}
    (hkept : ∀ (o : PrefixInformation) (change : Edit), P o → P (change.apply o).state) {w : World}
    (h : ∀ p, P (w.option p)) (ops : List Op) : ∀ p, P ((w.run ops).option p) := by
  induction ops generalizing w with
  | nil => exact h
  | cons op rest ih =>
    apply ih
    intro p
    rcases option_step w op p with hsame | ⟨change, -, hchanged⟩
    · rw [hsame]
      exact h p
    · rw [hchanged]
      exact hkept _ change (h p)

end World

end RouterAdvert
