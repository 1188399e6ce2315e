import RouterAdvert.Proofs.PrefixSet.Growth
import RouterAdvert.Proofs.World.Edits
import RouterAdvert.Proofs.World.History

/-!
# Members through runs

A prefix set belongs to a session or has a name of its own. Every operation empties it or lets it
grow, and gives another address to at most one prefix. As long as that is not a member, each address
is in the range of at most one member.
-/

namespace RouterAdvert

namespace Session

open PrefixSet

theorem Effect.grows {network : PrefixId → Prefix} {s t : Session} {c : Call EventLoop}
    {r : Except Error Unit} (h : Effect network s c t r) : Grows network s.members t.members := by
  cases h with
  | added free => exact .add .same (firstOverlap?_eq_none_iff.mp free)
  | _ => exact .same

theorem Answers.grows {network : PrefixId → Prefix} {s t : Session} {es : List Exchange}
    (h : Answers network s es t) : Grows network s.members t.members := by
  induction h with
  | nil s => exact .same
  | cons c _ ih => exact (effect_answer network _ c).grows.trans ih

end Session

/-- What has a prefix set: a session, or a name for a set on its own. -/
inductive Owner
  | session (id : SessionId)
  | set (name : String)
deriving DecidableEq

namespace World

open PrefixSet

/-- The members of the set of an owner, none if the owner does not exist. -/
def members (w : World) : Owner → PrefixSet
  | .session id => (w.session? id).elim [] (·.members)
  | .set name => (w.sets.get? name).getD []

theorem members_session_of_none {w : World} {id : SessionId} (h : w.session? id = none) :
    w.members (.session id) = [] := by
  rw [members, h]
  rfl

theorem members_session_of_live {w : World} {id : SessionId} {s : Session}
    (h : w.session? id = some s) : w.members (.session id) = s.members := by
  rw [members, h]
  rfl

/-- A place without a session stays empty or gets a session without members. -/
theorem members_session_step_of_none {w : World} {id : SessionId} (h : w.session? id = none)
    (op : Op) : (w.step op).world.members (.session id) = [] := by
  rcases session?_step_of_none h op with hgone | ⟨-, provider, -, hmade⟩
  · exact members_session_of_none hgone
  · exact members_session_of_live hmade

def bindings (w : World) : Handles PrefixId × Handles EventLoop × Handles PrefixSet :=
  (w.prefixHandles, w.loopHandles, w.sets)

/-- What an operation does to these names: at most one of them is given to something else or given
up. A prefix that gets a name had one before, or is a member of a set, or has been made. -/
inductive BindingStep (w : World) (op : Op) (r : StepResult) : Prop
  | kept (bindings : r.world.bindings = w.bindings)
  | boundPrefix {name : String} {p : PrefixId}
      (source : (∃ other, w.prefixHandles.get? other = some p) ∨ (∃ o, p ∈ w.members o) ∨
        p < r.world.prefixes.length)
      (bindings : r.world.bindings = (w.prefixHandles.bind name p, w.loopHandles, w.sets))
  | droppedPrefix {name : String}
      (bindings : r.world.bindings = (w.prefixHandles.drop name, w.loopHandles, w.sets))
  | boundLoop {name : String} {loop : EventLoop}
      (bindings : r.world.bindings = (w.prefixHandles, w.loopHandles.bind name loop, w.sets))
  | droppedLoop {name : String}
      (bindings : r.world.bindings = (w.prefixHandles, w.loopHandles.drop name, w.sets))
  | newSet {name : String} (is_new : op = .newSet name)
      (bindings : r.world.bindings = (w.prefixHandles, w.loopHandles, w.sets.bind name []))
  | droppedSet {name : String} (is_drop : op = .dropSet name)
      (bindings : r.world.bindings = (w.prefixHandles, w.loopHandles, w.sets.drop name))
  | added {name network : String} {candidate : PrefixId} {members : PrefixSet}
      (is_add : op = .addToSet name network) (get : w.sets.get? name = some members)
      (bindings : r.world.bindings = (w.prefixHandles, w.loopHandles,
        w.sets.bind name (members.add w.network candidate).state))

theorem BindingStep.withHandle {w : World} {op : Op} {α : Type} {found : Option α}
    {go : α → StepResult} (h : ∀ x, found = some x → BindingStep w op (go x)) :
    BindingStep w op (w.withHandle found go) := by
  cases found with
  | none => exact .kept rfl
  | some x => exact h x rfl

theorem bindingStep (w : World) (op : Op) : BindingStep w op (w.step op) := by
  by_cases hsession : op.onSessions = true
  · obtain ⟨handles, hsame⟩ := w.sameHoldings_step_of_onSessions hsession
    refine .kept ?_
    rw [bindings, hsame.prefixHandles, hsame.loopHandles, hsame.sets]
    rfl
  · cases op with
    | takeMember session index copy =>
      refine .withHandle fun id _ => ?_
      cases hmember : (w.session? id).bind (·.members[index]?) with
      | none => exact .kept rfl
      | some member =>
        obtain ⟨s, hs, hindex⟩ := Option.bind_eq_some_iff.mp hmember
        have hmem : member ∈ w.members (.session id) :=
          members_session_of_live hs ▸ List.mem_of_getElem? hindex
        exact .boundPrefix (.inr (.inl ⟨_, hmem⟩)) rfl
    | newPrefix network => exact .boundPrefix (.inr (.inr (by simp [step]))) rfl
    | clonePrefix network copy =>
      exact .withHandle fun p hp => .boundPrefix (.inl ⟨network, hp⟩) rfl
    | dropPrefix network => exact .withHandle fun _ _ => .droppedPrefix rfl
    | newLoop loop name => exact .boundLoop rfl
    | acquireDefault loop =>
      have hsame := w.sameHoldings_defaultLoop
      have hbound : (w.step (.acquireDefault loop)).world.bindings =
          (w.prefixHandles, w.loopHandles.bind loop w.defaultLoop.1, w.sets) := by
        rw [← hsame.prefixHandles, ← hsame.loopHandles, ← hsame.sets]
        rfl
      exact .boundLoop hbound
    | takeLoop session copy =>
      refine .withHandle fun id _ => ?_
      cases (w.session? id).bind (·.loop) with
      | none => exact .kept rfl
      | some loop => exact .boundLoop rfl
    | dropLoop loop => exact .withHandle fun _ _ => .droppedLoop rfl
    | newSet set => exact .newSet rfl rfl
    | dropSet set => exact .withHandle fun _ _ => .droppedSet rfl rfl
    | addToSet set network =>
      exact .withHandle fun _ _ => .withHandle fun members hset => .added rfl hset rfl
    | edit network change => exact .withHandle fun _ _ => .kept rfl
    | setNetworkText network text =>
      refine .withHandle fun _ _ => ?_
      cases Prefix.read text with
      | error cause => exact .kept rfl
      | ok value => exact .kept rfl
    | snapshot network copy => exact .withHandle fun _ _ => .kept rfl
    | _ => simp [Op.onSessions] at hsession

theorem sets_step (w : World) (op : Op) :
    (w.step op).world.sets = w.sets ∨
      (∃ name, op = .newSet name ∧ (w.step op).world.sets = w.sets.bind name []) ∨
      (∃ name, op = .dropSet name ∧ (w.step op).world.sets = w.sets.drop name) ∨
      ∃ name network candidate members, op = .addToSet name network ∧
        w.sets.get? name = some members ∧
        (w.step op).world.sets = w.sets.bind name (members.add w.network candidate).state := by
  cases bindingStep w op with
  | kept h | boundPrefix _ h | droppedPrefix h | boundLoop h | droppedLoop h =>
    exact .inl (congrArg (·.2.2) h)
  | newSet is_new h => exact .inr (.inl ⟨_, is_new, congrArg (·.2.2) h⟩)
  | droppedSet is_drop h => exact .inr (.inr (.inl ⟨_, is_drop, congrArg (·.2.2) h⟩))
  | added is_add get h =>
    exact .inr (.inr (.inr ⟨_, _, _, _, is_add, get, congrArg (·.2.2) h⟩))

theorem members_step (w : World) (op : Op) (o : Owner) :
    (w.step op).world.members o = [] ∨
      Grows w.network (w.members o) ((w.step op).world.members o) := by
  cases o with
  | session id =>
    cases h : w.session? id with
    | none => exact .inl (members_session_step_of_none h op)
    | some s =>
      cases fate_of_live h op with
      | lives t answers live =>
        rw [members_session_of_live live, members_session_of_live h]
        exact .inr answers.grows
      | released idle retired => exact .inl (members_session_of_none retired.gone)
  | set name =>
    simp only [members]
    rcases sets_step w op with hsame | ⟨other, -, hnew⟩ | ⟨other, -, hdrop⟩ |
      ⟨other, -, candidate, found, -, hget, hadd⟩
    · rw [hsame]
      exact .inr .same
    · rw [hnew, Handles.get?_bind]
      by_cases hn : name = other
      · left
        simp [hn]
      · rw [if_neg hn]
        exact .inr .same
    · rw [hdrop, Handles.get?_drop]
      by_cases hn : name = other
      · left
        simp [hn]
      · rw [if_neg hn]
        exact .inr .same
    · rw [hadd, Handles.get?_bind]
      by_cases hn : name = other
      · subst hn
        rw [if_pos rfl, hget]
        exact .inr (grows_add w.network found candidate)
      · rw [if_neg hn]
        exact .inr .same

def readdressed? (w : World) (op : Op) : Option PrefixId :=
  if (w.step op).reply = .done then
    match op with
    | .edit name (.network _) | .setNetworkText name _ => w.prefixHandles.get? name
    | _ => none
  else none

theorem readdressed?_of_edit? {w : World} {op : Op} {p : PrefixId} {value : Prefix}
    (h : w.edit? op = some (p, .network value)) (hdone : (w.step op).reply = .done) :
    w.readdressed? op = some p := by
  unfold readdressed?
  rw [if_pos hdone]
  cases op with
  | edit network change =>
    rw [edit?, Option.map_eq_some_iff] at h
    obtain ⟨found, hname, heq⟩ := h
    cases heq
    exact hname
  | setNetworkText network text =>
    simp only [edit?] at h
    split at h
    · rename_i hname _
      cases h
      exact hname
    · cases h
  | _ => simp [edit?] at h

/-- An edit changes the address and length only if it sets them and succeeds. -/
theorem network_apply (o : PrefixInformation) (change : Edit)
    (h : ∀ value, change = .network value → (change.apply o).result ≠ .ok ()) :
    (change.apply o).state.network = o.network := by
  cases change with
  | network value =>
    have hfailed := h value rfl
    by_cases hlength : Prefix.lengthAllowed value.length
    · simp [Edit.apply, hlength] at hfailed
    · simp [Edit.apply, hlength, Outcome.fail]
  | onLink | autonomous | validLifetime | preferredLifetime => rfl

theorem reply_answer_of_ok {r : World.Result} (h : r.result = .ok ()) : r.answer.reply = .done := by
  simp only [Result.answer, h]

theorem network_step {w : World} {op : Op} {p : PrefixId} (h : w.readdressed? op ≠ some p) :
    (w.step op).world.network p = w.network p := by
  rcases option_step w op p with hsame | ⟨change, hedit, hchanged⟩
  · rw [network, hsame, network]
  · rw [network, hchanged, network]
    apply network_apply
    rintro value rfl hok
    apply h
    apply readdressed?_of_edit? hedit
    rw [step_of_edit? hedit]
    exact reply_answer_of_ok hok

/-- An operation that gives a prefix another address leaves all sets alone. -/
theorem members_step_of_readdressed {w : World} {op : Op} {p : PrefixId}
    (h : w.readdressed? op = some p) (o : Owner) : (w.step op).world.members o = w.members o := by
  have hsame : (w.step op).world.sessions = w.sessions ∧ (w.step op).world.sets = w.sets := by
    cases op with
    | edit name change =>
      cases hname : w.prefixHandles.get? name with
      | none => simp [step, hname]
      | some id => simp only [step, hname]; exact ⟨rfl, rfl⟩
    | setNetworkText name text =>
      cases hname : w.prefixHandles.get? name with
      | none => simp [step, hname]
      | some id =>
        cases hread : Prefix.read text with
        | error cause => simp [step, hname, hread]
        | ok value => simp only [step, hname, hread]; exact ⟨rfl, rfl⟩
    | _ => simp [readdressed?] at h
  cases o with
  | session id => rw [members, members, session?_of_sessions_eq hsame.1]
  | set name => rw [members, members, hsame.2]

/-- Through a run, no prefix gets another address while it is a member of the owner's set. -/
def Undisturbed (o : Owner) (w : World) : List Op → Prop
  | [] => True
  | op :: rest => (∀ p ∈ w.readdressed? op, p ∉ w.members o) ∧ Undisturbed o (w.step op).world rest

instance decidableUndisturbed (o : Owner) (w : World) (ops : List Op) :
    Decidable (Undisturbed o w ops) :=
  match ops with
  | [] => .isTrue trivial
  | op :: rest =>
    have := decidableUndisturbed o (w.step op).world rest
    inferInstanceAs (Decidable (_ ∧ Undisturbed o (w.step op).world rest))

theorem separate_step {w : World} {op : Op} {o : Owner} (h : Separate w.network (w.members o))
    (hkept : ∀ p ∈ w.readdressed? op, p ∉ w.members o) :
    Separate (w.step op).world.network ((w.step op).world.members o) := by
  -- Either no range changes and the set may grow, or one range changes and no set does.
  cases hop : w.readdressed? op with
  | none =>
    have hnetwork : (w.step op).world.network = w.network := by
      funext p
      apply network_step
      simp [hop]
    rw [hnetwork]
    rcases members_step w op o with hempty | hgrows
    · rw [hempty]
      exact .nil
    · exact hgrows.separate h
  | some p =>
    rw [members_step_of_readdressed hop]
    apply h.of_network_eq
    intro member hmember
    apply network_step
    rw [hop]
    rintro heq
    exact hkept p hop (Option.some.inj heq ▸ hmember)

theorem separate_run {w : World} {o : Owner} (h : Separate w.network (w.members o)) {ops : List Op}
    (hkept : Undisturbed o w ops) : Separate (w.run ops).network ((w.run ops).members o) := by
  induction ops generalizing w with
  | nil => exact h
  | cons op rest ih => exact ih (separate_step h hkept.1) hkept.2

/-- From a moment on at which a set is empty, and as long as its members keep their addresses, each
address is in the range of at most one member, whatever else happens. -/
theorem at_most_one_member_covers (w : World) (o : Owner) (hempty : w.members o = [])
    (ops : List Op) (hkept : Undisturbed o w ops) (a : Address) :
    (((w.run ops).members o).filter fun p => ((w.run ops).network p).Covers a).length ≤ 1 := by
  have hstart : Separate w.network (w.members o) := by
    rw [hempty]
    exact .nil
  exact (separate_run hstart hkept).length_covering_le_one a

/-- Here an overlapping prefix is refused, and added once it has another address; the address of a
member cannot be changed to a prefix that is too short. -/
theorem one_member_covers_after_refusals :
    let ops : List Op := [.newSession "s" none,
      .newPrefix "p", .edit "p" (.network ⟨.ofGroups [0x2001, 0xdb8, 0, 0, 0, 0, 0, 0], 32⟩),
      .addPrefix "s" "p",
      .newPrefix "q", .edit "q" (.network ⟨.ofGroups [0x2001, 0xdb8, 1, 0, 0, 0, 0, 0], 48⟩),
      .addPrefix "s" "q",
      .edit "q" (.network ⟨.ofGroups [0x2001, 0xdb9, 0, 0, 0, 0, 0, 0], 48⟩),
      .addPrefix "s" "q", .edit "p" (.network ⟨.unspecified, 2⟩)]
    let w := run {} ops
    w.members (.session 0) = [0, 1] ∧
      ((w.members (.session 0)).filter fun p =>
        (w.network p).Covers (.ofGroups [0x2001, 0xdb8, 1, 0, 0, 0, 0, 1])).length ≤ 1 := by
  intro ops w
  exact ⟨by decide, at_most_one_member_covers {} (.session 0) rfl ops (by decide) _⟩

end World

end RouterAdvert
