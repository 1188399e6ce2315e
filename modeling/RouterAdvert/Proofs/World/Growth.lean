import RouterAdvert.Proofs.PrefixInformation.Encoding
import RouterAdvert.Proofs.World.Sound
import RouterAdvert.World.View

/-!
# Growth of sets through runs

The members of a set at a later time are those at an earlier time and then what was added in
between, in the order of its addition, whatever happened to the prefixes meanwhile. No operation but
a successful addition changes a set that lasts.
-/

namespace RouterAdvert

def Exchange.added? (e : Exchange) : Option PrefixId :=
  match e.call, e.result with
  | .add candidate, .ok () => some candidate
  | _, _ => none

namespace Session

/-- A call that adds a prefix appends it, and no other call changes the members. -/
theorem Effect.members_eq {network : PrefixId → Prefix} {s t : Session} {c : Call EventLoop}
    {r : Except Error Unit} (h : Effect network s c t r) :
    t.members = s.members ++ (Exchange.added? ⟨c, r⟩).toList := by
  cases h <;> simp [Exchange.added?]

/-- The members are those that were there before, and then what was added. -/
theorem Evolves.members_eq {s t : Session} {es : List Exchange} (h : Evolves s es t) :
    t.members = s.members ++ es.filterMap Exchange.added? := by
  induction h with
  | nil s => simp
  | @cons s t rest network c _ ih =>
    rw [ih, (effect_answer network s c).members_eq, List.append_assoc]
    cases h : Exchange.added? ⟨c, (s.answer network c).result⟩ <;> simp [h]

theorem Answers.members_eq {network : PrefixId → Prefix} {s t : Session} {es : List Exchange}
    (h : Answers network s es t) : t.members = s.members ++ es.filterMap Exchange.added? := by
  have hevolves : Evolves s (es ++ []) t := h.evolves_append (.nil t)
  rw [List.append_nil] at hevolves
  exact hevolves.members_eq

end Session

namespace World

/-- The prefixes that an operation adds to the set of an owner. A provider that is asked for a loop
may add some, too. -/
def gains (w : World) : Owner → Op → List PrefixId
  | .session id, .addPrefix session network =>
    if w.sessionHandles.get? session = some id ∧
        (w.step (.addPrefix session network)).reply = .done then
      (w.prefixHandles.get? network).toList
    else []
  | .session id, .attach session none priority =>
    if w.sessionHandles.get? session = some id then
      (w.defaultExchanges id priority).filterMap Exchange.added?
    else []
  | .set name, .addToSet set network =>
    if set = name ∧ (w.step (.addToSet set network)).reply = .done then
      (w.prefixHandles.get? network).toList
    else []
  | _, _ => []

/-- The prefixes that a run adds to the set of an owner, in the order of their addition. -/
def gained (w : World) (o : Owner) : List Op → List PrefixId
  | [] => []
  | op :: rest => w.gains o op ++ (w.step op).world.gained o rest

variable {w : World} {id : SessionId} {s : Session}

theorem added_exchangesOf {calls : List (Call LoopSource)} {p : PrefixId}
    (h : p ∈ (w.exchangesOf id calls).filterMap Exchange.added?) : .add p ∈ calls := by
  induction calls generalizing w with
  | nil => simp [exchangesOf] at h
  | cons c rest ih =>
    cases hs : w.session? id with
    | none => simp [exchangesOf, hs] at h
    | some s =>
      simp only [exchangesOf, hs] at h
      obtain ⟨e, he, hadded⟩ := List.mem_filterMap.mp h
      rcases List.mem_cons.mp he with rfl | hlater
      · cases c with
        | add q =>
          simp only [Exchange.added?, received, Call.map] at hadded
          split at hadded
          · rename_i hcall _
            cases hcall
            cases hadded
            exact List.mem_cons_self
          · cases hadded
        | _ => simp [Exchange.added?, received, Call.map] at hadded
      · exact List.mem_cons_of_mem c (ih (List.mem_filterMap.mpr ⟨e, hlater, hadded⟩))

/-- What the attachment of a default loop adds, the provider adds that was asked. -/
theorem added_defaultExchanges {priority : Int} {p : PrefixId}
    (h : p ∈ (w.defaultExchanges id priority).filterMap Exchange.added?) :
    ∃ s provider, w.session? id = some s ∧ s.loop = none ∧ s.provider = some provider ∧
      .add p ∈ (provider.answer w.requests).calls := by
  cases hs : w.session? id with
  | none => simp [defaultExchanges, hs] at h
  | some s =>
    cases hl : s.loop with
    | some loop => simp [defaultExchanges, hs, hl] at h
    | none =>
      cases hp : s.provider with
      | none => simp [defaultExchanges, hs, hl, hp] at h
      | some provider =>
        simp only [defaultExchanges, hs, hl, hp, Option.isSome_none, Bool.false_eq_true, if_false]
          at h
        have hcalls := added_exchangesOf h
        refine ⟨s, provider, rfl, hl, hp, ?_⟩
        unfold ProviderAnswer.allCalls at hcalls
        split at hcalls
        · exact hcalls
        · simpa using hcalls

theorem added_exchangesOf_eq_nil {calls : List (Call LoopSource)} (hadd : ∀ p, .add p ∉ calls) :
    (w.exchangesOf id calls).filterMap Exchange.added? = [] := by
  apply List.eq_nil_iff_forall_not_mem.mpr
  intro p hp
  exact hadd p (added_exchangesOf hp)

private theorem added_of_call {op : Op} {name : String} {c : Call LoopSource}
    (hc : w.call? op = some (name, c)) (hadd : ∀ p, c ≠ .add p) :
    (w.exchanges id op).filterMap Exchange.added? = [] := by
  rw [exchanges_of_call? hc]
  split
  · apply added_exchangesOf_eq_nil
    intro p hp
    exact hadd p (List.mem_singleton.mp hp).symm
  · rfl

private theorem added_of_ordinary {op : Op} (hm : op.managesSessions = false)
    (hadd : ∀ name p, w.call? op ≠ some (name, .add p)) :
    (w.exchanges id op).filterMap Exchange.added? = [] := by
  cases hc : w.call? op with
  | none =>
    rw [exchanges_of_bystander hc hm]
    rfl
  | some named =>
    refine added_of_call hc ?_
    rintro p hp
    exact hadd named.1 p (by rw [hc, ← hp])

private theorem gains_addPrefix (h : w.session? id = some s) (session network : String) :
    w.gains (.session id) (.addPrefix session network) =
      (w.exchanges id (.addPrefix session network)).filterMap Exchange.added? := by
  simp only [gains]
  cases hnetwork : w.prefixHandles.get? network with
  | none =>
    rw [exchanges_of_bystander (by simp [call?, hnetwork]) rfl]
    simp
  | some candidate =>
    have hc : w.call? (.addPrefix session network) = some (session, .add candidate) := by
      simp [call?, hnetwork]
    rw [exchanges_of_call? hc]
    by_cases hname : w.sessionHandles.get? session = some id
    · have hreply : (w.step (.addPrefix session network)).reply =
          (w.call id (.add candidate)).answer.reply := by
        simp only [step, hnetwork, callNamed, hname, withHandle_some]
      simp only [hname, hreply, exchangesOf, h, received, Call.map, true_and, if_true,
        List.filterMap_cons, List.filterMap_nil, Exchange.added?, Result.answer]
      cases (w.call id (.add candidate)).result <;> simp
    · simp [hname]

/-- What an operation adds to a session are the additions that it comes down to. -/
theorem gains_session (h : w.session? id = some s) (op : Op) :
    w.gains (.session id) op = (w.exchanges id op).filterMap Exchange.added? := by
  cases op with
  | addPrefix session network => exact gains_addPrefix h session network
  | attach session loop priority =>
    cases loop with
    | none =>
      simp only [gains, exchanges]
      split <;> rfl
    | some loop => exact (added_of_ordinary rfl (by simp [call?])).symm
  | newSession | cloneSession | dropSession => rfl
  | _ => exact (added_of_ordinary rfl (by simp [call?])).symm

theorem members_step_session (h : w.session? id = some s) {op : Op}
    (hlive : ((w.step op).world.session? id).isSome) :
    (w.step op).world.members (.session id) =
      w.members (.session id) ++ w.gains (.session id) op := by
  cases fate_of_live h op with
  | lives t answers live =>
    rw [members_session_of_live live, members_session_of_live h, answers.members_eq,
      gains_session h]
  | released idle retired =>
    rw [retired.gone] at hlive
    cases hlive

theorem get?_sets_addToSet {name : String} {members : PrefixSet}
    (h : w.sets.get? name = some members) (other network : String) :
    (w.step (.addToSet other network)).world.sets.get? name =
      some (members ++ w.gains (.set name) (.addToSet other network)) := by
  cases hnetwork : w.prefixHandles.get? network with
  | none => simpa [gains, step, hnetwork] using h
  | some candidate =>
    by_cases hname : other = name
    · subst hname
      simp only [gains, step, hnetwork, h, withHandle_some, Result.answer, PrefixSet.add,
        Outcome.lift, true_and]
      cases members.firstOverlap? w.network (w.network candidate) <;> simp [Handles.get?_bind]
    · simp only [gains, hname, false_and, if_false, List.append_nil, step, hnetwork,
        withHandle_some]
      cases w.sets.get? other with
      | none => exact h
      | some found => exact (Handles.get?_bind _ _ _ _).trans ((if_neg (Ne.symm hname)).trans h)

theorem get?_sets_step {name : String} {members : PrefixSet} (h : w.sets.get? name = some members)
    {op : Op} (hnew : op ≠ .newSet name) (hdrop : op ≠ .dropSet name) :
    (w.step op).world.sets.get? name = some (members ++ w.gains (.set name) op) := by
  have hnothing : (∀ other network, op ≠ .addToSet other network) → w.gains (.set name) op = [] := by
    intro hadd
    cases op with
    | addToSet other network => exact absurd rfl (hadd other network)
    | _ => rfl
  rcases sets_step w op with hsame | ⟨other, rfl, hmade⟩ | ⟨other, rfl, hgone⟩ |
    ⟨other, network, -, -, rfl, -, -⟩
  · by_cases hadd : ∃ other network, op = .addToSet other network
    · obtain ⟨other, network, rfl⟩ := hadd
      exact get?_sets_addToSet h other network
    · rw [hsame, hnothing fun other network heq => hadd ⟨other, network, heq⟩, List.append_nil]
      exact h
  · have hne : name ≠ other := fun heq => hnew (congrArg _ heq.symm)
    rw [hmade, hnothing (by simp), List.append_nil, Handles.get?_bind, if_neg hne]
    exact h
  · have hne : name ≠ other := fun heq => hdrop (congrArg _ heq.symm)
    rw [hgone, hnothing (by simp), List.append_nil, Handles.get?_drop, if_neg hne]
    exact h
  · exact get?_sets_addToSet h other network

/-- Through a run the set of an owner lasts: the session is not released, or the name is neither
given up nor given to another set. -/
def Lasts (w : World) (ops : List Op) : Owner → Prop
  | .session id => (w.session? id).isSome ∧ ((w.run ops).session? id).isSome
  | .set name => (w.sets.get? name).isSome ∧ ∀ op ∈ ops, op ≠ .newSet name ∧ op ≠ .dropSet name

/-- A set that lasts through a run lasts through its first operation and through the others. -/
theorem Lasts.cons {op : Op} {rest : List Op} {o : Owner} (h : w.Lasts (op :: rest) o) :
    (w.step op).world.members o = w.members o ++ w.gains o op ∧
      (w.step op).world.Lasts rest o := by
  cases o with
  | session id =>
    rcases h with ⟨hfirst, hlast⟩
    rcases Option.isSome_iff_exists.mp hfirst with ⟨s, hs⟩
    have hlive : ((w.step op).world.session? id).isSome := by
      cases fate_of_live hs op with
      | lives t answers live =>
        rw [live]
        rfl
      | released idle retired =>
        have hgone := (retired.run rest).1.gone
        change ((w.step op).world.run rest).session? id |>.isSome at hlast
        rw [hgone] at hlast
        cases hlast
    exact ⟨members_step_session hs hlive, hlive, hlast⟩
  | set name =>
    rcases h with ⟨hfirst, hkept⟩
    rcases List.forall_mem_cons.mp hkept with ⟨hop, hrest⟩
    rcases Option.isSome_iff_exists.mp hfirst with ⟨members, hmembers⟩
    have hstep := get?_sets_step hmembers hop.1 hop.2
    refine ⟨?_, ?_, hrest⟩
    · simp only [World.members, hstep, hmembers, Option.getD_some]
    · rw [hstep]
      rfl

theorem Lasts.members_run {ops : List Op} {o : Owner} (h : w.Lasts ops o) :
    (w.run ops).members o = w.members o ++ w.gained o ops := by
  induction ops generalizing w with
  | nil => simp [run, gained]
  | cons op rest ih =>
    rcases h.cons with ⟨hstep, hrest⟩
    rw [run, ih hrest, hstep, gained, List.append_assoc]

/-- At any time no prefix is in a set twice. The members of a set that lasts are those that it had
before and then what was added to it since then; their options are sent in this order. -/
theorem members_distinct_in_order_of_addition (before after : List Op) (o : Owner) :
    let w := run {} before
    let v := w.run after
    (v.members o).Nodup ∧
      (w.Lasts after o → v.members o = w.members o ++ w.gained o after ∧
        ∀ place p, (w.members o ++ w.gained o after)[place]? = some p →
          PrefixInformation.octetsAt (v.options (v.members o)) place = (v.option p).encode) := by
  intro w v
  have hsound : Sound v := (sound_empty.run before).run after
  refine ⟨hsound.distinct o, ?_⟩
  intro hlasts
  have hmembers : v.members o = w.members o ++ w.gained o after := hlasts.members_run
  refine ⟨hmembers, ?_⟩
  intro place p hp
  rw [hmembers]
  exact PrefixInformation.octetsAt_flatMap_encode hp

/-- Here a member gets the range of another one and is refused by its own set after that, while a
session that shares it takes a further prefix from its provider. -/
theorem members_distinct_in_order_of_addition_of_shared :
    let p : Prefix := ⟨.ofGroups [0x2001, 0xdb8, 1, 0, 0, 0, 0, 0], 64⟩
    let q : Prefix := ⟨.ofGroups [0x2001, 0xdb8, 2, 0, 0, 0, 0, 0], 64⟩
    let provider : Provider := {
      answer := fun _ => { calls := [.add 2, .add 0], offer := .ok (.fresh "spare") } }
    let before : List Op := [.newSession "s" (some provider), .newSet "x", .newPrefix "p",
      .edit "p" (.network p), .newPrefix "q", .edit "q" (.network q), .addPrefix "s" "p",
      .addToSet "x" "p"]
    let after : List Op := [.addToSet "x" "q", .edit "q" (.network p), .addToSet "x" "q",
      .newPrefix "r", .attach "s" none 0, .dropPrefix "p"]
    let w := run {} before
    let v := w.run after
    v.members (.session 0) = [0, 2] ∧ v.members (.set "x") = [0, 1] ∧
      PrefixInformation.octetsAt (v.options (v.members (.set "x"))) 1 = (v.option 1).encode := by
  intro p q provider before after w v
  rcases members_distinct_in_order_of_addition before after (.session 0) with ⟨-, hsession⟩
  rcases members_distinct_in_order_of_addition before after (.set "x") with ⟨-, hset⟩
  rcases hsession ⟨by decide, by decide⟩ with ⟨hsession, -⟩
  rcases hset ⟨by decide, by simp [after]⟩ with ⟨hset, hsent⟩
  exact ⟨hsession.trans (by decide), hset.trans (by decide), hsent 1 1 (by decide)⟩

end World

end RouterAdvert
