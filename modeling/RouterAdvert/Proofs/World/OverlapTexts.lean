import RouterAdvert.Proofs.Prefix.Text
import RouterAdvert.Proofs.World.Failure
import RouterAdvert.World.View

/-!
# Prefixes told by their texts

What a handle prints is read back as the present prefix behind it. An overlap is reported with the
texts of the two prefixes that overlap, so the report tells both of them.
-/

namespace RouterAdvert

theorem PrefixSet.of_overlap {network : PrefixId → Prefix} {members : PrefixSet} {p : PrefixId}
    {candidate existing : Prefix}
    (h : (members.add network p).result = .error (.overlap candidate existing)) :
    network p = candidate ∧
      ∃ m, members.firstOverlap? network (network p) = some m ∧ network m = existing := by
  revert h
  unfold add
  cases hfound : members.firstOverlap? network (network p) with
  | none => simp
  | some m =>
    intro h
    obtain ⟨hcandidate, hexisting⟩ := Error.overlap.inj (Except.error.inj h)
    exact ⟨hcandidate, m, rfl, hexisting⟩

theorem Session.of_overlap {network : PrefixId → Prefix} {s : Session} {c : Call EventLoop}
    {candidate existing : Prefix}
    (h : (s.answer network c).result = .error (.overlap candidate existing)) :
    ∃ p, c = .add p ∧
      (s.members.add network p).result = .error (.overlap candidate existing) := by
  cases c with
  | add p => exact ⟨p, rfl, h⟩
  | attach | start | stop | set =>
    revert h
    simp only [answer, attach, start, stop, set]
    repeat' split
    all_goals simp [Outcome.fail]
  | detach | prefer => cases h

namespace World

variable {w : World} {id : SessionId} {candidate existing : Prefix}

/-- The set to which an operation is to add a prefix, and that prefix. -/
def addition? (w : World) : Op → Option (Owner × PrefixId)
  | .addPrefix session network =>
    match w.sessionHandles.get? session, w.prefixHandles.get? network with
    | some id, some p => some (.session id, p)
    | _, _ => none
  | .addToSet set network => (w.prefixHandles.get? network).map fun p => (.set set, p)
  | _ => none

theorem addition?_of_call? {op : Op} {name : String} {p : PrefixId}
    (hc : w.call? op = some (name, .add p)) (hname : w.sessionHandles.get? name = some id) :
    w.addition? op = some (.session id, p) := by
  cases op with
  | addPrefix session network =>
    obtain ⟨found, hfound, heq⟩ := Option.map_eq_some_iff.mp hc
    cases heq
    simp only [addition?, hname, hfound]
  | attach session loop priority => cases loop <;> simp [call?] at hc
  | _ => simp [call?] at hc

theorem of_overlap_call {c : Call LoopSource}
    (h : (w.call id c).result = .error (.overlap candidate existing)) :
    ∃ p, c = .add p ∧ w.network p = candidate ∧
      ∃ m, w.findInSet? (w.members (.session id)) p = some m ∧ w.network m = existing := by
  cases hs : w.session? id with
  | none =>
    rw [call_of_released hs] at h
    cases h
  | some s =>
    rw [result_call hs] at h
    obtain ⟨p, hadd, hoverlap⟩ := Session.of_overlap h
    have hcall : c = .add p := by
      cases c with
      | add q =>
        cases hadd
        rfl
      | _ => cases hadd
    obtain ⟨hp, hexisting⟩ := PrefixSet.of_overlap hoverlap
    exact ⟨p, hcall, hp, members_session_of_live hs ▸ hexisting⟩

theorem error_attachFrom {source : LoopSource} {priority : Int} {e : Error}
    (h : (w.attachFrom id source priority).result = .error e) : e = .busy := by
  cases hs : w.session? id with
  | none =>
    rw [attachFrom, hs] at h
    cases h
  | some s =>
    cases hl : s.loop with
    | some loop =>
      rw [attachFrom_of_attached hs (by rw [hl]; rfl)] at h
      exact (Except.error.inj h).symm
    | none =>
      rw [result_attachFrom_of_detached hs hl] at h
      cases h

theorem error_attachDefault {priority : Int} {e : Error}
    (h : (w.attachDefault id priority).result = .error e) : e = .busy := by
  cases hs : w.session? id with
  | none =>
    rw [attachDefault, hs] at h
    cases h
  | some s =>
    cases hl : s.loop with
    | some loop =>
      rw [attachDefault_of_attached hs (by rw [hl]; rfl)] at h
      exact (Except.error.inj h).symm
    | none =>
      cases hp : s.provider with
      | none =>
        rw [attachDefault, hs] at h
        simp [hl, hp] at h
      | some provider =>
        rw [attachDefault, hs] at h
        simp only [hl, hp, Option.isSome_none, Bool.false_eq_true, if_false] at h
        cases hoffer : (provider.answer w.requests).offer with
        | error cause => simp [hoffer] at h
        | ok source =>
          rw [hoffer] at h
          exact error_attachFrom h

theorem error_editPrefix {p : PrefixId} {change : Edit} {e : Error}
    (h : (w.editPrefix p change).result = .error e) : ∃ cause, e = .outOfRange cause := by
  cases change with
  | network value =>
    revert h
    simp only [editPrefix, Edit.apply, Outcome.lift]
    split
    · simp
    · exact fun h => ⟨_, (Except.error.inj h).symm⟩
  | onLink | autonomous | validLifetime | preferredLifetime => cases h

/-- An operation that makes no call reports an overlap only if it adds to a set. -/
private theorem of_overlap_directly {op : Op}
    (h : (w.step op).reply = .failed (.overlap candidate existing)) (hc : w.call? op = none)
    (he : w.edit? op = none) : ∃ set network, op = .addToSet set network := by
  cases op with
  | addToSet set network => exact ⟨set, network, rfl⟩
  | newSession => simp [step, reply_rebindSessions] at h
  | cloneSession session copy | dropSession session =>
    cases hname : w.sessionHandles.get? session <;>
      simp [step, hname, unchanged, reply_rebindSessions] at h
  | attach session loop priority =>
    cases loop with
    | some loop =>
      rw [call?, Option.map_eq_none_iff] at hc
      simp [step, hc, unchanged] at h
    | none =>
      cases hname : w.sessionHandles.get? session with
      | none => simp [step, hname, unchanged] at h
      | some id =>
        simp only [step, hname, withHandle_some, reply_answer_eq_failed] at h
        cases error_attachDefault h
  | detach | start | stop | set | prefer => simp [call?] at hc
  | setLinkAddressText | preferBits | addPrefix =>
    rw [call?, Option.map_eq_none_iff] at hc
    simp [step, hc, unchanged] at h
  | edit network change =>
    rw [edit?, Option.map_eq_none_iff] at he
    simp [step, he, unchanged] at h
  | setNetworkText network text =>
    cases hname : w.prefixHandles.get? network with
    | none => simp [step, hname, unchanged] at h
    | some p =>
      cases hread : Prefix.read text with
      | error cause => simp [step, hname, hread, unchanged] at h
      | ok value => simp [edit?, hname, hread] at he
  | newLoop | acquireDefault | newPrefix | newSet => cases h
  | takeMember | takeLoop | dropLoop | clonePrefix | dropPrefix | snapshot | dropSet =>
    revert h
    simp only [step, withHandle, unchanged]
    repeat' split
    all_goals simp

theorem of_overlap_addToSet {set network : String}
    (h : (w.step (.addToSet set network)).reply = .failed (.overlap candidate existing)) :
    ∃ p, w.prefixHandles.get? network = some p ∧ w.network p = candidate ∧
      ∃ m, w.findInSet? (w.members (.set set)) p = some m ∧ w.network m = existing := by
  cases hnetwork : w.prefixHandles.get? network with
  | none => simp [step, hnetwork, unchanged] at h
  | some p =>
    cases hset : w.sets.get? set with
    | none => simp [step, hnetwork, hset, unchanged] at h
    | some members =>
      simp only [step, hnetwork, hset, withHandle_some, reply_answer_eq_failed] at h
      obtain ⟨hp, hexisting⟩ := PrefixSet.of_overlap h
      have hmembers : w.members (.set set) = members := by
        rw [World.members, hset]
        rfl
      exact ⟨p, rfl, hp, hmembers ▸ hexisting⟩

/-- An operation that reports an overlap was to add a prefix, and tells this and the first member
that overlaps it. -/
theorem of_overlap_step {op : Op} (h : (w.step op).reply = .failed (.overlap candidate existing)) :
    ∃ o p m, w.addition? op = some (o, p) ∧ w.findInSet? (w.members o) p = some m ∧
      candidate = w.network p ∧ existing = w.network m := by
  cases hc : w.call? op with
  | some named =>
    obtain ⟨name, c⟩ := named
    rw [step_of_call? hc, callNamed] at h
    cases hname : w.sessionHandles.get? name with
    | none =>
      rw [hname] at h
      cases h
    | some id =>
      rw [hname, withHandle_some, reply_answer_eq_failed] at h
      obtain ⟨p, rfl, hp, m, hm, hexisting⟩ := of_overlap_call h
      exact ⟨.session id, p, m, addition?_of_call? hc hname, hm, hp.symm, hexisting.symm⟩
  | none =>
    cases he : w.edit? op with
    | some edit =>
      rw [step_of_edit? he, reply_answer_eq_failed] at h
      obtain ⟨cause, hcause⟩ := error_editPrefix h
      cases hcause
    | none =>
      obtain ⟨set, network, rfl⟩ := of_overlap_directly h hc he
      obtain ⟨p, hp, hcandidate, m, hm, hexisting⟩ := of_overlap_addToSet h
      have hadded : w.addition? (.addToSet set network) = some (.set set, p) := by
        rw [addition?, hp]
        rfl
      exact ⟨.set set, p, m, hadded, hm, hcandidate.symm, hexisting.symm⟩

/-- Every address with every length is read back from its text. So after any run the text of a
handle is read as the present prefix behind it, two handles have one text only if they have one
address and length, and the report of an overlap tells the prefix to add and the first member that
it overlaps. -/
theorem texts_identify_prefixes (ops : List Op) :
    let w := run {} ops
    (∀ (address : Address) (length : UInt8),
      Prefix.read (Prefix.text ⟨address, length⟩) = .ok ⟨address, length⟩) ∧
      (∀ name id, w.prefixHandles.get? name = some id →
        Prefix.read (w.network id).text = .ok (w.network id)) ∧
      (∀ name id other another, w.prefixHandles.get? name = some id →
        w.prefixHandles.get? other = some another →
        ((w.network id).text = (w.network another).text ↔ w.network id = w.network another)) ∧
      ∀ op candidate existing, (w.step op).reply = .failed (.overlap candidate existing) →
        ∃ o p m, w.addition? op = some (o, p) ∧ w.findInSet? (w.members o) p = some m ∧
          Prefix.read candidate.text = .ok (w.network p) ∧
          Prefix.read existing.text = .ok (w.network m) ∧
          ∀ first second, (Error.overlap first second).message =
              (Error.overlap candidate existing).message →
            first = w.network p ∧ second = w.network m := by
  intro w
  refine ⟨fun address length => Prefix.read_text _, fun name id _ => Prefix.read_text _,
    fun name id other another _ _ => Prefix.text_inj, ?_⟩
  intro op candidate existing hreply
  obtain ⟨o, p, m, hadded, hm, rfl, rfl⟩ := of_overlap_step hreply
  exact ⟨o, p, m, hadded, hm, Prefix.read_text _, Prefix.read_text _,
    fun first second => Error.message_overlap_inj.mp⟩

/-- Here a session has a range of mapped addresses and refuses one of these, which a second handle
names. -/
theorem texts_identify_prefixes_of_mapped_addresses :
    let range : Prefix := ⟨.ofGroups [0, 0, 0, 0, 0, 0xffff, 0xc000, 0x0200], 120⟩
    let single : Prefix := ⟨.ofGroups [0, 0, 0, 0, 0, 0xffff, 0xc000, 0x0201], 128⟩
    let ops : List Op := [.newSession "s" none, .newPrefix "p", .edit "p" (.network range),
      .addPrefix "s" "p", .newPrefix "q", .edit "q" (.network single), .clonePrefix "q" "r"]
    let w := run {} ops
    Prefix.read (Prefix.text range) = .ok range ∧
      Prefix.read (w.network 1).text = .ok (w.network 1) ∧
      (w.network 0).text ≠ (w.network 1).text ∧
      (w.step (.addPrefix "s" "r")).reply = .failed (.overlap single range) ∧
      Prefix.read single.text = .ok single ∧
      ∀ first second, (Error.overlap first second).message = (Error.overlap single range).message →
        first = single ∧ second = range := by
  intro range single ops w
  obtain ⟨hall, hhandle, htwo, hoverlap⟩ := texts_identify_prefixes ops
  have hrefused : (w.step (.addPrefix "s" "r")).reply = .failed (.overlap single range) := by decide
  obtain ⟨o, p, m, hadded, hm, hcandidate, -, hmessage⟩ := hoverlap _ _ _ hrefused
  have hadd : w.addition? (.addPrefix "s" "r") = some (.session 0, 1) := by decide
  cases hadd.symm.trans hadded
  have hfound : w.findInSet? (w.members (.session 0)) 1 = some 0 := by decide
  cases hfound.symm.trans hm
  have hdifferent : w.network 0 ≠ w.network 1 := by decide
  refine ⟨hall _ _, hhandle "r" 1 (by decide), ?_, hrefused, hcandidate, hmessage⟩
  exact fun htext => hdifferent ((htwo "p" 0 "q" 1 (by decide) (by decide)).mp htext)

end World

end RouterAdvert
