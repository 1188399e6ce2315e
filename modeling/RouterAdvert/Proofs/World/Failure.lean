import RouterAdvert.Proofs.World.Attempt
import RouterAdvert.Proofs.World.Counts

/-!
# Failed operations

Every operation checks all that it needs before it changes anything, so one that fails leaves the
world as it was: sessions, prefixes, sets, handles and the counters of references. Only the
attachment of a default loop may fail after the provider has made calls that went through.
-/

namespace RouterAdvert

theorem PrefixSet.add_of_error {network : PrefixId → Prefix} {members : PrefixSet}
    {candidate : PrefixId} {e : Error} (h : (members.add network candidate).result = .error e) :
    (members.add network candidate).state = members := by
  revert h
  unfold add
  cases members.firstOverlap? network (network candidate) with
  | none => simp
  | some existing => exact fun _ => rfl

theorem Session.Effect.eq_of_error {network : PrefixId → Prefix} {s t : Session}
    {c : Call EventLoop} {e : Error} (h : Effect network s c t (.error e)) : t = s := by
  cases h
  rfl

theorem Edit.apply_of_error {o : PrefixInformation} {change : Edit} {e : Error}
    (h : (change.apply o).result = .error e) : (change.apply o).state = o := by
  cases change with
  | network value =>
    revert h
    simp only [apply]
    split
    · simp
    · exact fun _ => rfl
  | onLink | autonomous | validLifetime | preferredLifetime => cases h

namespace World

variable {w : World} {id : SessionId} {e : Error}

theorem putSession_self {s : Session} (h : w.session? id = some s) : w.putSession id s = w := by
  rw [putSession, set_session_self h]

theorem set_option_self (w : World) (p : PrefixId) : w.prefixes.set p (w.option p) = w.prefixes := by
  by_cases hlt : p < w.prefixes.length
  · rw [option, List.getElem?_eq_getElem hlt, Option.getD_some, List.set_getElem_self]
  · exact List.set_eq_of_length_le (Nat.le_of_not_lt hlt)

theorem reply_answer_eq_failed {r : World.Result} :
    r.answer.reply = .failed e ↔ r.result = .error e := by
  simp only [Result.answer]
  cases r.result <;> simp

theorem state_onSession_of_kept {s : Session} {act : Session → Outcome Session Log.Event}
    (h : w.session? id = some s) (hkept : (act s).state = s) : (w.onSession id act).state = w := by
  rw [onSession_of_live h]
  change w.putSession id (act s).state = w
  rw [hkept, putSession_self h]

theorem call_of_error {c : Call LoopSource} (h : (w.call id c).result = .error e) :
    (w.call id c).state = w := by
  cases hs : w.session? id with
  | none => rw [call_of_released hs]
  | some s =>
    rw [result_call hs] at h
    have heffect := Session.effect_answer w.network s (w.received s c)
    rw [h] at heffect
    have hkept := heffect.eq_of_error
    cases c with
    | attach source priority =>
      cases hl : s.loop with
      | none => simp [received, Call.map, Session.answer, Session.attach, hl] at h
      | some loop =>
        change (w.attachFrom id source priority).state = w
        rw [attachFrom_of_attached hs (by rw [hl]; rfl)]
        rfl
    | detach | start | stop | set setting | prefer preference | add candidate =>
      exact state_onSession_of_kept hs hkept

theorem callNamed_of_failed {name : String} {c : Call LoopSource}
    (h : (w.callNamed name c).reply = .failed e) : (w.callNamed name c).world = w := by
  unfold callNamed at h ⊢
  cases hname : w.sessionHandles.get? name with
  | none => rfl
  | some id =>
    rw [hname, withHandle_some, reply_answer_eq_failed] at h
    exact call_of_error h

theorem result_attachFrom_of_detached {s : Session} (h : w.session? id = some s) (hl : s.loop = none)
    (source : LoopSource) (priority : Int) : (w.attachFrom id source priority).result = .ok () := by
  have hcall := result_call h (.attach source priority)
  simp only [received, Call.map, Session.answer, Session.attach, hl] at hcall
  exact hcall

/-- The attachment of a default loop fails only on an attached session, or because of what the
provider did. -/
theorem attachDefault_of_error {priority : Int}
    (h : (w.attachDefault id priority).result = .error e)
    (hquiet : ∀ s provider, w.session? id = some s → s.loop = none → s.provider = some provider →
      (provider.answer w.requests).calls = []) : (w.attachDefault id priority).state = w := by
  cases hs : w.session? id with
  | none => rw [attachDefault, hs]
  | some s =>
    cases hl : s.loop with
    | some loop =>
      rw [attachDefault_of_attached hs (by rw [hl]; rfl)]
      rfl
    | none =>
      cases hp : s.provider with
      | none => exact state_attachDefault_of_no_provider hs hl hp priority
      | some provider =>
        have hasked : ({ w with requests := w.requests + 1 } : World).session? id = some s := hs
        rw [attachDefault, hs] at h
        simp only [hl, hp, hquiet s provider hs hl hp, callAll, Option.isSome_none,
          Bool.false_eq_true, if_false] at h
        cases hoffer : (provider.answer w.requests).offer with
        | error e => simp [hoffer] at h
        | ok source => simp [hoffer, result_attachFrom_of_detached hasked hl] at h

theorem reply_rebindSessions (w : World) (handles : Handles SessionId) (old : Option SessionId) :
    (w.rebindSessions handles old).reply = .done := by
  cases old <;> rfl

def providerCalls (w : World) : Op → List (Call LoopSource)
  | .attach session none _ =>
    match (w.sessionHandles.get? session).bind w.session? with
    | none => []
    | some s =>
      if s.loop.isSome then [] else s.provider.elim [] fun p => (p.answer w.requests).calls
  | _ => []

theorem editPrefix_of_failed {p : PrefixId} {change : Edit}
    (h : (w.editPrefix p change).answer.reply = .failed e) :
    (w.editPrefix p change).answer.world = w := by
  rw [reply_answer_eq_failed] at h
  have hkept : (change.apply (w.option p)).state = w.option p := Edit.apply_of_error h
  change { w with prefixes := w.prefixes.set p (change.apply (w.option p)).state } = w
  rw [hkept, set_option_self]

private theorem step_of_failed_directly {op : Op} (h : (w.step op).reply = .failed e)
    (hquiet : w.providerCalls op = []) (hc : w.call? op = none) (he : w.edit? op = none) :
    (w.step op).world = w := by
  cases op with
  | newSession => simp [step, reply_rebindSessions] at h
  | cloneSession session copy =>
    cases hname : w.sessionHandles.get? session <;>
      simp [step, hname, unchanged, reply_rebindSessions] at h
  | dropSession session =>
    cases hname : w.sessionHandles.get? session <;>
      simp [step, hname, unchanged, reply_rebindSessions] at h
  | attach session loop priority =>
    cases loop with
    | some loop => exact world_step_of_idle rfl hc rfl
    | none =>
      cases hname : w.sessionHandles.get? session with
      | none => simp [step, hname]
      | some id =>
        simp only [step, hname, withHandle_some, reply_answer_eq_failed] at h ⊢
        apply attachDefault_of_error h
        intro s provider hs hl hp
        simpa [providerCalls, hname, hs, hl, hp] using hquiet
  | detach | start | stop | set | prefer => simp [call?] at hc
  | setLinkAddressText | preferBits | addPrefix => exact world_step_of_idle rfl hc rfl
  | edit name change =>
    rw [edit?, Option.map_eq_none_iff] at he
    simp [step, he]
  | setNetworkText name text =>
    cases hname : w.prefixHandles.get? name with
    | none => simp [step, hname]
    | some p =>
      cases hread : Prefix.read text with
      | error cause => simp [step, hname, hread]
      | ok value => simp [edit?, hname, hread] at he
  | addToSet set network =>
    cases hnetwork : w.prefixHandles.get? network with
    | none => simp [step, hnetwork]
    | some p =>
      cases hset : w.sets.get? set with
      | none => simp [step, hnetwork, hset]
      | some members =>
        simp only [step, hnetwork, hset, withHandle_some, reply_answer_eq_failed] at h ⊢
        have hkept : (members.add w.network p).state = members := PrefixSet.add_of_error h
        change { w with sets := w.sets.bind set (members.add w.network p).state } = w
        rw [hkept, Handles.bind_self hset]
  | newLoop | acquireDefault | newPrefix | newSet => cases h
  | takeMember | takeLoop | dropLoop | clonePrefix | dropPrefix | snapshot | dropSet =>
    revert h
    simp only [step, withHandle]
    repeat' split
    all_goals simp

/-- A failed operation leaves the world as it was, unless a provider made calls in it. -/
theorem step_of_failed {op : Op} (h : (w.step op).reply = .failed e)
    (hquiet : w.providerCalls op = []) : (w.step op).world = w := by
  cases hc : w.call? op with
  | some named =>
    rw [step_of_call? hc] at h ⊢
    exact callNamed_of_failed h
  | none =>
    cases he : w.edit? op with
    | some edit =>
      rw [step_of_edit? he] at h ⊢
      exact editPrefix_of_failed h
    | none => exact step_of_failed_directly h hquiet hc he

/-- After any run, an operation that fails changes neither the world nor a counter of references,
unless it asked a provider that made calls of its own. -/
theorem failed_operation_changes_nothing (ops : List Op) (op : Op) (e : Error)
    (hfailed : ((run {} ops).step op).reply = .failed e)
    (hquiet : (run {} ops).providerCalls op = []) :
    ((run {} ops).step op).world = run {} ops ∧
      settleAll {} (fun _ => 0) (ops ++ [op]) = settleAll {} (fun _ => 0) ops := by
  have hkept := step_of_failed hfailed hquiet
  refine ⟨hkept, ?_⟩
  have hlonger := settleAll_eq sound_empty (ops ++ [op])
  rw [run_append] at hlonger
  rw [← refs_empty, hlonger, settleAll_eq sound_empty ops]
  exact congrArg refs hkept

/-- Here a session that advertises on a loop refuses a setting, another loop, a prefix that overlaps
its own and a preference that does not exist, and its member refuses a length. -/
theorem failed_operation_changes_nothing_of_refusals :
    let ops : List Op := [.newSession "s" (some .threadDefault), .attach "s" none 4,
      .set "s" (.interface 2), .start "s", .newPrefix "p", .addPrefix "s" "p", .newPrefix "q"]
    let refused : List (Op × Error) := [(.set "s" (.mtu 1500), .busy), (.attach "s" none 5, .busy),
      (.addPrefix "s" "q", .overlap ⟨.unspecified, 64⟩ ⟨.unspecified, 64⟩),
      (.preferBits "s" 2, .outOfRange (.preference 2)),
      (.edit "p" (.network ⟨.unspecified, 2⟩), .outOfRange (.prefixLength 2))]
    ∀ r ∈ refused, ((run {} ops).step r.1).reply = .failed r.2 ∧
      ((run {} ops).step r.1).world = run {} ops ∧
      settleAll {} (fun _ => 0) (ops ++ [r.1]) = settleAll {} (fun _ => 0) ops := by
  intro ops refused r hr
  have hrefused : ∀ r ∈ refused, ((run {} ops).step r.1).reply = .failed r.2 ∧
      (run {} ops).providerCalls r.1 = [] := by decide
  obtain ⟨hfailed, hquiet⟩ := hrefused r hr
  exact ⟨hfailed, failed_operation_changes_nothing ops r.1 r.2 hfailed hquiet⟩

end World

end RouterAdvert
