import RouterAdvert.Proofs.World.Ledger
import RouterAdvert.Proofs.World.Sound

/-!
# Balances

What an operation takes and gives up is by how much the numbers of references differ before and
after it. So the counters of the ledger are these numbers at any time.
-/

namespace RouterAdvert.World

/-- The references of two worlds differ by what was taken and given up in between. -/
def Balanced (w w' : World) (taken given : List Ref) : Prop :=
  ∀ r, w'.refs r + given.count r = w.refs r + taken.count r

theorem Balanced.settled {w w' : World} {taken given : List Ref} (h : Balanced w w' taken given) :
    (Counts.take w.refs taken).give given = w'.refs := by
  funext r
  have := h r
  change w.refs r + taken.count r - given.count r = w'.refs r
  omega

theorem providerRefs_of_sessions_eq {w w' : World} (hs : w'.sessions = w.sessions) (r : Ref) :
    w'.providerRefs r = w.providerRefs r := by
  cases r with
  | session id => rw [providerRefs, providerRefs, session?_of_sessions_eq hs]
  | network | loop => rfl

theorem balanced_of_sessions_eq {w w' : World} (hs : w'.sessions = w.sessions)
    {taken given : List Ref}
    (h : ∀ r, w'.nameRefs r + given.count r = w.nameRefs r + taken.count r) :
    Balanced w w' taken given := by
  intro r
  have hr := h r
  rw [refs_eq, refs_eq, providerRefs_of_sessions_eq hs, tally_of_sessions_eq hs]
  omega

theorem nameRefs_of_same {w w' : World} (h : SameHoldings w w') : w'.nameRefs = w.nameRefs := by
  funext r
  rw [nameRefs, nameRefs, h.sessionHandles, h.prefixHandles, h.loopHandles, h.sets]

theorem refs_of_same {w w' : World} (hs : w'.sessions = w.sessions) (h : SameHoldings w w') :
    w'.refs = w.refs := by
  funext r
  rw [refs_eq, refs_eq, providerRefs_of_sessions_eq hs, tally_of_sessions_eq hs, nameRefs_of_same h]

theorem Balanced.trans {u v w : World} {t t' g g' : List Ref} (h : Balanced u v t g)
    (h' : Balanced v w t' g') : Balanced u w (t ++ t') (g ++ g') := by
  intro r
  have := h r
  have := h' r
  rw [List.count_append, List.count_append]
  omega

theorem count_map_toList {α : Type} (o : Option α) (f : α → Ref) (r : Ref) :
    (o.toList.map f).count r = o.elim 0 fun x => [f x].count r := by
  cases o <;> rfl

theorem balanced_bindPrefix (w : World) (name : String) (id : PrefixId) :
    Balanced w { w with prefixHandles := w.prefixHandles.bind name id } [.network id]
      ((w.prefixHandles.get? name).toList.map .network) := by
  refine balanced_of_sessions_eq (by rfl) ?_
  intro r
  have hbind := Handles.weigh_bind (fun id => [Ref.network id].count r) w.prefixHandles name id
  rw [nameRefs, nameRefs, count_map_toList]
  dsimp only
  omega

theorem balanced_dropPrefix {w : World} (h : w.prefixHandles.names.Nodup) (name : String) :
    Balanced w { w with prefixHandles := w.prefixHandles.drop name } []
      ((w.prefixHandles.get? name).toList.map .network) := by
  refine balanced_of_sessions_eq (by rfl) ?_
  intro r
  have hdrop := Handles.weigh_drop (fun id => [Ref.network id].count r) h name
  rw [nameRefs, nameRefs, count_map_toList, List.count_nil]
  dsimp only
  omega

theorem balanced_bindLoop (w : World) (name : String) (loop : EventLoop) :
    Balanced w { w with loopHandles := w.loopHandles.bind name loop } [.loop loop]
      ((w.loopHandles.get? name).toList.map .loop) := by
  refine balanced_of_sessions_eq (by rfl) ?_
  intro r
  have hbind := Handles.weigh_bind (fun loop => [Ref.loop loop].count r) w.loopHandles name loop
  rw [nameRefs, nameRefs, count_map_toList]
  dsimp only
  omega

theorem balanced_dropLoop {w : World} (h : w.loopHandles.names.Nodup) (name : String) :
    Balanced w { w with loopHandles := w.loopHandles.drop name } []
      ((w.loopHandles.get? name).toList.map .loop) := by
  refine balanced_of_sessions_eq (by rfl) ?_
  intro r
  have hdrop := Handles.weigh_drop (fun loop => [Ref.loop loop].count r) h name
  rw [nameRefs, nameRefs, count_map_toList, List.count_nil]
  dsimp only
  omega

private theorem elim_count_members (o : Option PrefixSet) (r : Ref) :
    ((o.getD []).map Ref.network).count r =
      o.elim 0 fun members => (members.map Ref.network).count r := by
  cases o <;> rfl

theorem balanced_bindSet (w : World) (name : String) (members : PrefixSet) :
    Balanced w { w with sets := w.sets.bind name members } (members.map .network)
      (((w.sets.get? name).getD []).map .network) := by
  refine balanced_of_sessions_eq (by rfl) ?_
  intro r
  have hbind := Handles.weigh_bind (fun members => (members.map Ref.network).count r)
    w.sets name members
  rw [nameRefs, nameRefs, elim_count_members]
  dsimp only
  omega

theorem balanced_dropSet {w : World} (h : w.sets.names.Nodup) (name : String) :
    Balanced w { w with sets := w.sets.drop name } []
      (((w.sets.get? name).getD []).map .network) := by
  refine balanced_of_sessions_eq (by rfl) ?_
  intro r
  have hdrop := Handles.weigh_drop (fun members => (members.map Ref.network).count r) h name
  rw [nameRefs, nameRefs, elim_count_members, List.count_nil]
  dsimp only
  omega

theorem providerRefs_of_sessions_set {w w' : World} {id : SessionId} {s t : Session}
    (h : w.session? id = some s) (hw : w'.sessions = w.sessions.set id (some t))
    (hprovider : t.provider = s.provider) (r : Ref) : w'.providerRefs r = w.providerRefs r := by
  cases r with
  | session other =>
    rw [providerRefs, providerRefs, session?_of_sessions_set (lt_of_session? h) hw]
    by_cases ho : other = id
    · subst ho
      simp [h, heldByProvider, hprovider]
    · rw [if_neg ho]
  | network | loop => rfl

theorem balanced_call {w : World} {id : SessionId} {s : Session} (h : w.session? id = some s)
    (c : Call LoopSource) :
    Balanced w (w.call id c).state (s.taken w.network (w.received s c))
      (s.given (w.received s c)) := by
  intro r
  have hsessions := sessions_call h c
  have hprovider := providerRefs_of_sessions_set h hsessions (Session.answer_provider _ s _) r
  have htally := tally_set h hsessions (fun s => s.holdings.count r)
  have hanswer := s.count_holdings_answer w.network (w.received s c) r
  rw [Option.elim_some] at htally
  rw [refs_eq, refs_eq, nameRefs_of_same (sameHoldings_call w id c), hprovider]
  omega

theorem settleCalls_eq {w : World} {id : SessionId} {s : Session} (h : w.session? id = some s)
    (calls : List (Call LoopSource)) :
    w.settleCalls w.refs id calls = (w.callAll id calls).1.refs := by
  induction calls generalizing w s with
  | nil => rfl
  | cons c rest ih =>
    simp only [settleCalls, h, (balanced_call h c).settled]
    exact ih (session?_call h c)

theorem settleDefault_eq (w : World) (id : SessionId) (priority : Int) :
    w.settleDefault w.refs id priority = (w.attachDefault id priority).state.refs := by
  cases h : w.session? id with
  | none => simp only [settleDefault, attachDefault, h]
  | some s =>
    cases hl : s.loop with
    | some loop =>
      have hsome : s.loop.isSome := by rw [hl]; rfl
      rw [attachDefault_of_attached h hsome]
      simp only [settleDefault, h, hsome, if_true]
      rfl
    | none =>
      cases hp : s.provider with
      | none =>
        rw [state_attachDefault_of_no_provider h hl hp]
        simp [settleDefault, h, hl, hp]
      | some provider =>
        rw [state_attachDefault_of_provider h hl hp]
        have hasked : ({ w with requests := w.requests + 1 } : World).session? id = some s := h
        simp only [settleDefault, h, hl, hp, Option.isSome_none, Bool.false_eq_true, if_false]
        exact settleCalls_eq hasked _

theorem balanced_bindSession (w : World) (name : String) (id : SessionId) :
    Balanced w { w with sessionHandles := w.sessionHandles.bind name id } [.session id]
      ((w.sessionHandles.get? name).toList.map .session) := by
  refine balanced_of_sessions_eq (by rfl) ?_
  intro r
  have hbind := Handles.weigh_bind (fun id => [Ref.session id].count r) w.sessionHandles name id
  rw [nameRefs, nameRefs, count_map_toList]
  dsimp only
  omega

theorem balanced_dropSession {w : World} (h : w.sessionHandles.names.Nodup) (name : String) :
    Balanced w { w with sessionHandles := w.sessionHandles.drop name } []
      ((w.sessionHandles.get? name).toList.map .session) := by
  refine balanced_of_sessions_eq (by rfl) ?_
  intro r
  have hdrop := Handles.weigh_drop (fun id => [Ref.session id].count r) h name
  rw [nameRefs, nameRefs, count_map_toList, List.count_nil]
  dsimp only
  omega

theorem balanced_create (w : World) (provider : Option Provider) :
    Balanced w { w with sessions := w.sessions ++ [some { provider }] }
      (if provider.any (·.holdsSession) then [.session w.sessions.length] else []) [] := by
  intro r
  have htally : tally (fun s => s.holdings.count r)
      { w with sessions := w.sessions ++ [some { provider }] } =
        tally (fun s => s.holdings.count r) w + (Session.holdings { provider }).count r :=
    tally_create (by rfl) _
  have hnone : w.session? w.sessions.length = none := by
    rw [session?, List.getElem?_eq_none (Nat.le_refl _)]
    rfl
  have hprovider : providerRefs { w with sessions := w.sessions ++ [some { provider }] } r =
      w.providerRefs r +
        (if provider.any (·.holdsSession) then [Ref.session w.sessions.length] else []).count r := by
    cases r with
    | session id =>
      rw [providerRefs, providerRefs, session?_create]
      by_cases hid : id = w.sessions.length
      · subst hid
        rw [if_pos rfl, hnone]
        by_cases hholds : provider.any (·.holdsSession) <;> simp [heldByProvider, hholds]
      · rw [if_neg hid]
        by_cases hholds : provider.any (·.holdsSession) <;>
          simp [hholds, Ne.symm hid]
    | network | loop =>
      by_cases hholds : provider.any (·.holdsSession) <;> simp [providerRefs, hholds]
  rw [refs_eq, refs_eq, htally, hprovider, List.count_nil]
  change w.nameRefs r + _ + (_ + 0) + 0 = _
  omega

theorem balanced_release {w : World} {id : SessionId} {s : Session} (h : w.session? id = some s)
    (hrefs : w.sessionRefs id = 0) :
    Balanced w { w with sessions := w.sessions.set id none } [] s.holdings := by
  intro r
  have hset : ({ w with sessions := w.sessions.set id none } : World).sessions =
      w.sessions.set id none := rfl
  have htally := tally_set h hset (fun s => s.holdings.count r)
  rw [Option.elim_none] at htally
  have hprovider : providerRefs { w with sessions := w.sessions.set id none } r =
      w.providerRefs r := by
    cases r with
    | session other =>
      rw [providerRefs, providerRefs, session?_release h]
      by_cases ho : other = id
      · subst ho
        rw [if_pos rfl]
        unfold sessionRefs at hrefs
        simp only [Option.any_none, Bool.false_eq_true, if_false]
        omega
      · rw [if_neg ho]
    | network | loop => rfl
  rw [refs_eq, refs_eq, hprovider, List.count_nil]
  change w.nameRefs r + _ + _ + _ = _
  omega

theorem settleHandle_eq {w v : World} {old : Option SessionId} {c : Counts}
    (hsame : ∀ id, old = some id → v.session? id = w.session? id)
    (hc : ∀ r, v.refs r + (old.toList.map .session).count r = c r) :
    w.settleHandle c old = (v.rebindSessions v.sessionHandles old).world.refs := by
  cases old with
  | none =>
    funext r
    exact (hc r).symm
  | some id =>
    have hnext : c.give [.session id] = v.refs := by
      funext r
      have := hc r
      simp only [Option.toList_some, List.map_cons, List.map_nil] at this
      change c r - [Ref.session id].count r = v.refs r
      omega
    -- Without the handle the counters are right again, so both sides release the session or neither.
    change c.giveSession id _ = (v.releaseUnheld id).1.refs
    simp only [Counts.giveSession, hnext, ← hsame id rfl]
    change (if v.sessionRefs id = 0 then _ else _) = _
    unfold releaseUnheld
    cases h : v.session? id with
    | none => simp [Counts.give_nil]
    | some s =>
      by_cases hrefs : v.sessionRefs id = 0
      · simp only [hrefs, if_true, Option.elim_some]
        exact (balanced_release h hrefs).settled
      · simp only [hrefs, if_false]

theorem settleNamed_eq (w : World) (name : String) (c : Call LoopSource) :
    w.settleNamed w.refs name c = (w.callNamed name c).world.refs := by
  rw [settleNamed, callNamed]
  cases w.sessionHandles.get? name with
  | none => rfl
  | some id =>
    cases h : w.session? id with
    | none => simp [settleCalls, h, call_of_released h, Result.answer]
    | some s => exact settleCalls_eq h [c]

theorem settle_newSession {w : World} (h : Sound w) (name : String)
    (provider : Option Provider) :
    w.settle w.refs (.newSession name provider) =
      (w.step (.newSession name provider)).world.refs := by
  apply settleHandle_eq (v := { w with
    sessions := w.sessions ++ [some { provider }]
    sessionHandles := w.sessionHandles.bind name w.sessions.length })
  · intro id hid
    have hlive := h.held id (Nat.ne_of_gt (Handles.count_pos_of_get? hid))
    rcases Option.isSome_iff_exists.mp hlive with ⟨s, hs⟩
    exact (session?_create w _ id).trans (if_neg (Nat.ne_of_lt (lt_of_session? hs)))
  · exact (balanced_create w provider).trans
      (balanced_bindSession { w with sessions := w.sessions ++ [some { provider }] } name _)

theorem settled_drop {w v : World} {α : Type} {found : Option α} {given : List Ref}
    (hnone : found = none → given = []) (h : Balanced w v [] given) :
    Counts.give w.refs given = (w.withHandle found fun _ => { world := v }).world.refs := by
  cases found with
  | none =>
    rw [hnone rfl]
    rfl
  | some x => exact h.settled

theorem settle_cloneSession (w : World) (name copy : String) :
    w.settle w.refs (.cloneSession name copy) =
      (w.step (.cloneSession name copy)).world.refs := by
  simp only [settle, step]
  cases w.sessionHandles.get? name with
  | none => rfl
  | some id =>
    apply settleHandle_eq (v := { w with sessionHandles := w.sessionHandles.bind copy id })
    · intro old hold
      rfl
    · exact balanced_bindSession w copy id

theorem settle_dropSession {w : World} (h : Sound w) (name : String) :
    w.settle w.refs (.dropSession name) = (w.step (.dropSession name)).world.refs := by
  simp only [settle, step]
  cases hname : w.sessionHandles.get? name with
  | none => rfl
  | some id =>
    apply settleHandle_eq (v := { w with sessionHandles := w.sessionHandles.drop name })
    · intro old hold
      rfl
    · have hdrop := balanced_dropSession h.sessionNames name
      rw [hname] at hdrop
      exact hdrop

theorem settle_attachDefault (w : World) (name : String) (priority : Int) :
    w.settle w.refs (.attach name none priority) =
      (w.step (.attach name none priority)).world.refs := by
  simp only [settle, step]
  cases w.sessionHandles.get? name with
  | none => rfl
  | some id => exact settleDefault_eq w id priority

theorem settle_takeMember (w : World) (name : String) (index : Nat) (copy : String) :
    w.settle w.refs (.takeMember name index copy) =
      (w.step (.takeMember name index copy)).world.refs := by
  simp only [settle, step]
  cases w.sessionHandles.get? name with
  | none => rfl
  | some id =>
    rw [Option.bind_some, withHandle_some]
    cases (w.session? id).bind (·.members[index]?) with
    | none => rfl
    | some member => exact (balanced_bindPrefix w copy member).settled

theorem settle_takeLoop (w : World) (name copy : String) :
    w.settle w.refs (.takeLoop name copy) = (w.step (.takeLoop name copy)).world.refs := by
  simp only [settle, step]
  cases w.sessionHandles.get? name with
  | none => rfl
  | some id =>
    rw [Option.bind_some, withHandle_some]
    cases (w.session? id).bind (·.loop) with
    | none => rfl
    | some loop => exact (balanced_bindLoop w copy loop).settled

theorem settle_clonePrefix (w : World) (name copy : String) :
    w.settle w.refs (.clonePrefix name copy) = (w.step (.clonePrefix name copy)).world.refs := by
  simp only [settle, step]
  cases w.prefixHandles.get? name with
  | none => rfl
  | some id => exact (balanced_bindPrefix w copy id).settled

theorem settle_acquireDefault (w : World) (name : String) :
    w.settle w.refs (.acquireDefault name) = (w.step (.acquireDefault name)).world.refs := by
  have hsame := refs_of_same w.sessions_defaultLoop w.sameHoldings_defaultLoop
  have hsettled := (balanced_bindLoop w.defaultLoop.2 name w.defaultLoop.1).settled
  rw [hsame, w.sameHoldings_defaultLoop.loopHandles] at hsettled
  simp only [settle, step, w.sameHoldings_defaultLoop.loopHandles]
  exact hsettled

/-- A set that is written back has taken the prefix that was added, if it was. -/
theorem settle_addition {w : World} {name : String} {members : PrefixSet}
    (hname : w.sets.get? name = some members) (id : PrefixId) :
    (if (members.firstOverlap? w.network (w.network id)).isNone then
      Counts.take w.refs [.network id] else w.refs) =
      ({ w with sets := w.sets.bind name (members.add w.network id).state } : World).refs := by
  funext r
  have hbind := balanced_bindSet w name (members.add w.network id).state r
  rw [hname, Option.getD_some] at hbind
  unfold PrefixSet.add at hbind ⊢
  cases h : members.firstOverlap? w.network (w.network id) with
  | none =>
    rw [h] at hbind
    simp only [List.map_append, List.map_cons, List.map_nil, List.count_append] at hbind
    simp only [Option.isNone_none, if_true, Counts.take]
    omega
  | some existing =>
    rw [h] at hbind
    dsimp only at hbind
    simp only [Option.isNone_some, Bool.false_eq_true, if_false]
    omega

theorem settle_addToSet (w : World) (name network : String) :
    w.settle w.refs (.addToSet name network) =
      (w.step (.addToSet name network)).world.refs := by
  simp only [settle, step]
  cases w.prefixHandles.get? network with
  | none => rfl
  | some id =>
    cases hname : w.sets.get? name with
    | none => rfl
    | some members => exact settle_addition hname id

/-- The counters stay the numbers of references. -/
theorem settle_eq {w : World} (h : Sound w) (op : Op) :
    w.settle w.refs op = (w.step op).world.refs := by
  cases hc : w.call? op with
  | some named =>
    rw [settle_of_call? hc, step_of_call? hc]
    exact settleNamed_eq w named.1 named.2
  | none =>
    cases op with
    | newSession name provider => exact settle_newSession h name provider
    | cloneSession name copy => exact settle_cloneSession w name copy
    | dropSession name => exact settle_dropSession h name
    | attach name loop priority =>
      cases loop with
      | none => exact settle_attachDefault w name priority
      | some loop => rw [settle_of_idle rfl hc rfl, world_step_of_idle rfl hc rfl]
    | detach | start | stop | set | setLinkAddressText | prefer | preferBits | addPrefix =>
      rw [settle_of_idle rfl hc rfl, world_step_of_idle rfl hc rfl]
    | takeMember name index copy => exact settle_takeMember w name index copy
    | takeLoop name copy => exact settle_takeLoop w name copy
    | clonePrefix name copy => exact settle_clonePrefix w name copy
    | newPrefix name =>
      exact (balanced_bindPrefix { w with prefixes := w.prefixes ++ [default] } name _).settled
    | newLoop name label =>
      exact (balanced_bindLoop { w with loopsMade := w.loopsMade + 1 } name _).settled
    | newSet name => exact (balanced_bindSet w name []).settled
    | acquireDefault name => exact settle_acquireDefault w name
    | dropPrefix name =>
      exact settled_drop (fun hnone => by rw [hnone]; rfl) (balanced_dropPrefix h.prefixNames name)
    | dropLoop name =>
      exact settled_drop (fun hnone => by rw [hnone]; rfl) (balanced_dropLoop h.loopNames name)
    | dropSet name =>
      exact settled_drop (fun hnone => by rw [hnone]; rfl) (balanced_dropSet h.setNames name)
    | addToSet name network => exact settle_addToSet w name network
    | edit | setNetworkText | snapshot =>
      simp only [settle, step, withHandle, call?]
      repeat' split
      all_goals rfl

theorem settleAll_eq {w : World} (h : Sound w) (ops : List Op) :
    w.settleAll w.refs ops = (w.run ops).refs := by
  induction ops generalizing w with
  | nil => rfl
  | cons op rest ih =>
    rw [settleAll, settle_eq h op]
    exact ih (h.step op)

end RouterAdvert.World
