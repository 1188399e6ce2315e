import RouterAdvert.Log.Filter
import RouterAdvert.Proofs.Session.Logged
import RouterAdvert.Proofs.World.Attempt
import RouterAdvert.Proofs.World.Phases
import RouterAdvert.Proofs.World.Release

/-!
# What a run logs about a session

The part of a log that is about one session is what the session logs in its history, and at the end
of it, when the last reference is given up, that it is released. So the log of a run tells for each
session whether it advertises and how many prefixes it has.
-/

namespace RouterAdvert.World

def about (id : SessionId) (log : List Entry) : List Log.Event :=
  (log.filter (·.subject = .session id)).map (·.event)

@[simp] theorem about_nil (id : SessionId) : about id [] = [] := rfl

@[simp] theorem about_append (id : SessionId) (log more : List Entry) :
    about id (log ++ more) = about id log ++ about id more := by
  rw [about, List.filter_append, List.map_append, ← about, ← about]

theorem about_eq_nil {id : SessionId} {log : List Entry}
    (h : ∀ entry ∈ log, entry.subject ≠ .session id) : about id log = [] := by
  rw [about, List.map_eq_nil_iff, List.filter_eq_nil_iff]
  intro entry hmem
  simpa using h entry hmem

@[simp] theorem about_own (id : SessionId) (events : List Log.Event) :
    about id (events.map (⟨.session id, ·⟩)) = events := by
  induction events with
  | nil => rfl
  | cons event rest ih =>
    simp only [about, List.map_cons, List.filter_cons, decide_true, if_true]
    exact congrArg (event :: ·) ih

theorem about_others {id : SessionId} {subject : Subject} (h : subject ≠ .session id)
    (events : List Log.Event) : about id (events.map (⟨subject, ·⟩)) = [] := by
  apply about_eq_nil
  intro entry hmem
  obtain ⟨event, -, rfl⟩ := List.mem_map.mp hmem
  exact h

variable {w : World} {id : SessionId} {s t : Session} {op : Op}

theorem log_call (h : w.session? id = some s) (c : Call LoopSource) :
    (w.call id c).log =
      (s.answer w.network (w.received s c)).log.map (⟨.session id, ·⟩) := by
  cases c with
  | attach source priority =>
    change (w.attachFrom id source priority).log = _
    cases hl : s.loop with
    | none =>
      have hnext := session?_of_sessions_eq (sessions_obtainLoop w s.router.interface source) id
      rw [attachFrom_of_detached h hl, onSession_of_live (hnext.trans h)]
      rfl
    | some loop =>
      rw [attachFrom_of_attached h (by rw [hl]; rfl)]
      change [] = (s.attach _ priority).log.map _
      rw [Session.attach, hl]
      rfl
  | detach | start | stop | set setting | prefer preference | add candidate =>
    exact congrArg (·.log) (onSession_of_live h _)

theorem about_call_of_ne {other : SessionId} (hne : id ≠ other) (c : Call LoopSource) :
    about other (w.call id c).log = [] := by
  cases h : w.session? id with
  | none => rw [call_of_released h, about_nil]
  | some s =>
    rw [log_call h]
    exact about_others (by simpa using hne) _

theorem told_call (h : w.session? id = some s) (c : Call LoopSource) :
    Session.Told s (w.exchangesOf id [c]) (about id (w.call id c).log)
      (s.answer w.network (w.received s c)).state := by
  have htold := Session.told_answer w.network s (w.received s c)
  simpa only [exchangesOf, h, result_call h c, log_call h c, about_own] using htold

theorem told_callAll (h : w.session? id = some s) (calls : List (Call LoopSource)) :
    ∃ t, Session.Told s (w.exchangesOf id calls) (about id (w.callAll id calls).2) t ∧
      (w.callAll id calls).1.session? id = some t := by
  induction calls generalizing w s with
  | nil => exact ⟨s, .nil s, h⟩
  | cons c rest ih =>
    obtain ⟨t, htold, hlive⟩ := ih (session?_call h c)
    refine ⟨t, ?_, hlive⟩
    have hfirst := told_call h c
    have hboth := hfirst.append htold
    rw [← about_append] at hboth
    change Session.Told s _ (about id ((w.call id c).log ++ _)) t
    simpa only [exchangesOf, h, List.singleton_append] using hboth

theorem about_callAll_of_ne {other : SessionId} (hne : id ≠ other)
    (calls : List (Call LoopSource)) : about other (w.callAll id calls).2 = [] := by
  induction calls generalizing w with
  | nil => rfl
  | cons c rest ih =>
    change about other ((w.call id c).log ++ ((w.call id c).state.callAll id rest).2) = []
    rw [about_append, about_call_of_ne hne, ih, List.append_nil]

theorem log_callAll_append (w : World) (id : SessionId) (before after : List (Call LoopSource)) :
    (w.callAll id (before ++ after)).2 =
      (w.callAll id before).2 ++ ((w.callAll id before).1.callAll id after).2 := by
  induction before generalizing w with
  | nil => rfl
  | cons c rest ih =>
    change (w.call id c).log ++ ((w.call id c).state.callAll id (rest ++ after)).2 = _
    rw [ih, ← List.append_assoc]
    rfl

/-- A session that asks its provider logs what the calls of the provider make it log, and a note if
it stays detached. -/
theorem log_attachDefault (h : w.session? id = some s) (hl : s.loop = none) {provider : Provider}
    (hp : s.provider = some provider) (priority : Int) :
    ∃ notes : List Log.Event, (∀ event ∈ notes, event.IsAside) ∧
      (w.attachDefault id priority).log =
        ({ w with requests := w.requests + 1 }.callAll id
          ((provider.answer w.requests).allCalls priority)).2 ++
          notes.map (⟨.session id, ·⟩) := by
  rw [attachDefault, h]
  simp only [hl, hp, Option.isSome_none, Bool.false_eq_true, if_false, ProviderAnswer.allCalls]
  cases (provider.answer w.requests).offer with
  | error e =>
    refine ⟨[.stayedDetached e], ?_, rfl⟩
    simpa using Log.Event.isAside_stayedDetached e
  | ok source =>
    refine ⟨[], by simp, ?_⟩
    simp only [log_callAll_append, List.map_nil, List.append_nil]
    exact congrArg (_ ++ ·) (List.append_nil _).symm

theorem told_attachDefault (h : w.session? id = some s) (priority : Int) :
    ∃ t, Session.Told s (w.defaultExchanges id priority)
        (about id (w.attachDefault id priority).log) t ∧
      (w.attachDefault id priority).state.session? id = some t := by
  cases hl : s.loop with
  | some loop =>
    have hsome : s.loop.isSome := by rw [hl]; rfl
    rw [attachDefault_of_attached h hsome]
    refine ⟨s, ?_, h⟩
    simp only [defaultExchanges, h, hsome, if_true]
    exact .nil s
  | none =>
    cases hp : s.provider with
    | none =>
      refine ⟨s, ?_, ?_⟩
      · simp only [defaultExchanges, attachDefault, h, hl, hp, Option.isSome_none,
          Bool.false_eq_true, if_false]
        apply Session.told_asides
        simpa [about] using Log.Event.isAside_stayedDetached (.notReady .noProvider)
      · rw [state_attachDefault_of_no_provider h hl hp]
        exact h
    | some provider =>
      obtain ⟨notes, hnotes, hlog⟩ := log_attachDefault h hl hp priority
      have hasked : ({ w with requests := w.requests + 1 } : World).session? id = some s := h
      obtain ⟨t, htold, hlive⟩ :=
        told_callAll hasked ((provider.answer w.requests).allCalls priority)
      refine ⟨t, ?_, ?_⟩
      · have hboth := htold.append (Session.told_asides t hnotes)
        rw [List.append_nil] at hboth
        simpa only [defaultExchanges, h, hl, hp, Option.isSome_none, Bool.false_eq_true, if_false,
          hlog, about_append, about_own] using hboth
      · rw [state_attachDefault_of_provider h hl hp]
        exact hlive

theorem about_attachDefault_of_ne {other : SessionId} (hne : id ≠ other) (priority : Int) :
    about other (w.attachDefault id priority).log = [] := by
  cases h : w.session? id with
  | none => rw [attachDefault, h]; rfl
  | some s =>
    cases hl : s.loop with
    | some loop => rw [attachDefault_of_attached h (by rw [hl]; rfl)]; rfl
    | none =>
      cases hp : s.provider with
      | none =>
        simp only [attachDefault, h, hl, hp, Option.isSome_none, Bool.false_eq_true, if_false]
        apply about_eq_nil
        simpa using hne
      | some provider =>
        obtain ⟨notes, -, hlog⟩ := log_attachDefault h hl hp priority
        rw [hlog, about_append, about_callAll_of_ne hne, about_others (by simpa using hne)]
        rfl

/-- What is asked of one session: the session tells of it if it lives, and nothing else is heard. -/
structure Concerns (w : World) (found : SessionId) (es : List Exchange) (r : Result) : Prop where
  told : ∀ s, w.session? found = some s → ∃ t, Session.Told s es (about found r.log) t ∧
    r.state.session? found = some t
  gone : w.session? found = none → r.log = []
  others : ∀ other, found ≠ other →
    about other r.log = [] ∧ r.state.session? other = w.session? other
  made : r.state.sessions.length = w.sessions.length

theorem concerns_call (w : World) (found : SessionId) (c : Call LoopSource) :
    Concerns w found (w.exchangesOf found [c]) (w.call found c) where
  told _ h := ⟨_, told_call h c, session?_call h c⟩
  gone h := by rw [call_of_released h]
  others _ hne := ⟨about_call_of_ne hne c, session?_call_of_ne (Ne.symm hne) c⟩
  made := length_sessions_call w found c

theorem concerns_attachDefault (w : World) (found : SessionId) (priority : Int) :
    Concerns w found (w.defaultExchanges found priority) (w.attachDefault found priority) where
  told _ h := told_attachDefault h priority
  gone h := by rw [attachDefault, h]
  others _ hne :=
    ⟨about_attachDefault_of_ne hne priority, session?_attachDefault_of_ne (Ne.symm hne) priority⟩
  made := length_sessions_attachDefault w found priority

theorem about_step_of_bystander (hc : w.call? op = none) (hm : op.managesSessions = false)
    (id : SessionId) : about id (w.step op).log = [] := by
  cases op with
  | newSession | cloneSession | dropSession => simp [Op.managesSessions] at hm
  | detach | start | stop | set | prefer => simp [call?] at hc
  | attach session loop priority =>
    cases loop with
    | none => simp [Op.managesSessions] at hm
    | some loop =>
      rw [call?, Option.map_eq_none_iff] at hc
      simp only [step, hc, withHandle_none]
      rfl
  | setLinkAddressText | preferBits | addPrefix =>
    rw [call?, Option.map_eq_none_iff] at hc
    simp only [step, hc]
    rfl
  | edit network change =>
    simp only [step, withHandle]
    split
    · rfl
    · exact about_others (by simp) _
  | setNetworkText network text =>
    simp only [step, withHandle]
    repeat' split
    all_goals first
      | rfl
      | exact about_others (by simp) _
  | addToSet set network =>
    simp only [step, withHandle]
    repeat' split
    all_goals first
      | rfl
      | exact about_others (by simp) _
  | _ =>
    simp only [step, withHandle]
    repeat' split
    all_goals rfl

/-- Who is heard in an operation. -/
inductive Voice (w : World) (op : Op) : Prop
  | nobody (idle : ∀ id, w.exchanges id op = []) (silent : ∀ id, about id (w.step op).log = [])
      (sessions : (w.step op).world.sessions = w.sessions)
  | asked {found : SessionId} {es : List Exchange} {r : Result}
      (exchanges : ∀ id, w.exchanges id op = if found = id then es else [])
      (step : w.step op = r.answer) (concerns : Concerns w found es r)
  | renamed {v : World} {handles : Handles SessionId} {old : Option SessionId}
      (renames : Renames w op v handles old)

theorem Voice.of_unchanged {reply : Reply} (idle : ∀ id, w.exchanges id op = [])
    (hstep : w.step op = w.unchanged reply) : Voice w op :=
  .nobody idle (fun id => by rw [hstep]; rfl) (by rw [hstep]; rfl)

theorem voice_of_call? {name : String} {c : Call LoopSource} (hc : w.call? op = some (name, c)) :
    Voice w op := by
  have hstep := step_of_call? hc
  have hexchanges := exchanges_of_call? hc
  unfold callNamed at hstep
  cases hname : w.sessionHandles.get? name with
  | none =>
    rw [hname] at hstep hexchanges
    exact .of_unchanged (by simpa using hexchanges) hstep
  | some found =>
    rw [hname] at hstep hexchanges
    refine .asked (fun id => ?_) hstep (concerns_call w found c)
    rw [hexchanges]
    by_cases hfound : found = id <;> simp [hfound]

theorem voice (w : World) (op : Op) : Voice w op := by
  cases hc : w.call? op with
  | some named => exact voice_of_call? hc
  | none =>
    by_cases hm : op.managesSessions = false
    · exact .nobody (exchanges_of_bystander hc hm) (about_step_of_bystander hc hm)
        (sessions_step_of_bystander hc hm).1
    · cases op with
      | newSession name provider => exact .renamed (.created name provider)
      | cloneSession name copy =>
        cases hname : w.sessionHandles.get? name with
        | none => exact .of_unchanged (fun _ => rfl) (by simp only [step, hname]; rfl)
        | some found => exact .renamed (.cloned copy hname)
      | dropSession name =>
        cases hname : w.sessionHandles.get? name with
        | none => exact .of_unchanged (fun _ => rfl) (by simp only [step, hname]; rfl)
        | some found => exact .renamed (.dropped hname)
      | attach name loop priority =>
        cases loop with
        | some loop => simp [Op.managesSessions] at hm
        | none =>
          cases hname : w.sessionHandles.get? name with
          | none =>
            refine .of_unchanged (fun id => ?_) (by simp only [step, hname]; rfl)
            simp [exchanges, hname]
          | some found =>
            have hstep : w.step (.attach name none priority) =
                (w.attachDefault found priority).answer := by simp only [step, hname]; rfl
            refine .asked (fun id => ?_) hstep (concerns_attachDefault w found priority)
            simp only [exchanges, hname, Option.some.injEq]
            by_cases hfound : found = id <;> simp [hfound]
      | _ => simp [Op.managesSessions] at hm

/-- What is logged about a session that lives on tells how it got from before to after. -/
theorem told_step (h : w.session? id = some s) (ht : (w.step op).world.session? id = some t) :
    Session.Told s (w.exchanges id op) (about id (w.step op).log) t := by
  have hstill : (w.step op).world.session? id = w.session? id → s = t := by
    intro hsame
    rw [hsame, h] at ht
    exact Option.some.inj ht
  cases voice w op with
  | nobody idle silent sessions =>
    obtain rfl := hstill (session?_of_sessions_eq sessions id)
    rw [idle, silent]
    exact .nil s
  | @asked found es r exchanges step concerns =>
    have hworld : (w.step op).world = r.state := by rw [step]; rfl
    have hlog : (w.step op).log = r.log := by rw [step]; rfl
    rw [exchanges, hlog]
    by_cases hfound : found = id
    · subst hfound
      obtain ⟨t', htold, hlive⟩ := concerns.told s h
      obtain rfl : t' = t := Option.some.inj (hlive.symm.trans (hworld ▸ ht))
      rw [if_pos rfl]
      exact htold
    · obtain ⟨hsilent, hsame⟩ := concerns.others id hfound
      obtain rfl := hstill (hworld ▸ hsame)
      rw [if_neg hfound, hsilent]
      exact .nil s
  | @renamed v handles old renames =>
    rw [renames.exchanges_eq_nil]
    cases rebound v handles old id with
    | kept session held log =>
      obtain rfl := hstill (by rw [renames.step_eq, session, renames.session?_eq h, h])
      rw [renames.step_eq, about_eq_nil log]
      exact .nil s
    | released live lost unheld gone log =>
      rw [renames.step_eq, gone] at ht
      cases ht

theorem Sound.about_step_of_none (hsound : Sound w) (h : w.session? id = none) (op : Op) :
    about id (w.step op).log = [] := by
  cases voice w op with
  | nobody idle silent sessions => exact silent id
  | @asked found es r exchanges step concerns =>
    have hlog : (w.step op).log = r.log := by rw [step]; rfl
    rw [hlog]
    by_cases hfound : found = id
    · rw [concerns.gone (hfound ▸ h), about_nil]
    · exact (concerns.others id hfound).1
  | @renamed v handles old renames =>
    rw [renames.step_eq]
    cases rebound v handles old id with
    | kept session held log => exact about_eq_nil log
    | released live lost unheld gone log =>
      obtain ⟨name, hname⟩ := renames.get_old lost
      obtain ⟨s, hs⟩ := hsound.live_of_get? hname
      rw [h] at hs
      cases hs

theorem runLog_append (w : World) (before after : List Op) :
    w.runLog (before ++ after) = w.runLog before ++ (w.run before).runLog after := by
  induction before generalizing w with
  | nil => rfl
  | cons op rest ih =>
    rw [List.cons_append, runLog, ih, runLog, List.append_assoc]
    rfl

theorem told_run (h : w.session? id = some s) {ops : List Op}
    (ht : (w.run ops).session? id = some t) :
    Session.Told s (w.history id ops) (about id (w.runLog ops)) t := by
  induction ops generalizing w s with
  | nil =>
    obtain rfl : s = t := Option.some.inj (h.symm.trans ht)
    exact .nil s
  | cons op rest ih =>
    rw [history, runLog, about_append]
    cases fate_of_live h op with
    | lives u answers live => exact (told_step h live).append (ih live ht)
    | released idle retired =>
      have hgone := (retired.run rest).1.gone
      rw [run, hgone] at ht
      cases ht

theorem Sound.told_from_new (hsound : Sound w) (h : w.session? id = none) {ops : List Op}
    (ht : (w.run ops).session? id = some t) :
    ∃ provider, Session.Told { provider } (w.history id ops) (about id (w.runLog ops)) t := by
  induction ops generalizing w with
  | nil =>
    change w.session? id = some t at ht
    rw [h] at ht
    cases ht
  | cons op rest ih =>
    rw [history, exchanges_of_none h, runLog, about_append, hsound.about_step_of_none h]
    rcases session?_step_of_none h op with hnone | ⟨-, provider, -, hmade⟩
    · exact ih (hsound.step op) hnone ht
    · exact ⟨provider, told_run hmade ht⟩

theorem Sound.about_runLog_of_retired (hsound : Sound w) (h : Retired w id) (ops : List Op) :
    about id (w.runLog ops) = [] := by
  induction ops generalizing w with
  | nil => rfl
  | cons op rest ih =>
    rw [runLog, about_append, hsound.about_step_of_none h.gone, ih (hsound.step op) (h.step op)]
    rfl

theorem Sound.live_of_made (hsound : Sound w) (hbefore : w.sessions.length ≤ id)
    (hafter : id < (w.step op).world.sessions.length) :
    ∃ s, (w.step op).world.session? id = some s := by
  have hno : ¬(w.step op).world.sessions.length = w.sessions.length := fun hsame =>
    absurd (hsame ▸ hafter) (Nat.not_lt.mpr hbefore)
  cases voice w op with
  | nobody idle silent sessions => exact absurd (congrArg List.length sessions) hno
  | asked exchanges step concerns =>
    rw [step] at hno
    exact absurd concerns.made hno
  | renamed renames =>
    have hlength := renames.step_eq ▸ length_sessions_rebindSessions _ _ _
    cases renames with
    | cloned | dropped => exact absurd hlength hno
    | created name provider =>
      rw [List.length_append, List.length_singleton] at hlength
      obtain rfl : id = w.sessions.length :=
        Nat.le_antisymm (Nat.le_of_lt_succ (Nat.lt_of_lt_of_eq hafter hlength)) hbefore
      have hcount := count_newSession w name provider
      exact Option.isSome_iff_exists.mp ((hsound.step _).held _ (Nat.ne_of_gt hcount))

/-- A session that was made in a run and is gone at the end of it was released by one of the
operations. -/
theorem Sound.release_of_gone (hsound : Sound w) {ops : List Op}
    (hbefore : w.sessions.length ≤ id ∨ ∃ s, w.session? id = some s)
    (hmade : id < (w.run ops).sessions.length) (hgone : (w.run ops).session? id = none) :
    ∃ before op after s, ops = before ++ op :: after ∧ (w.run before).session? id = some s ∧
      Retired ((w.run before).step op).world id := by
  induction ops generalizing w with
  | nil =>
    rcases hbefore with hlater | ⟨s, hs⟩
    · exact absurd hmade (Nat.not_lt.mpr hlater)
    · change w.session? id = none at hgone
      rw [hs] at hgone
      cases hgone
  | cons op rest ih =>
    -- Unless this operation releases the session, one of the later ones does.
    have hlater : (w.step op).world.sessions.length ≤ id ∨
        (∃ s, (w.step op).world.session? id = some s) →
        ∃ before other after s, op :: rest = before ++ other :: after ∧
          (w.run before).session? id = some s ∧ Retired ((w.run before).step other).world id := by
      intro hnext
      obtain ⟨before, other, after, s, rfl, hs, hretired⟩ := ih (hsound.step op) hnext hmade hgone
      exact ⟨op :: before, other, after, s, rfl, hs, hretired⟩
    rcases hbefore with hunmade | ⟨s, hs⟩
    · by_cases hnow : id < (w.step op).world.sessions.length
      · exact hlater (.inr (hsound.live_of_made hunmade hnow))
      · exact hlater (.inl (Nat.not_lt.mp hnow))
    · cases fate_of_live hs op with
      | lives t answers live => exact hlater (.inr ⟨t, live⟩)
      | released idle retired => exact ⟨[], op, rest, s, rfl, hs, retired⟩

theorem shows_all_levels (event : Log.Event) :
    (Log.Filter.ofVerbosity Log.Level.trace.verbosity).shows event = true := by
  have hlevel : event.level.verbosity ≤ Log.Level.trace.verbosity := by
    cases event.level <;> decide
  simpa [Log.Filter.shows, Log.Filter.deciding?, Log.Filter.ofVerbosity, Log.Directive.concerns]
    using hlevel

theorem about_start {name : String} (hname : w.sessionHandles.get? name = some id)
    (h : w.session? id = some s) :
    about id (w.step (.start name)).log =
      if s.phase = .idle ∧ (w.step (.start name)).reply = .done then
        [.started s.router.interface s.members.length] else [] := by
  rw [(step_start hname h).1, step_of_named rfl hname]
  change about id (w.call id .start).log = _
  rw [log_call h, about_own]
  change s.start.log = _
  unfold Session.start
  by_cases hloop : s.loop.isNone
  · simp [hloop, Outcome.fail, Reply.of]
  · by_cases hinterface : s.router.interface ≤ 0
    · simp [hloop, hinterface, Outcome.fail, Reply.of]
    · cases hphase : s.phase <;> simp [hloop, hinterface, Reply.of]

theorem about_stop {name : String} (hname : w.sessionHandles.get? name = some id)
    (h : w.session? id = some s) :
    about id (w.step (.stop name)).log =
      if s.phase = .advertising then [.stopping s.router.interface] else [] := by
  rw [step_of_named rfl hname]
  change about id (w.call id .stop).log = _
  rw [log_call h, about_own]
  change s.stop.log = _
  unfold Session.stop
  cases s.phase <;> simp

/-- What is logged about a session in a run, with all levels shown. As long as the session lives,
its starts and stops alternate in the log, and the last of them tells the phase; the additions are
counted up to the number of prefixes, and all others are reported as refused. It is released when
the last reference is given up, which is logged once, with its interface and the number of its
prefixes at the end; nothing is logged about it afterwards. -/
theorem log_tells_of_sessions (ops : List Op) (id : SessionId)
    (hmade : id < (run {} ops).sessions.length) :
    let w := run {} ops
    let log := about id (runLog {} ops)
    (∀ event : Log.Event, event.Worded ∧
      (Log.Filter.ofVerbosity Log.Level.trace.verbosity).shows event = true) ∧
    (∀ s, w.session? id = some s →
      w.sessionRefs id ≠ 0 ∧ Session.TruthfulLog log (history {} id ops) s ∧
      ∀ name, w.sessionHandles.get? name = some id →
        about id (w.step (.start name)).log =
          (if s.phase = .idle ∧ (w.step (.start name)).reply = .done then
            [.started s.router.interface s.members.length] else []) ∧
        about id (w.step (.stop name)).log =
          if s.phase = .advertising then [.stopping s.router.interface] else []) ∧
    (w.session? id = none → ∃ before op after s, ops = before ++ op :: after ∧
      let v := run {} before
      v.session? id = some s ∧ v.sessionRefs id = 1 ∧ (v.step op).world.sessionRefs id = 0 ∧
      Session.TruthfulLog (about id (runLog {} before)) (history {} id before) s ∧
      about id (v.step op).log = [.released s.router.interface s.members.length] ∧
      about id ((v.step op).world.runLog after) = [] ∧
      log = about id (runLog {} before) ++ [.released s.router.interface s.members.length]) := by
  intro w log
  have htruthful : ∀ {ops : List Op} {s : Session}, (run {} ops).session? id = some s →
      Session.TruthfulLog (about id (runLog {} ops)) (history {} id ops) s := by
    intro ops s hs
    obtain ⟨provider, htold⟩ := sound_empty.told_from_new rfl hs
    exact htold.truthful
  refine ⟨fun event => ⟨event.worded, shows_all_levels event⟩, ?_, ?_⟩
  · intro s hs
    refine ⟨held_empty.run sound_empty ops id s hs, htruthful hs, ?_⟩
    intro name hname
    exact ⟨about_start hname hs, about_stop hname hs⟩
  · intro hgone
    obtain ⟨before, op, after, s, rfl, hs, hretired⟩ :=
      sound_empty.release_of_gone (.inl (Nat.zero_le id)) hmade hgone
    have hsound : Sound (run {} before) := sound_empty.run before
    have hheld : Held (run {} before) := held_empty.run sound_empty before
    obtain ⟨hlast, hlog⟩ := hheld.last_reference hsound hs hretired.gone
    have hreleased : about id ((run {} before).step op).log =
        [.released s.router.interface s.members.length] := by
      rw [hlog]
      exact about_own id [.released s.router.interface s.members.length]
    have hafter := (hsound.step op).about_runLog_of_retired hretired after
    refine ⟨before, op, after, s, rfl, hs, hlast, hretired.sessionRefs_eq_zero, htruthful hs,
      hreleased, hafter, ?_⟩
    change about id (runLog {} (before ++ op :: after)) = _
    rw [runLog_append, about_append, runLog, about_append, hreleased, hafter, List.append_nil]

/-- Here the provider attaches another loop and starts the session before it fails, the session is
started and stopped once too often, and the last handle to it is given to another session. -/
theorem log_tells_of_sessions_of_replaced_handle :
    let provider : Provider := {
      answer := fun _ => {
        calls := [.attach (.fresh "spare") 3, .start]
        offer := .error (.notReady (.because "late")) } }
    let ops : List Op := [.newSession "s" (some provider), .start "s", .set "s" (.interface 2),
      .newPrefix "p", .addPrefix "s" "p", .addPrefix "s" "p", .attach "s" none 0, .start "s",
      .cloneSession "s" "t", .stop "t", .stop "s", .dropSession "s", .newSession "t" none,
      .start "t"]
    let log := about 0 (runLog {} ops)
    0 < (run {} ops).sessions.length ∧ (run {} ops).session? 0 = none ∧
      log.map (·.message) = ["Added prefix", "IPv6 prefix already configured, ignoring",
        "Attached event loop", "Started IPv6 Router Advertisement daemon",
        "No default event loop, staying detached", "Stopping IPv6 Router Advertisement daemon",
        "Releasing Router Advertisement session"] ∧
      ∃ before op after s, ops = before ++ op :: after ∧
        (run {} before).session? 0 = some s ∧ (run {} before).sessionRefs 0 = 1 ∧
        log = about 0 (runLog {} before) ++ [.released s.router.interface s.members.length] := by
  intro provider ops log
  have hmade : 0 < (run {} ops).sessions.length := by decide
  have hgone : (run {} ops).session? 0 = none := by
    have hnone : ((run {} ops).session? 0).isNone = true := by decide
    exact Option.isNone_iff_eq_none.mp hnone
  obtain ⟨-, -, hreleased⟩ := log_tells_of_sessions ops 0 hmade
  obtain ⟨before, op, after, s, hops, hs, hlast, -, -, -, -, hlog⟩ := hreleased hgone
  exact ⟨hmade, hgone, by decide, before, op, after, s, hops, hs, hlast, hlog⟩

end RouterAdvert.World
