import RouterAdvert.Proofs.World.Failure

/-!
# Attaching a default loop

A session that is to be attached to the default loop asks its provider, which may itself call the
session before it answers. Whatever it does there, the attachment goes by the state that it leaves:
nothing that the provider attached is lost, and nothing that it changed is undone.
-/

namespace RouterAdvert.World

variable {w : World} {id : SessionId} {s : Session} {name : String}

def asked (w : World) (id : SessionId) (provider : Provider) : World :=
  ({ w with requests := w.requests + 1 }.callAll id (provider.answer w.requests).calls).1

theorem answers_asked (h : w.session? id = some s) (provider : Provider) :
    ∃ t, (w.asked id provider).session? id = some t ∧
      s.Answers w.network ({ w with requests := w.requests + 1 }.exchangesOf id
        (provider.answer w.requests).calls) t := by
  have hrequested : ({ w with requests := w.requests + 1 } : World).session? id = some s := h
  obtain ⟨t, hanswers, hsessions⟩ := answers_callAll hrequested (provider.answer w.requests).calls
  have hset := session?_of_sessions_set (lt_of_session? hrequested) hsessions id
  rw [if_pos rfl] at hset
  exact ⟨t, hset, hanswers⟩

/-- A session that is not attached takes the loop that is obtained for it, and its priority. -/
theorem state_attachFrom_of_detached (h : w.session? id = some s) (hl : s.loop = none)
    (source : LoopSource) (priority : Int) :
    (w.attachFrom id source priority).state =
      (w.obtainLoop s.router.interface source).2.putSession id
        { s with loop := some (w.obtainLoop s.router.interface source).1, priority } := by
  have hnext := session?_of_sessions_eq (sessions_obtainLoop w s.router.interface source) id
  rw [attachFrom_of_detached h hl, onSession_of_live (hnext.trans h)]
  simp only [Session.attach, hl]
  rfl

theorem step_attach_default (hname : w.sessionHandles.get? name = some id) (priority : Int) :
    w.step (.attach name none priority) = (w.attachDefault id priority).answer := by
  simp only [step, hname, withHandle_some]

theorem result_attachDefault_of_no_provider (h : w.session? id = some s) (hl : s.loop = none)
    (hp : s.provider = none) (priority : Int) : (w.attachDefault id priority).result = .ok () := by
  rw [attachDefault, h]
  simp [hl, hp]

section Asked

variable {provider : Provider} (h : w.session? id = some s) (hl : s.loop = none)
  (hp : s.provider = some provider)

include h hl hp

/-- A provider that fails leaves the session as its calls left it, which is no error. -/
theorem attachDefault_of_failure {e : Error} (hoffer : (provider.answer w.requests).offer = .error e)
    (priority : Int) :
    (w.attachDefault id priority).result = .ok () ∧
      (w.attachDefault id priority).state = w.asked id provider := by
  rw [attachDefault, h]
  simp only [hl, hp, hoffer, Option.isSome_none, Bool.false_eq_true, if_false, true_and]
  rfl

theorem attachDefault_of_offer {source : LoopSource}
    (hoffer : (provider.answer w.requests).offer = .ok source) (priority : Int) :
    (w.attachDefault id priority).result =
        ((w.asked id provider).attachFrom id source priority).result ∧
      (w.attachDefault id priority).state =
        ((w.asked id provider).attachFrom id source priority).state := by
  rw [attachDefault, h]
  simp only [hl, hp, hoffer, Option.isSome_none, Bool.false_eq_true, if_false]
  exact ⟨rfl, rfl⟩

variable {t : Session} (ht : (w.asked id provider).session? id = some t)

include ht

/-- A session that the provider's calls attached keeps its loop and priority. -/
theorem attachDefault_of_overtaken (hattached : t.loop.isSome) {source : LoopSource}
    (hoffer : (provider.answer w.requests).offer = .ok source) (priority : Int) :
    (w.attachDefault id priority).result = .error .busy ∧
      (w.attachDefault id priority).state = w.asked id provider := by
  have hattach := attachDefault_of_offer h hl hp hoffer priority
  rw [attachFrom_of_attached ht hattached] at hattach
  exact hattach

/-- A session that the provider's calls left without a loop takes the one on offer. -/
theorem attachDefault_of_taken (hdetached : t.loop = none) {source : LoopSource}
    (hoffer : (provider.answer w.requests).offer = .ok source) (priority : Int) :
    let obtained := (w.asked id provider).obtainLoop t.router.interface source
    (w.attachDefault id priority).result = .ok () ∧
      (w.attachDefault id priority).state =
        obtained.2.putSession id { t with loop := some obtained.1, priority } := by
  obtain ⟨hresult, hstate⟩ := attachDefault_of_offer h hl hp hoffer priority
  exact ⟨hresult.trans (result_attachFrom_of_detached ht hdetached source priority),
    hstate.trans (state_attachFrom_of_detached ht hdetached source priority)⟩

end Asked

/-- After any run, the attachment of a default loop through a handle is refused by an attached
session, which does not ask its provider. Otherwise it is decided by the state `t` in which the
calls of the provider leave the session: the provider may fail, which is no error; the session may
be attached by then, and keeps its loop and priority; or it takes the loop that is offered. In each
case nothing else happens to the world that the provider left. -/
theorem default_attachment_follows_provider (ops : List Op) (name : String) (id : SessionId)
    (priority : Int) (hname : (run {} ops).sessionHandles.get? name = some id) :
    let w := run {} ops
    let done := w.step (.attach name none priority)
    ∃ s, w.session? id = some s ∧
      (s.loop.isSome → done = w.unchanged (.failed .busy)) ∧
      (s.loop = none → s.provider = none → done.reply = .done ∧ done.world = w) ∧
      ∀ provider, s.loop = none → s.provider = some provider →
        let answer := provider.answer w.requests
        let left := w.asked id provider
        ∃ t, left.session? id = some t ∧
          s.Answers w.network
            ({ w with requests := w.requests + 1 }.exchangesOf id answer.calls) t ∧
          (∀ e, answer.offer = .error e → done.reply = .done ∧ done.world = left) ∧
          ∀ source, answer.offer = .ok source →
            (t.loop.isSome → done.reply = .failed .busy ∧ done.world = left) ∧
            (t.loop = none → done.reply = .done ∧ ∃ loop made,
              left.obtainLoop t.router.interface source = (loop, made) ∧
              done.world = made.putSession id { t with loop := some loop, priority } ∧
              made.sessions = left.sessions ∧ SameHoldings left made) := by
  intro w done
  have hsound : Sound w := sound_empty.run ops
  obtain ⟨s, hs⟩ := hsound.live_of_get? hname
  have hdone : done = (w.attachDefault id priority).answer := step_attach_default hname priority
  rw [hdone]
  refine ⟨s, hs, ?_, ?_, ?_⟩
  · intro hl
    rw [attachDefault_of_attached hs hl]
    rfl
  · intro hl hp
    exact ⟨reply_answer_of_ok (result_attachDefault_of_no_provider hs hl hp priority),
      state_attachDefault_of_no_provider hs hl hp priority⟩
  · intro provider hl hp answer left
    obtain ⟨t, ht, hanswers⟩ := answers_asked hs provider
    refine ⟨t, ht, hanswers, ?_, ?_⟩
    · intro e hoffer
      obtain ⟨hresult, hstate⟩ := attachDefault_of_failure hs hl hp hoffer priority
      exact ⟨reply_answer_of_ok hresult, hstate⟩
    · intro source hoffer
      constructor
      · intro hattached
        obtain ⟨hresult, hstate⟩ :=
          attachDefault_of_overtaken hs hl hp ht hattached hoffer priority
        exact ⟨reply_answer_eq_failed.mpr hresult, hstate⟩
      · intro hdetached
        obtain ⟨hresult, hstate⟩ := attachDefault_of_taken hs hl hp ht hdetached hoffer priority
        exact ⟨reply_answer_of_ok hresult, _, _, rfl, hstate, sessions_obtainLoop left _ source,
          sameHoldings_obtainLoop left _ source⟩

/-- Here the provider attaches a loop of its own, starts the session and detaches it again before it
offers another loop, which the session takes and advertises on. -/
theorem default_attachment_follows_provider_of_callbacks :
    let provider : Provider := {
      answer := fun _ => {
        calls := [.attach (.fresh "first") 4, .start, .detach]
        offer := .ok (.fresh "late") } }
    let ops : List Op := [.newSession "s" (some provider), .set "s" (.interface 2)]
    let done := (run {} ops).step (.attach "s" none 7)
    done.reply = .done ∧ ∃ s, done.world.session? 0 = some s ∧
      s.phase = .advertising ∧ s.loop = some ⟨1, "late", false⟩ ∧ s.priority = 7 := by
  intro provider ops done
  let w := run {} ops
  obtain ⟨s, hs, -, -, hasked⟩ := default_attachment_follows_provider ops "s" 0 7 (by decide)
  have hdetached : (w.session? 0).bind (·.loop) = none := by decide
  have hprovider : (w.session? 0).bind (·.provider) = some provider := rfl
  rw [hs] at hdetached hprovider
  obtain ⟨t, ht, -, -, hoffered⟩ := hasked provider hdetached hprovider
  have hleft : ((w.asked 0 provider).session? 0).map (fun t => (t.phase, t.loop)) =
      some (.advertising, none) := by decide
  rw [ht] at hleft
  obtain ⟨hphase, hloop⟩ := Prod.mk.inj (Option.some.inj hleft)
  obtain ⟨hdone, loop, made, hmade, hworld, hsessions, -⟩ := (hoffered _ rfl).2 hloop
  have hserial : (w.asked 0 provider).loopsMade = 1 := by decide
  have hfound : loop = ⟨1, "late", false⟩ := by
    rw [← hserial]
    exact (congrArg Prod.fst hmade).symm
  have hlive : made.session? 0 = some t := (session?_of_sessions_eq hsessions 0).trans ht
  have hend := (session?_putSession hlive { t with loop := some loop, priority := 7 } 0).trans
    (if_pos rfl)
  rw [← hworld] at hend
  exact ⟨hdone, _, hend, hphase, congrArg some hfound, rfl⟩

end RouterAdvert.World
