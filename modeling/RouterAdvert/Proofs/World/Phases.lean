import RouterAdvert.Proofs.Session.Phase
import RouterAdvert.Proofs.World.Failure
import RouterAdvert.Proofs.World.WellFormed

/-!
# Phases through runs

What a session was asked in a run decides whether it advertises at the end of it, and whether it
does so without an event loop. Starting and stopping change nothing but the phase, so that a session
that is stopped and started again is what it was.
-/

namespace RouterAdvert

def Reply.of : Except Error Unit → Reply
  | .ok () => .done
  | .error e => .failed e

namespace Session

/-- A session that is stopped while it has a loop and an interface can be started again, and then
advertises as before. -/
theorem start_after_stop {s : Session} (h : s.phase = .advertising) (hloop : s.loop.isSome)
    (hinterface : 0 < s.router.interface) :
    s.stop.state.start.result = .ok () ∧ s.stop.state.start.state = s := by
  rw [state_stop]
  let stopped : Session := { s with phase := .idle }
  have hok : stopped.start.result = .ok () := stopped.saysToStart.ok_iff.mpr ⟨hloop, hinterface⟩
  refine ⟨hok, ?_⟩
  rcases (effect_start (fun _ => default) stopped).of_start with ⟨-, hstate⟩ | ⟨⟨e, herror⟩, -⟩
  · change stopped.start.state = s
    rw [hstate, ← h]
  · rw [hok] at herror
    cases herror

theorem Evolves.moment {s t : Session} {before after : List Exchange} {e : Exchange}
    (h : Evolves s (before ++ e :: after) t) :
    ∃ u v, Evolves s before u ∧ PhaseStep u e v ∧ Evolves v after t := by
  obtain ⟨u, hbefore, hrest⟩ := h.split
  obtain ⟨network, hresult, hafter⟩ := hrest.cons_inv
  refine ⟨u, _, hbefore, ?_, hafter⟩
  have hstep := phaseStep_answer network u e.call
  rw [← hresult] at hstep
  exact hstep

end Session

namespace World

variable {w : World} {id : SessionId} {s : Session} {name : String}

theorem step_of_named {op : Op} {c : Call LoopSource} (hc : w.call? op = some (name, c))
    (hname : w.sessionHandles.get? name = some id) : w.step op = (w.call id c).answer := by
  rw [step_of_call? hc, callNamed, hname, withHandle_some]

theorem putSession_putSession (w : World) (id : SessionId) (s t : Session) :
    (w.putSession id s).putSession id t = w.putSession id t := by
  simp only [putSession, List.set_set]

theorem step_start (hname : w.sessionHandles.get? name = some id) (h : w.session? id = some s) :
    (w.step (.start name)).reply = .of s.start.result ∧
      (w.step (.start name)).world = w.putSession id s.start.state := by
  have hcall : w.call id .start = s.start.lift (w.putSession id) (⟨.session id, ·⟩) :=
    onSession_of_live h _
  rw [step_of_named rfl hname, hcall]
  exact ⟨rfl, rfl⟩

theorem step_stop (hname : w.sessionHandles.get? name = some id) (h : w.session? id = some s) :
    (w.step (.stop name)).reply = .done ∧
      (w.step (.stop name)).world = w.putSession id { s with phase := .idle } := by
  have hcall : w.call id .stop = s.stop.lift (w.putSession id) (⟨.session id, ·⟩) :=
    onSession_of_live h _
  rw [step_of_named rfl hname, hcall, ← s.state_stop]
  refine ⟨?_, rfl⟩
  change Reply.of s.stop.result = .done
  rw [s.result_stop]
  rfl

/-- A session that has a loop and an interface while it advertises can be stopped and started again
with no other effect, through any of its handles. -/
theorem step_start_after_stop (hname : w.sessionHandles.get? name = some id) {again : String}
    (hagain : w.sessionHandles.get? again = some id) (h : w.session? id = some s)
    (hphase : s.phase = .advertising) (hloop : s.loop.isSome) (hinterface : 0 < s.router.interface) :
    let restarted := (w.step (.stop name)).world.step (.start again)
    restarted.reply = .done ∧ restarted.world = w := by
  intro restarted
  obtain ⟨hok, hstate⟩ := s.start_after_stop hphase hloop hinterface
  have hstop := (step_stop hname h).2
  rw [← s.state_stop] at hstop
  have hput : (w.putSession id s.stop.state).session? id = some s.stop.state :=
    (session?_putSession h _ id).trans (if_pos rfl)
  have hstart := step_start (w := w.putSession id s.stop.state) hagain hput
  rw [← hstop, hok, hstate] at hstart
  refine ⟨hstart.1, hstart.2.trans ?_⟩
  rw [hstop, putSession_putSession, putSession_self h]

theorem interface_of_advertising {ops : List Op} (hlive : (run {} ops).session? id = some s)
    (hphase : s.phase = .advertising) : 0 < s.router.interface := by
  have hwell : s.WellFormed := session_invariant_run Session.wellFormed_new
    (fun effect h => effect.wellFormed h) (fun id s hs => by cases hs) ops id s hlive
  exact Int32.lt_of_lt_of_le (by decide) (hwell.advertising hphase)

/-- After any run a session advertises exactly if it was started and not stopped since. At each
moment of its history, and so at the end of it, a start succeeds if there is a loop and an
interface; neither a start nor a stop changes anything but the phase; and a stop is undone by a
start unless the loop is gone. -/
theorem phase_is_function_of_history (ops : List Op) (id : SessionId) (s : Session)
    (hlive : (run {} ops).session? id = some s) :
    let w := run {} ops
    let es := history {} id ops
    (s.phase = .advertising ↔ Started es) ∧
      (∀ before e after, es = before ++ e :: after → ∃ provider t u,
        Session.Evolves { provider } before t ∧ (t.phase = .advertising ↔ Started before) ∧
          t.PhaseStep e u ∧ u.Evolves after s) ∧
      ∀ name, w.sessionHandles.get? name = some id →
        (∃ result, s.SaysToStart result ∧ (w.step (.start name)).reply = .of result) ∧
        (∃ phase, (w.step (.start name)).world = w.putSession id { s with phase }) ∧
        (w.step (.stop name)).reply = .done ∧
        (w.step (.stop name)).world = w.putSession id { s with phase := .idle } ∧
        (s.phase = .advertising → s.loop.isSome →
          ∀ again, w.sessionHandles.get? again = some id →
            let restarted := (w.step (.stop name)).world.step (.start again)
            restarted.reply = .done ∧ restarted.world = w) := by
  intro w es
  obtain ⟨provider, hevolves⟩ := evolves_from_new (w := {}) rfl hlive
  refine ⟨hevolves.started_iff rfl, ?_, ?_⟩
  · intro before e after hes
    have hsplit : Session.Evolves { provider } (before ++ e :: after) s := hes ▸ hevolves
    obtain ⟨t, u, hbefore, hstep, hafter⟩ := hsplit.moment
    exact ⟨provider, t, u, hbefore, hbefore.started_iff rfl, hstep, hafter⟩
  · intro name hname
    obtain ⟨hreply, hworld⟩ := step_start hname hlive
    obtain ⟨hstopped, hidle⟩ := step_stop hname hlive
    refine ⟨⟨_, s.saysToStart, hreply⟩, ⟨s.start.state.phase, ?_⟩, hstopped, hidle, ?_⟩
    · have hstate := ((Session.phaseStep_answer w.network s .start).start rfl).2
      change s.start.state = { s with phase := s.start.state.phase } at hstate
      rw [hworld, ← hstate]
    · intro hphase hloop again hagain
      exact step_start_after_stop hname hagain hlive hphase hloop
        (interface_of_advertising hlive hphase)

/-- Here the provider attaches another loop and starts the session before it fails; the session is
stopped through one handle and started through another. -/
theorem phase_is_function_of_history_of_restart :
    let provider : Provider := {
      answer := fun _ => {
        calls := [.attach (.fresh "spare") 3, .start]
        offer := .error (.notReady (.because "late")) } }
    let ops : List Op := [.newSession "s" (some provider), .start "s", .set "s" (.interface 2),
      .attach "s" none 0, .cloneSession "s" "t", .stop "s", .start "t", .start "s"]
    let w := run {} ops
    let restarted := (w.step (.stop "t")).world.step (.start "s")
    ∃ s, w.session? 0 = some s ∧ s.phase = .advertising ∧ Started (history {} 0 ops) ∧
      restarted.reply = .done ∧ restarted.world = w := by
  intro provider ops w restarted
  have hsession : (w.session? 0).map (fun s => (s.phase, s.loop.isSome)) =
      some (.advertising, true) := by decide
  obtain ⟨s, hlive, heq⟩ := Option.map_eq_some_iff.mp hsession
  obtain ⟨hadvertising, hloop⟩ := Prod.mk.inj heq
  obtain ⟨hphase, -, hhandles⟩ := phase_is_function_of_history ops 0 s hlive
  obtain ⟨-, -, -, -, hrestart⟩ := hhandles "t" (by decide)
  obtain ⟨hdone, hsame⟩ := hrestart hadvertising hloop "s" (by decide)
  exact ⟨s, hlive, hadvertising, hphase.mp hadvertising, hdone, hsame⟩

/-- After any run a session advertises without a loop exactly if it was detached while it
advertised, and was neither stopped nor attached since. -/
theorem adrift_iff_detached_while_advertising (ops : List Op) (id : SessionId) (s : Session)
    (hlive : (run {} ops).session? id = some s) :
    s.phase = .advertising ∧ s.loop = none ↔
      ∃ before e after, history {} id ops = before ++ e :: after ∧ Started before ∧
        e.call = .detach ∧ ∀ later ∈ after, later.call ≠ .stop ∧ ¬later.Attaches := by
  obtain ⟨provider, hevolves⟩ := evolves_from_new (w := {}) rfl hlive
  exact hevolves.adrift_iff rfl

/-- Here a session is detached while it advertises, which goes on through a setting and a further
start that are both refused. -/
theorem adrift_after_refused_start :
    let ops : List Op := [.newSession "s" none, .newLoop "e" "main", .set "s" (.interface 2),
      .attach "s" (some "e") 0, .start "s", .detach "s", .set "s" (.mtu 1500), .start "s"]
    ∃ s, (run {} ops).session? 0 = some s ∧ s.phase = .advertising ∧ s.loop = none ∧
      ∃ before e after, history {} 0 ops = before ++ e :: after ∧ Started before ∧
        e.call = .detach ∧ ∀ later ∈ after, later.call ≠ .stop ∧ ¬later.Attaches := by
  intro ops
  have hsession : ((run {} ops).session? 0).map (fun s => (s.phase, s.loop)) =
      some (.advertising, none) := by decide
  obtain ⟨s, hlive, heq⟩ := Option.map_eq_some_iff.mp hsession
  obtain ⟨hadvertising, hnone⟩ := Prod.mk.inj heq
  exact ⟨s, hlive, hadvertising, hnone,
    (adrift_iff_detached_while_advertising ops 0 s hlive).mp ⟨hadvertising, hnone⟩⟩

/-- To advertise does not take a loop: a session that advertises stays in that phase when it is
detached. -/
theorem advertising_without_loop :
    ¬∀ (ops : List Op) (id : SessionId) (s : Session), (run {} ops).session? id = some s →
      s.phase = .advertising → s.loop.isSome := by
  intro hall
  let ops : List Op := [.newSession "s" none, .newLoop "e" "main", .set "s" (.interface 2),
    .attach "s" (some "e") 0, .start "s", .detach "s"]
  have hsession : ((run {} ops).session? 0).map (fun s => (s.phase, s.loop)) =
      some (.advertising, none) := by decide
  obtain ⟨s, hlive, heq⟩ := Option.map_eq_some_iff.mp hsession
  obtain ⟨hadvertising, hnone⟩ := Prod.mk.inj heq
  have hattached := hall ops 0 s hlive hadvertising
  rw [hnone] at hattached
  cases hattached

end World

end RouterAdvert
