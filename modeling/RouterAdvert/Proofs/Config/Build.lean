import RouterAdvert.Proofs.Config.Entries

/-!
# Building and validating

Building stops at the first setting that is refused and validation collects all faults, yet they
agree up to the faults that a session would take.
-/

namespace RouterAdvert.Config

open World

variable {w : World} {s : Session}

theorem building_new :
    Building ((World.step {} (.newSession sessionName (some .threadDefault))).world)
      { provider := some .threadDefault } where
  sessions := rfl
  sessionHandles := rfl
  prefixHandles := rfl
  idle := rfl
  detached := rfl
  provider := rfl
  made := by simp

/-- A plan that goes through gives the session the parameters, and for each entry a member with its
option, in the same order. -/
theorem run_plan {c : Config} (h : AcceptsAll {} c.plan) :
    let built := run {} c.plan
    ∃ t, Building built t ∧ t.router = c.router.parameters ∧
      (t.members.map built.option).map .ok =
        c.prefixes.map (fun entry => entry.usable.map (information entry)) ∧
      PrefixSet.Separate built.network t.members := by
  rw [plan, List.cons_append, AcceptsAll, acceptsAll_append] at h
  rcases h with ⟨-, hparameters, hprefixes⟩
  rw [plan, List.cons_append, run, run_append]
  exact ((building_new.routerPlan rfl c.router).2 hparameters).run_prefixPlans hprefixes .nil

theorem acceptsAll_plan (c : Config) :
    (AcceptsAll {} c.plan ↔ c.router.Settable ∧ PrefixConfig.Fits [] c.prefixes) ∧
      (AcceptsAll {} c.plan → ∃ t, Building (run {} c.plan) t ∧ t.router = c.router.parameters) := by
  have hnew : Accepts {} (.newSession sessionName (some .threadDefault)) := accepts_of_done rfl
  rcases building_new.routerPlan rfl c.router with ⟨hrouter, hset⟩
  constructor
  · simp only [plan, List.cons_append, AcceptsAll, hnew, true_and, acceptsAll_append]
    constructor
    · rintro ⟨hsettable, hprefixes⟩
      exact ⟨hrouter.mp hsettable, ((hset hsettable).accepts_prefixPlans c.prefixes).mp hprefixes⟩
    · rintro ⟨hsettable, hfits⟩
      have hparameters := hrouter.mpr hsettable
      exact ⟨hparameters, ((hset hparameters).accepts_prefixPlans c.prefixes).mpr hfits⟩
  · intro haccepts
    rcases run_plan haccepts with ⟨t, ht, hparameters, -⟩
    exact ⟨t, ht, hparameters⟩

theorem result_build_eq (c : Config) : c.build.result = (World.attempt {} c.plan).result := by
  unfold build
  cases hplanned : (World.attempt {} c.plan).result with
  | error e => simp [hplanned]
  | ok =>
    simp only [hplanned]
    cases namedSession? (World.attempt {} c.plan).state sessionName <;> simp [hplanned]

theorem result_build (c : Config) : c.build.result = .ok () ↔ AcceptsAll {} c.plan := by
  rw [result_build_eq, attempt_ok_iff]

theorem state_build {c : Config} (h : AcceptsAll {} c.plan) : c.build.state = run {} c.plan := by
  have hplanned := (attempt_ok_iff {} c.plan).mpr h
  rw [← state_attempt h]
  simp only [build, hplanned]
  cases namedSession? (World.attempt {} c.plan).state sessionName <;> rfl

/-- A session that was built attaches the default loop when it is asked for one. -/
theorem Building.attachDefault (h : Building w s) (priority : Int) :
    let attached := w.step (.attach sessionName none priority)
    attached.reply = .done ∧ attached.world.sessionHandles.get? sessionName = some 0 ∧
      ∃ loop, attached.world.session? 0 = some { s with loop := some loop, priority } := by
  let asked : World := { w with requests := w.requests + 1 }
  have hasked : asked.session? 0 = some s := h.session?
  have hsource : (w.attachDefault 0 priority).result =
      (asked.attachFrom 0 .threadDefault priority).result ∧
      (w.attachDefault 0 priority).state = (asked.attachFrom 0 .threadDefault priority).state := by
    rw [World.attachDefault, h.session?]
    simp only [h.detached, h.provider, Option.isSome_none, Bool.false_eq_true, if_false]
    exact ⟨rfl, rfl⟩
  have hnext : asked.defaultLoop.2.session? 0 = some s :=
    (session?_of_sessions_eq asked.sessions_defaultLoop 0).trans hasked
  have hattach : s.attach asked.defaultLoop.1 priority =
      { state := { s with loop := some asked.defaultLoop.1, priority }
        log := [.attached asked.defaultLoop.1.name priority] } := by
    rw [Session.attach, h.detached]
  rw [attachFrom_of_detached hasked h.detached] at hsource
  simp only [obtainLoop] at hsource
  rw [onSession_of_live hnext, hattach] at hsource
  have hstep : w.step (.attach sessionName none priority) = (w.attachDefault 0 priority).answer := by
    simp only [step, h.get?, withHandle_some]
  have hworld : (w.step (.attach sessionName none priority)).world =
      asked.defaultLoop.2.putSession 0
        { s with loop := some asked.defaultLoop.1, priority } := by
    rw [hstep]
    exact hsource.2
  intro attached
  refine ⟨?_, ?_, asked.defaultLoop.1, ?_⟩
  · change (w.step _).reply = .done
    rw [hstep]
    simp only [Result.answer, hsource.1, Outcome.lift]
  · change (w.step _).world.sessionHandles.get? sessionName = some 0
    rw [hworld]
    change asked.defaultLoop.2.sessionHandles.get? sessionName = some 0
    rw [asked.sameHoldings_defaultLoop.sessionHandles]
    exact h.get?
  · change (w.step _).world.session? 0 = _
    rw [hworld]
    exact (session?_of_sessions_set (lt_of_session? hnext) rfl 0).trans (if_pos rfl)

/-- A session with a loop and an interface starts to advertise when it is idle. -/
theorem start_named {v : World} {t : Session} (hname : v.sessionHandles.get? sessionName = some 0)
    (hlive : v.session? 0 = some t) (hidle : t.phase = .idle) (hloop : t.loop.isSome)
    (hinterface : ¬t.router.interface ≤ 0) :
    let started := v.step (.start sessionName)
    started.reply = .done ∧
      namedSession? started.world sessionName = some { t with phase := .advertising } := by
  have hattached : t.loop.isNone = false := by
    rw [← Option.not_isSome, hloop]
    rfl
  have hstart : t.start = { state := { t with phase := .advertising }
                            log := [.started t.router.interface t.members.length] } := by
    simp only [Session.start, hattached, hidle, hinterface, Bool.false_eq_true, if_false]
  have hcall : v.call 0 .start = v.onSession 0 Session.start := rfl
  have hstep : v.step (.start sessionName) =
      Result.answer (t.start.lift (v.putSession 0) (⟨.session 0, ·⟩)) := by
    change v.callNamed sessionName .start = _
    rw [callNamed, hname, withHandle_some, hcall, onSession_of_live hlive]
  intro started
  constructor
  · change (v.step _).reply = .done
    rw [hstep, hstart]
    rfl
  · change namedSession? (v.step _).world sessionName = _
    rw [hstep, hstart]
    change (v.sessionHandles.get? sessionName).bind _ = _
    rw [hname]
    exact (session?_of_sessions_set (lt_of_session? hlive) rfl 0).trans (if_pos rfl)

theorem interface_of_no_faults {c : Config} (h : c.validate.faults = []) :
    ¬c.router.parameters.interface ≤ 0 := by
  have hinterface : c.router.interfaceFindings.faults = [] := by
    simp only [validate, RouterConfig.findings, Findings.faults_append, List.append_eq_nil_iff] at h
    exact h.1.1.1.1
  unfold RouterConfig.interfaceFindings at hinterface
  cases hc : c.router.interface with
  | none => simp [hc] at hinterface
  | some index =>
    have hlow : ¬index < 1 := by
      intro hlow
      simp [hc, Findings.faultIf, hlow] at hinterface
    change ¬c.router.interface.getD (-1) ≤ 0
    rw [hc, Option.getD_some]
    rw [Int32.lt_iff_toInt_lt] at hlow
    rw [Int32.le_iff_toInt_le]
    change ¬index.toInt < 1 at hlow
    change ¬index.toInt ≤ 0
    omega

/-- Building succeeds exactly if validation finds no fault but an interface that is not set or zero,
or a multicast link address. A session that was built from a configuration without any fault
attaches the default loop, starts and advertises. -/
theorem build_ok_iff_faults_forgiven (c : Config) :
    (c.build.result = .ok () ↔ ∀ f ∈ c.validate.faults, c.router.forgives f) ∧
      (c.validate.faults = [] → c.build.result = .ok () ∧
        let attached := c.build.state.step (.attach sessionName none 0)
        let started := attached.world.step (.start sessionName)
        attached.reply = .done ∧ started.reply = .done ∧
          ∃ s, namedSession? started.world sessionName = some s ∧ s.phase = .advertising ∧
            s.loop.isSome) := by
  rcases acceptsAll_plan c with ⟨hplan, hbuilding⟩
  have hbuild : c.build.result = .ok () ↔ ∀ f ∈ c.validate.faults, c.router.forgives f := by
    rw [result_build, hplan, forgives_faults_iff]
  refine ⟨hbuild, ?_⟩
  intro hnone
  have hok : c.build.result = .ok () := hbuild.mpr (by simp [hnone])
  have haccepts := (result_build c).mp hok
  rcases hbuilding haccepts with ⟨t, ht, hrouter⟩
  rw [state_build haccepts]
  rcases ht.attachDefault 0 with ⟨hattached, hname, loop, hlive⟩
  have hinterface := interface_of_no_faults hnone
  rw [← hrouter] at hinterface
  rcases start_named hname hlive ht.idle rfl hinterface with ⟨hstarted, hadvertising⟩
  exact ⟨hok, hattached, hstarted, _, hadvertising, rfl, rfl⟩

/-- Here the second prefix has a range next to that of the first one. -/
theorem build_ok_of_neighbours :
    let c : Config := {
      router := { interface := some 2, linkAddress := some "02-00-00-00-00-01", mtu := some 1500 }
      prefixes := [{ network := "2001:db8::/64" }, { network := "2001:db8:0:1::/64" }] }
    c.validate.faults = [] ∧ c.build.result = .ok () ∧
      (c.build.state.step (.attach sessionName none 0)).reply = .done := by
  intro c
  have hnone : c.validate.faults = [] := by decide
  rcases (build_ok_iff_faults_forgiven c).2 hnone with ⟨hok, hattached, -⟩
  exact ⟨hnone, hok, hattached⟩

end RouterAdvert.Config
