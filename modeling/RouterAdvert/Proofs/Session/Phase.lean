import RouterAdvert.Proofs.Session.Since

/-!
# Phase and attachment of a session

A session advertises if it was started and not stopped since, and it has no loop if it was detached,
or never attached, and not attached since. To start takes a loop; to go on advertising does not, so
that an advertising session may have lost its loop.
-/

namespace RouterAdvert

namespace Exchange

def Starts (e : Exchange) : Prop := e.call = .start ∧ e.result = .ok ()

def Attaches (e : Exchange) : Prop :=
  (∃ loop priority, e.call = .attach loop priority) ∧ e.result = .ok ()

end Exchange

/-- A start succeeded in a history, and no stop came after it. -/
def Started (es : List Exchange) : Prop := Since Exchange.Starts (·.call ≠ .stop) es

theorem Started.append {before after : List Exchange} (h : Started before)
    (hafter : ∀ e ∈ after, e.call ≠ .stop) : Started (before ++ after) :=
  since_append.mpr (.inr ⟨h, hafter⟩)

namespace Session

variable {network : PrefixId → Prefix} {s t : Session} {es : List Exchange}

/-- What a session says to a start: a missing loop is reported before a missing interface. -/
structure SaysToStart (s : Session) (result : Except Error Unit) : Prop where
  ok_iff : result = .ok () ↔ s.loop.isSome ∧ 0 < s.router.interface
  no_loop : s.loop = none → result = .error (.notReady .noEventLoop)
  no_interface : s.loop.isSome → s.router.interface ≤ 0 →
    result = .error (.notReady (.noInterface s.router.interface))

theorem saysToStart (s : Session) : s.SaysToStart s.start.result := by
  unfold start
  cases hloop : s.loop with
  | none => exact ⟨by simp [hloop, Outcome.fail], by simp [Outcome.fail], by simp [hloop]⟩
  | some loop =>
    by_cases hinterface : s.router.interface ≤ 0
    · have hnot : ¬0 < s.router.interface := Int32.not_lt.mpr hinterface
      exact ⟨by simp [hinterface, hnot, Outcome.fail], by simp [hloop],
        by simp [hinterface, Outcome.fail]⟩
    · have hpositive : 0 < s.router.interface := Int32.not_le.mp hinterface
      exact ⟨by cases s.phase <;> simp [hloop, hinterface, hpositive], by simp [hloop],
        by simp [hinterface]⟩

/-- A start that succeeds makes the session advertise, and any other changes nothing. -/
theorem Effect.of_start {r : Except Error Unit} (h : Effect network s .start t r) :
    r = .ok () ∧ t = { s with phase := .advertising } ∨ (∃ e, r = .error e) ∧ t = s := by
  cases h with
  | started attached interface => exact .inl ⟨rfl, rfl⟩
  | refused => exact .inr ⟨⟨_, rfl⟩, rfl⟩

theorem result_stop (s : Session) : s.stop.result = .ok () := by
  unfold stop
  cases s.phase <;> rfl

theorem state_stop (s : Session) : s.stop.state = { s with phase := .idle } := by
  unfold stop
  cases hphase : s.phase with
  | advertising => rfl
  | idle =>
    change s = _
    rw [← hphase]

/-- A start or a stop in a history: the session before it, and the session after it, which differs
in nothing but the phase. -/
structure PhaseStep (s : Session) (e : Exchange) (t : Session) : Prop where
  start : e.call = .start → s.SaysToStart e.result ∧ t = { s with phase := t.phase }
  stop : e.call = .stop → e.result = .ok () ∧ t = { s with phase := .idle }

theorem phaseStep_answer (network : PrefixId → Prefix) (s : Session) (c : Call EventLoop) :
    PhaseStep s ⟨c, (s.answer network c).result⟩ (s.answer network c).state where
  start := by
    rintro rfl
    refine ⟨s.saysToStart, ?_⟩
    rcases (effect_start network s).of_start with ⟨-, hstate⟩ | ⟨-, hstate⟩
    · change s.start.state = { s with phase := s.start.state.phase }
      rw [hstate]
    · change s.start.state = { s with phase := s.start.state.phase }
      rw [hstate]
  stop := by
    rintro rfl
    exact ⟨s.result_stop, s.state_stop⟩

theorem phase_answer (network : PrefixId → Prefix) (s : Session) (c : Call EventLoop) :
    (s.answer network c).state.phase = .advertising ↔
      Exchange.Starts ⟨c, (s.answer network c).result⟩ ∨ s.phase = .advertising ∧ c ≠ .stop := by
  by_cases hstop : c = .stop
  · subst hstop
    simp [answer, state_stop, Exchange.Starts]
  · have heffect := effect_answer network s c
    revert heffect
    generalize (s.answer network c).state = t
    generalize (s.answer network c).result = r
    intro heffect
    cases heffect with
    | stopped => exact absurd rfl hstop
    | stored inRange idle timing => simp [Exchange.Starts]
    | refused => simp [Exchange.Starts, hstop]
    | started | attached | detached | preferred | added => simp [Exchange.Starts]

theorem loop_answer (network : PrefixId → Prefix) (s : Session) (c : Call EventLoop) :
    (s.answer network c).state.loop = none ↔
      c = .detach ∨ s.loop = none ∧ ¬Exchange.Attaches ⟨c, (s.answer network c).result⟩ := by
  by_cases hdetach : c = .detach
  · subst hdetach
    simp [answer, detach]
  · have heffect := effect_answer network s c
    revert heffect
    generalize (s.answer network c).state = t
    generalize (s.answer network c).result = r
    intro heffect
    cases heffect with
    | detached => exact absurd rfl hdetach
    | refused | started | stopped | attached | stored | preferred | added =>
      simp [Exchange.Attaches, hdetach]

/-- A session that was idle at first advertises if it was started and not stopped since. -/
theorem Evolves.started_iff (h : Evolves s es t) (hidle : s.phase = .idle) :
    t.phase = .advertising ↔ Started es := by
  rw [h.iff_since (·.phase = .advertising) Exchange.Starts (·.call ≠ .stop) phase_answer, Started]
  simp [hidle]

/-- A session has no loop if it was detached and not attached since, or had none and was never
attached. -/
theorem Evolves.detached_iff (h : Evolves s es t) :
    t.loop = none ↔ Since (·.call = .detach) (¬·.Attaches) es ∨
      s.loop = none ∧ ∀ e ∈ es, ¬e.Attaches :=
  h.iff_since (·.loop = none) (·.call = .detach) (¬·.Attaches) loop_answer

theorem attached_of_starts {e : Exchange} (h : e.Starts)
    (hresult : e.result = (s.answer network e.call).result) :
    (s.answer network e.call).state.loop ≠ none := by
  obtain ⟨hcall, hok⟩ := h
  rw [hcall] at hresult ⊢
  have hloop : s.loop.isSome := (s.saysToStart.ok_iff.mp (hresult.symm.trans hok)).1
  rw [ne_eq, loop_answer]
  rintro (hdetach | ⟨hnone, -⟩)
  · cases hdetach
  · rw [hnone] at hloop
    cases hloop

/-- An advertising session has no loop exactly if it was detached while it advertised, and neither
stopped nor attached since. -/
theorem Evolves.adrift_iff (h : Evolves s es t) (hidle : s.phase = .idle) :
    t.phase = .advertising ∧ t.loop = none ↔
      ∃ before e after, es = before ++ e :: after ∧ Started before ∧ e.call = .detach ∧
        ∀ later ∈ after, later.call ≠ .stop ∧ ¬later.Attaches := by
  rw [h.started_iff hidle]
  constructor
  · rintro ⟨⟨before, e, after, rfl, hstarts, hkept⟩, hnone⟩
    obtain ⟨u, hbefore, hrest⟩ := h.split
    obtain ⟨network, hresult, hafter⟩ := hrest.cons_inv
    -- The start left a loop, so that a detachment must have come after it.
    rcases hafter.detached_iff.mp hnone with ⟨between, found, rest, rfl, hdetach, hrest⟩ | ⟨hlost, -⟩
    · obtain ⟨hbetween, hlater⟩ := List.forall_mem_append.mp hkept
      refine ⟨before ++ e :: between, found, rest, by simp, ?_, hdetach, ?_⟩
      · exact ⟨before, e, between, rfl, hstarts, hbetween⟩
      · intro later hmem
        exact ⟨hlater later (List.mem_cons_of_mem _ hmem), hrest later hmem⟩
    · exact absurd hlost (attached_of_starts hstarts hresult)
  · rintro ⟨before, e, after, rfl, hstarted, hdetach, hafter⟩
    constructor
    · apply hstarted.append
      rw [List.forall_mem_cons, hdetach]
      exact ⟨by simp, fun later hmem => (hafter later hmem).1⟩
    · apply h.detached_iff.mpr
      exact .inl ⟨before, e, after, rfl, hdetach, fun later hmem => (hafter later hmem).2⟩

end Session

end RouterAdvert
