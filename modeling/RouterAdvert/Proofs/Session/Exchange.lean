import RouterAdvert.Session.Basic

/-!
# Exchanges with a session

A session changes only by the calls that it receives. An exchange is such a call with its result;
the loop of an attachment is at hand by then. `Answers` follows a session through exchanges between
which no prefix changes, `Evolves` through any exchanges. `Effect` says once what a call can do, for
all that is shown of single calls.
-/

namespace RouterAdvert

def Call.map {L M : Type} (f : L → M) : Call L → Call M
  | .attach loop priority => .attach (f loop) priority
  | .detach => .detach
  | .start => .start
  | .stop => .stop
  | .set setting => .set setting
  | .prefer preference => .prefer preference
  | .add candidate => .add candidate

/-- A call that a session received, and what came of it. -/
structure Exchange where
  call : Call EventLoop
  result : Except Error Unit

namespace Session

/-- Carries out a call, given the ranges of the prefixes at that moment. -/
def answer (network : PrefixId → Prefix) (s : Session) : Call EventLoop → Outcome Session Log.Event
  | .attach loop priority => s.attach loop priority
  | .detach => s.detach
  | .start => s.start
  | .stop => s.stop
  | .set setting => s.set setting
  | .prefer preference => s.prefer preference
  | .add candidate => s.add network candidate

/-- Exchanges lead from one session state to another while the prefixes stay as they are. -/
inductive Answers (network : PrefixId → Prefix) : Session → List Exchange → Session → Prop
  | nil (s : Session) : Answers network s [] s
  | cons {s s' : Session} {rest : List Exchange} (c : Call EventLoop) :
      Answers network (s.answer network c).state rest s' →
      Answers network s (⟨c, (s.answer network c).result⟩ :: rest) s'

/-- Exchanges lead from one session state to another, whatever happens to the prefixes meanwhile. -/
inductive Evolves : Session → List Exchange → Session → Prop
  | nil (s : Session) : Evolves s [] s
  | cons {s s' : Session} {rest : List Exchange} (network : PrefixId → Prefix) (c : Call EventLoop) :
      Evolves (s.answer network c).state rest s' →
      Evolves s (⟨c, (s.answer network c).result⟩ :: rest) s'

theorem Answers.evolves_append {network : PrefixId → Prefix} {s t u : Session}
    {before after : List Exchange} (h : Answers network s before t) (h' : Evolves t after u) :
    Evolves s (before ++ after) u := by
  induction h with
  | nil s => exact h'
  | cons c _ ih => exact .cons network c (ih h')

/-- What a call does to a session, and its result. -/
inductive Effect (network : PrefixId → Prefix) (s : Session) :
    Call EventLoop → Session → Except Error Unit → Prop
  | refused {c : Call EventLoop} {e : Error} : Effect network s c s (.error e)
  | attached {loop : EventLoop} {priority : Int} (detached : s.loop = none) :
      Effect network s (.attach loop priority) { s with loop := some loop, priority } (.ok ())
  | detached : Effect network s .detach { s with loop := none } (.ok ())
  | started (attached : s.loop.isSome) (interface : ¬s.router.interface ≤ 0) :
      Effect network s .start { s with phase := .advertising } (.ok ())
  | stopped : Effect network s .stop { s with phase := .idle } (.ok ())
  | stored {setting : Setting} (inRange : setting.outOfRange? = none) (idle : s.phase = .idle)
      (timing : ¬(setting = .lifetime 0 ∧ s.router.flags.preference ≠ .medium)) :
      Effect network s (.set setting) { s with router := setting.store s.router } (.ok ())
  | preferred {preference : Preference} :
      Effect network s (.prefer preference)
        { s with router := { s.router with flags := { s.router.flags with preference } } } (.ok ())
  | added {candidate : PrefixId}
      (free : s.members.firstOverlap? network (network candidate) = none) :
      Effect network s (.add candidate) { s with members := s.members ++ [candidate] } (.ok ())

theorem effect_start (network : PrefixId → Prefix) (s : Session) :
    Effect network s .start s.start.state s.start.result := by
  unfold start
  by_cases hloop : s.loop.isNone
  · rw [if_pos hloop]
    exact .refused
  · by_cases hinterface : s.router.interface ≤ 0
    · rw [if_neg hloop, if_pos hinterface]
      exact .refused
    · rw [if_neg hloop, if_neg hinterface]
      have hstarted : Effect network s .start { s with phase := .advertising } (.ok ()) :=
        .started (Option.isSome_iff_ne_none.mpr (mt Option.isNone_iff_eq_none.mpr hloop)) hinterface
      cases hphase : s.phase with
      | idle => exact hstarted
      | advertising =>
        rw [← hphase] at hstarted
        exact hstarted

theorem effect_stop (network : PrefixId → Prefix) (s : Session) :
    Effect network s .stop s.stop.state s.stop.result := by
  unfold stop
  have hstopped : Effect network s .stop { s with phase := .idle } (.ok ()) := .stopped
  cases hphase : s.phase with
  | advertising => exact hstopped
  | idle =>
    rw [← hphase] at hstopped
    exact hstopped

theorem effect_set (network : PrefixId → Prefix) (s : Session) (setting : Setting) :
    Effect network s (.set setting) (s.set setting).state (s.set setting).result := by
  unfold set
  cases hrange : setting.outOfRange? with
  | some cause => exact .refused
  | none =>
    by_cases hidle : s.phase = .idle
    · rw [if_neg (not_not_intro hidle)]
      by_cases htiming : setting = .lifetime 0 ∧ s.router.flags.preference ≠ .medium
      · rw [if_pos htiming]
        exact .refused
      · rw [if_neg htiming]
        exact .stored hrange hidle htiming
    · rw [if_pos hidle]
      exact .refused

theorem effect_answer (network : PrefixId → Prefix) (s : Session) (c : Call EventLoop) :
    Effect network s c (s.answer network c).state (s.answer network c).result := by
  cases c with
  | attach loop priority =>
    simp only [answer, attach]
    cases hl : s.loop with
    | some found => exact .refused
    | none => exact .attached hl
  | detach => exact .detached
  | start => exact effect_start network s
  | stop => exact effect_stop network s
  | set setting => exact effect_set network s setting
  | prefer preference => exact .preferred
  | add candidate =>
    simp only [answer, add, PrefixSet.add]
    cases hfree : s.members.firstOverlap? network (network candidate) with
    | some existing => exact .refused
    | none => exact .added hfree

/-- What every effect keeps holds after any exchanges. -/
theorem Answers.keeps {network : PrefixId → Prefix} {P : Session → Prop}
    (hkept : ∀ {s c t r}, Effect network s c t r → P s → P t) {s t : Session} {es : List Exchange}
    (h : Answers network s es t) (hs : P s) : P t := by
  induction h with
  | nil s => exact hs
  | cons c _ ih => exact ih (hkept (effect_answer network _ c) hs)

theorem Effect.provider {network : PrefixId → Prefix} {s t : Session} {c : Call EventLoop}
    {r : Except Error Unit} (h : Effect network s c t r) : t.provider = s.provider := by
  cases h <;> rfl

theorem Answers.provider {network : PrefixId → Prefix} {s t : Session} {es : List Exchange}
    (h : Answers network s es t) : t.provider = s.provider :=
  h.keeps (P := fun u => u.provider = s.provider) (fun effect heq => effect.provider.trans heq) rfl

/-- A call that attaches nothing leaves a session its loop or takes it. -/
theorem Effect.loop_of_ne_attach {network : PrefixId → Prefix} {s t : Session}
    {c : Call EventLoop} {r : Except Error Unit} (h : Effect network s c t r)
    (hc : ∀ loop priority, c ≠ .attach loop priority) {loop : EventLoop} (ht : t.loop = some loop) :
    s.loop = some loop := by
  cases h with
  | attached detached => exact absurd rfl (hc _ _)
  | detached => cases ht
  | refused | started | stopped | stored | preferred | added => exact ht

@[simp] theorem answer_provider (network : PrefixId → Prefix) (s : Session) (c : Call EventLoop) :
    (s.answer network c).state.provider = s.provider :=
  (effect_answer network s c).provider

end Session

end RouterAdvert
