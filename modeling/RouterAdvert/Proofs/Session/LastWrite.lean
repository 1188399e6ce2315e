import RouterAdvert.Proofs.Session.Phase

/-!
# Last accepted writes

Each router parameter has a setter of its own and keeps the value of the last call to it that was
accepted. Whether a call is accepted depends on its value, on the phase and, for a zero lifetime, on
the preference at that moment.
-/

namespace RouterAdvert

inductive Parameter
  | interface
  | linkAddress
  | mtu
  | hopLimit
  | lifetime
  | managed
  | other
  | preference

namespace Parameter

abbrev Value : Parameter → Type
  | interface => Int32
  | linkAddress => Option LinkAddress
  | mtu => Option UInt32
  | hopLimit => UInt8
  | lifetime => UInt32
  | managed | other => Bool
  | preference => Preference

def get (r : RouterParameters) : (p : Parameter) → p.Value
  | interface => r.interface
  | linkAddress => r.linkAddress
  | mtu => r.mtu
  | hopLimit => r.hopLimit
  | lifetime => r.lifetime
  | managed => r.flags.managed
  | other => r.flags.other
  | preference => r.flags.preference

def initial : (p : Parameter) → p.Value
  | interface => -1
  | linkAddress | mtu => none
  | hopLimit => (0 : UInt8)
  | lifetime => (0 : UInt32)
  | managed | other => false
  | preference => .medium

/-- The value that a call asks for if it is one to the setter of this parameter. The all-zero link
address asks for none. -/
def argument? : (p : Parameter) → Call EventLoop → Option p.Value
  | interface, .set (.interface index) => some index
  | linkAddress, .set (.linkAddress address) =>
    some (if address = some .zero then none else address)
  | mtu, .set (.mtu size) => some (some size)
  | hopLimit, .set (.hopLimit limit) => some limit
  | lifetime, .set (.lifetime seconds) => some seconds
  | managed, .set (.managed on) => some on
  | other, .set (.other on) => some on
  | preference, .prefer wanted => some wanted
  | _, _ => none

/-- The value that an exchange wrote to a parameter. -/
def written? (p : Parameter) (e : Exchange) : Option p.Value :=
  match e.result with
  | .ok () => p.argument? e.call
  | .error _ => none

/-- The value that a history wrote last to a parameter, or else the initial one. -/
def lastWritten (p : Parameter) (es : List Exchange) : p.Value :=
  (es.filterMap p.written?).getLast?.getD p.initial

theorem get_default (p : Parameter) : p.get {} = p.initial := by
  cases p <;> rfl

/-- A value that is stored is found again, and all other parameters are left alone. -/
theorem get_store (p : Parameter) (setting : Setting) (r : RouterParameters) :
    p.get (setting.store r) = (p.argument? (.set setting)).getD (p.get r) := by
  cases setting with
  | linkAddress address =>
    cases p with
    | linkAddress =>
      change address.filter (· != .zero) = if address = some .zero then none else address
      cases address with
      | none => rfl
      | some found => by_cases hzero : found = .zero <;> simp [hzero]
    | _ => rfl
  | interface | mtu | hopLimit | lifetime | managed | other => cases p <;> rfl

end Parameter

def Setting.InRange : Setting → Prop
  | interface index => -1 ≤ index
  | mtu size => 1280 ≤ size
  | linkAddress _ | hopLimit _ | lifetime _ | managed _ | other _ => True

theorem Setting.outOfRange?_eq_none_iff {setting : Setting} :
    setting.outOfRange? = none ↔ setting.InRange := by
  cases setting with
  | interface index => simp [outOfRange?, InRange]
  | mtu size =>
    have hsmall : size < minMtu ↔ ¬1280 ≤ size := UInt32.not_le.symm
    simp [outOfRange?, InRange, hsmall]
  | linkAddress | hopLimit | lifetime | managed | other => simp [outOfRange?, InRange]

instance (setting : Setting) : Decidable setting.InRange :=
  decidable_of_iff _ Setting.outOfRange?_eq_none_iff

namespace Session

variable {network : PrefixId → Prefix} {s t : Session} {c : Call EventLoop}
  {r : Except Error Unit} {es : List Exchange}

theorem Effect.get_router (h : Effect network s c t r) (p : Parameter) :
    p.get t.router = (p.written? ⟨c, r⟩).getD (p.get s.router) := by
  cases h with
  | refused => rfl
  | stored inRange idle timing => exact p.get_store _ s.router
  | attached | detached | started | stopped | preferred | added => cases p <;> rfl

/-- A value that each answer replaces by what its exchange wrote is, after a history, what was
written last. -/
theorem Evolves.last_written (h : Evolves s es t) (p : Parameter) :
    p.get t.router = (es.filterMap p.written?).getLast?.getD (p.get s.router) := by
  induction h with
  | nil s => rfl
  | @cons s t rest network c _ ih =>
    rw [ih, (effect_answer network s c).get_router, List.filterMap_cons]
    cases p.written? ⟨c, (s.answer network c).result⟩ with
    | none => rfl
    | some value => rw [List.getLast?_cons]; rfl

theorem Evolves.get_eq_lastWritten {provider : Option Provider} (h : Evolves { provider } es t)
    (p : Parameter) : p.get t.router = p.lastWritten es := by
  rw [h.last_written, Parameter.lastWritten]
  exact congrArg _ p.get_default

/-- What a session says to a setting: a value out of range is reported before the session being
busy, and that before a zero lifetime that does not go with the preference. -/
structure SaysToSetting (s : Session) (setting : Setting) (result : Except Error Unit) : Prop where
  ok_iff : result = .ok () ↔ setting.InRange ∧ s.phase = .idle ∧
    (setting = .lifetime 0 → s.router.flags.preference = .medium)
  out_of_range : ¬setting.InRange →
    ∃ cause, setting.outOfRange? = some cause ∧ result = .error (.outOfRange cause)
  busy : setting.InRange → s.phase = .advertising → result = .error .busy
  timing : setting = .lifetime 0 → s.phase = .idle → s.router.flags.preference ≠ .medium →
    result = .error .timing

theorem saysToSetting (s : Session) (setting : Setting) :
    s.SaysToSetting setting (s.set setting).result := by
  unfold set
  cases hcause : setting.outOfRange? with
  | some cause =>
    have hrange : ¬setting.InRange := by
      rw [← Setting.outOfRange?_eq_none_iff, hcause]
      simp
    refine ⟨by simp [Outcome.fail, hrange], fun _ => ⟨cause, hcause, rfl⟩, ?_, ?_⟩
    · exact fun h => absurd h hrange
    · rintro rfl
      exact absurd trivial hrange
  | none =>
    have hrange : setting.InRange := Setting.outOfRange?_eq_none_iff.mp hcause
    by_cases hidle : s.phase = .idle
    · rw [if_neg (not_not_intro hidle)]
      by_cases htiming : setting = .lifetime 0 ∧ s.router.flags.preference ≠ .medium
      · rw [if_pos htiming]
        exact ⟨by simp [Outcome.fail, htiming], fun h => absurd hrange h, by simp [hidle],
          fun _ _ _ => rfl⟩
      · rw [if_neg htiming]
        have hmedium : setting = .lifetime 0 → s.router.flags.preference = .medium :=
          fun h => Decidable.not_not.mp fun hne => htiming ⟨h, hne⟩
        exact ⟨⟨fun _ => ⟨hrange, hidle, hmedium⟩, fun _ => rfl⟩, fun h => absurd hrange h,
          by simp [hidle], fun hzero _ hne => absurd ⟨hzero, hne⟩ htiming⟩
    · rw [if_pos hidle]
      exact ⟨by simp [Outcome.fail, hidle], fun h => absurd hrange h, fun _ _ => rfl,
        fun _ h => absurd h hidle⟩

/-- What a session says to the call of a setter in its history. Only the preference is always
accepted. -/
structure SaysToWrite (s : Session) (e : Exchange) : Prop where
  set : ∀ setting, e.call = .set setting → s.SaysToSetting setting e.result
  prefer : ∀ preference, e.call = .prefer preference → e.result = .ok ()

theorem saysToWrite (network : PrefixId → Prefix) (s : Session) (c : Call EventLoop) :
    s.SaysToWrite ⟨c, (s.answer network c).result⟩ where
  set := by
    rintro setting rfl
    exact s.saysToSetting setting
  prefer := by
    rintro preference rfl
    rfl

/-- At each moment of the history of a new session, its parameters are what was last written to
them, it advertises if it was started and not stopped since, and it answers accordingly. -/
theorem Evolves.write_moment {provider : Option Provider} {before after : List Exchange}
    {e : Exchange} (h : Evolves { provider } (before ++ e :: after) t) :
    ∃ u, Evolves { provider } before u ∧ u.Evolves (e :: after) t ∧
      (∀ p : Parameter, p.get u.router = p.lastWritten before) ∧
      (u.phase = .advertising ↔ Started before) ∧ u.SaysToWrite e := by
  obtain ⟨u, hbefore, hrest⟩ := h.split
  obtain ⟨network, hresult, -⟩ := hrest.cons_inv
  have hsays := u.saysToWrite network e.call
  rw [← hresult] at hsays
  exact ⟨u, hbefore, hrest, hbefore.get_eq_lastWritten, hbefore.started_iff rfl, hsays⟩

end Session

end RouterAdvert
