import RouterAdvert.Proofs.World.History

/-!
# Settings of an advertising session

An advertising session refuses every setting, and of the other calls only `stop` ends its
advertising. So its settings keep their values through any run in which it is not stopped, whoever
makes the calls: a handle or the provider that is asked for a loop.
-/

namespace RouterAdvert

/-- Two routers with the same parameters, up to the preference. -/
structure RouterParameters.SameSettings (r r' : RouterParameters) : Prop where
  interface : r'.interface = r.interface
  linkAddress : r'.linkAddress = r.linkAddress
  mtu : r'.mtu = r.mtu
  hopLimit : r'.hopLimit = r.hopLimit
  lifetime : r'.lifetime = r.lifetime
  managed : r'.flags.managed = r.flags.managed
  other : r'.flags.other = r.flags.other

namespace RouterParameters.SameSettings

theorem refl (r : RouterParameters) : SameSettings r r := ⟨rfl, rfl, rfl, rfl, rfl, rfl, rfl⟩

theorem trans {p q r : RouterParameters} (h : SameSettings p q) (h' : SameSettings q r) :
    SameSettings p r where
  interface := h'.interface.trans h.interface
  linkAddress := h'.linkAddress.trans h.linkAddress
  mtu := h'.mtu.trans h.mtu
  hopLimit := h'.hopLimit.trans h.hopLimit
  lifetime := h'.lifetime.trans h.lifetime
  managed := h'.managed.trans h.managed
  other := h'.other.trans h.other

end RouterParameters.SameSettings

def Setting.refusal (setting : Setting) : Error :=
  match setting.outOfRange? with
  | some cause => .outOfRange cause
  | none => .busy

namespace Session

theorem set_of_advertising {s : Session} (h : s.phase = .advertising) (setting : Setting) :
    s.set setting = .fail s setting.refusal := by
  unfold set Setting.refusal
  cases setting.outOfRange? with
  | some cause => rfl
  | none => simp [h]

/-- One call other than `stop` leaves an advertising session advertising, with its settings. -/
theorem Effect.advertising {network : PrefixId → Prefix} {s t : Session} {c : Call EventLoop}
    {r : Except Error Unit} (heffect : Effect network s c t r) (h : s.phase = .advertising)
    (hc : c ≠ .stop) : t.phase = .advertising ∧ s.router.SameSettings t.router := by
  cases heffect with
  | started attached interface => exact ⟨rfl, .refl _⟩
  | stopped => exact absurd rfl hc
  | stored inRange idle timing =>
    rw [h] at idle
    cases idle
  | preferred => exact ⟨h, rfl, rfl, rfl, rfl, rfl, rfl, rfl⟩
  | refused | attached | detached | added => exact ⟨h, .refl _⟩

/-- The invariant of `Effect.advertising` along a history, and the answer to any setting in it. -/
theorem Evolves.frozen {s t : Session} {es : List Exchange} (hevolves : s.Evolves es t)
    (h : s.phase = .advertising) (hstop : ∀ e ∈ es, e.call ≠ .stop) :
    t.phase = .advertising ∧ s.router.SameSettings t.router ∧
      ∀ e ∈ es, ∀ setting, e.call = .set setting → e.result = .error setting.refusal := by
  induction hevolves with
  | nil s => exact ⟨h, .refl _, by simp⟩
  | @cons s t rest network c hrest ih =>
    obtain ⟨hc, hafter⟩ := List.forall_mem_cons.mp hstop
    obtain ⟨hphase, hsame⟩ := (effect_answer network s c).advertising h hc
    obtain ⟨hend, hsettings, hrefused⟩ := ih hphase hafter
    refine ⟨hend, hsame.trans hsettings, List.forall_mem_cons.mpr ⟨?_, hrefused⟩⟩
    rintro setting rfl
    change (s.set setting).result = _
    rw [set_of_advertising h]
    rfl

end Session

namespace World

/-- The reply to a setting through a handle is the answer of its session. -/
theorem reply_set {w : World} {name : String} {id : SessionId} {s : Session}
    (hname : w.sessionHandles.get? name = some id) (h : w.session? id = some s) (setting : Setting)
    {e : Error} (he : (s.set setting).result = .error e) :
    (w.step (.set name setting)).reply = .failed e := by
  have hresult := result_call h (.set setting)
  change (w.call id (.set setting)).result = (s.set setting).result at hresult
  simp only [step, callNamed, hname, withHandle_some, Result.answer, hresult, he]

/-- From any world on in which a session advertises, and through any run that does not stop it,
every setting that reaches it is refused, the next one too, and as long as a handle to it is left it
advertises with the settings that it had. -/
theorem settings_frozen_while_advertising (w : World) (id : SessionId) (s : Session)
    (hlive : w.session? id = some s) (hphase : s.phase = .advertising) (ops : List Op)
    (hstop : ∀ e ∈ w.history id ops, e.call ≠ .stop) :
    (∀ e ∈ w.history id ops, ∀ setting, e.call = .set setting →
        e.result = .error setting.refusal) ∧
      (∀ name setting, (w.run ops).sessionHandles.get? name = some id →
        ((w.run ops).step (.set name setting)).reply = .failed setting.refusal) ∧
      ((w.run ops).sessionRefs id ≠ 0 → ∃ t, (w.run ops).session? id = some t ∧
        t.phase = .advertising ∧ s.router.SameSettings t.router) := by
  obtain ⟨t, hevolves, hend⟩ := evolves_run hlive ops
  obtain ⟨hadvertising, hsame, hrefused⟩ := hevolves.frozen hphase hstop
  refine ⟨hrefused, ?_, ?_⟩
  · intro name setting hname
    rcases hend with hend | hretired
    · apply reply_set hname hend
      rw [Session.set_of_advertising hadvertising]
      rfl
    · exact absurd rfl (hretired.ne_of_get? hname)
  · intro hrefs
    rcases hend with hend | hretired
    · exact ⟨t, hend, hadvertising, hsame⟩
    · exact absurd hretired.sessionRefs_eq_zero hrefs

/-- Here the session is attached anew while it advertises, through a second handle and by a provider
that tries to change the hop limit first. -/
theorem settings_frozen_while_reattached :
    let provider : Provider := {
      answer := fun _ => { calls := [.set (.hopLimit 9)], offer := .ok (.fresh "spare") } }
    let w := run {} [.newSession "s" (some provider), .newLoop "e" "main", .set "s" (.interface 2),
      .attach "s" (some "e") 0, .start "s"]
    let ops : List Op := [.cloneSession "s" "t", .set "t" (.mtu 1500), .detach "t",
      .attach "t" none 5, .dropSession "s"]
    (w.history 0 ops).map (·.call) = [.set (.mtu 1500), .detach, .set (.hopLimit 9),
        .attach ⟨1, "spare", false⟩ 5] ∧
      (∀ e ∈ w.history 0 ops, ∀ setting, e.call = .set setting →
        e.result = .error setting.refusal) ∧
      ((w.run ops).step (.set "t" (.mtu 1000))).reply = .failed (.outOfRange (.mtu 1000)) ∧
      ∃ t, (w.run ops).session? 0 = some t ∧ t.phase = .advertising ∧ t.router.hopLimit = 0 := by
  intro provider w ops
  obtain ⟨hrefused, hreply, hfrozen⟩ :=
    settings_frozen_while_advertising w 0 _ rfl rfl ops (by decide)
  obtain ⟨t, hlive, hphase, hsame⟩ := hfrozen (by decide)
  exact ⟨by decide, hrefused, hreply "t" (.mtu 1000) (by decide), t, hlive, hphase, hsame.hopLimit⟩

end World

end RouterAdvert
