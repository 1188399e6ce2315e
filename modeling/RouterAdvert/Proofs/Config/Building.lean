import RouterAdvert.Config.Build
import RouterAdvert.Proofs.Config.Faults
import RouterAdvert.Proofs.World.Attempt
import RouterAdvert.Proofs.World.Calls

/-!
# Setting up a session

While a configuration is built there is one session and nothing else. The plan of the router
parameters goes through exactly if they can be set, and the session has them then.
-/

namespace RouterAdvert

def RouterConfig.parameters (r : RouterConfig) : RouterParameters where
  interface := r.interface.getD (-1)
  linkAddress := (r.linkAddress.bind (LinkAddress.read? ·.toList)).filter (· != .zero)
  mtu := r.mtu
  hopLimit := r.hopLimit
  lifetime := r.lifetime
  flags := ⟨r.managed, r.other, r.preference⟩

namespace Config

open World

/-- A world in which nothing but a session is being built. -/
structure Building (w : World) (s : Session) : Prop where
  sessions : w.sessions = [some s]
  sessionHandles : w.sessionHandles = [(sessionName, 0)]
  prefixHandles : w.prefixHandles = []
  idle : s.phase = .idle
  detached : s.loop = none
  provider : s.provider = some .threadDefault
  made : ∀ p ∈ s.members, p < w.prefixes.length

variable {w : World} {s : Session}

theorem Building.get? (h : Building w s) : w.sessionHandles.get? sessionName = some 0 := by
  rw [h.sessionHandles]
  rfl

theorem Building.session? (h : Building w s) : w.session? 0 = some s := by
  rw [World.session?, h.sessions]
  rfl

theorem Building.put (h : Building w s) (router : RouterParameters) :
    Building (w.putSession 0 { s with router }) { s with router } where
  sessions := by rw [putSession, h.sessions]; rfl
  sessionHandles := h.sessionHandles
  prefixHandles := h.prefixHandles
  idle := h.idle
  detached := h.detached
  provider := h.provider
  made := h.made

/-- A call to the only session is accepted if the session accepts it. -/
theorem accepts_call (hname : w.sessionHandles.get? sessionName = some 0)
    (hlive : w.session? 0 = some s) (op : Op) {c : Call LoopSource}
    (act : Session → Outcome Session Log.Event) (hop : w.step op = w.callNamed sessionName c)
    (hcall : w.call 0 c = w.onSession 0 act) :
    (w.Accepts op ↔ (act s).result = .ok ()) ∧
      (w.step op).world = w.putSession 0 (act s).state := by
  have hstep : w.step op =
      Result.answer ((act s).lift (w.putSession 0) (⟨.session 0, ·⟩)) := by
    rw [hop, callNamed, hname, withHandle_some, hcall, onSession_of_live hlive]
  exact ⟨accepts_iff_of_answer hstep, by rw [hstep]; rfl⟩

theorem Building.result_set (h : Building w s) (setting : Setting) :
    (s.set setting).result = .ok () ↔ setting.outOfRange? = none ∧
      ¬(setting = .lifetime 0 ∧ s.router.flags.preference ≠ .medium) := by
  unfold Session.set
  cases setting.outOfRange? with
  | some cause => simp [Outcome.fail]
  | none =>
    by_cases htiming : setting = .lifetime 0 ∧ s.router.flags.preference ≠ .medium
    · simp [h.idle, htiming, Outcome.fail]
    · simp [h.idle, htiming]

theorem Building.state_set (h : Building w s) {setting : Setting}
    (hok : (s.set setting).result = .ok ()) :
    (s.set setting).state = { s with router := setting.store s.router } := by
  rcases (h.result_set setting).mp hok with ⟨hrange, htiming⟩
  simp only [Session.set, hrange, h.idle, htiming, ne_eq, not_true_eq_false, if_false]

/-- A setter accepts a value that is in range and goes with the preference. -/
theorem Building.accepts_set_iff (h : Building w s) (setting : Setting) :
    w.Accepts (.set sessionName setting) ↔ setting.outOfRange? = none ∧
      ¬(setting = .lifetime 0 ∧ s.router.flags.preference ≠ .medium) := by
  have hcall := accepts_call h.get? h.session? (.set sessionName setting) (·.set setting) rfl rfl
  rw [hcall.1, h.result_set]

theorem Building.set (h : Building w s) {setting : Setting}
    (haccepts : w.Accepts (.set sessionName setting)) :
    Building (w.step (.set sessionName setting)).world
      { s with router := setting.store s.router } := by
  have hcall := accepts_call h.get? h.session? (.set sessionName setting) (·.set setting) rfl rfl
  rw [hcall.2, h.state_set (hcall.1.mp haccepts)]
  exact h.put _

theorem Building.optional {α : Type} (h : Building w s) (o : Option α) (op : α → Op)
    {good : α → Prop} {next : Session} (hgood : ∀ x, w.Accepts (op x) ↔ good x)
    (hnone : o = none → next = s)
    (hsome : ∀ x, o = some x → w.Accepts (op x) → Building (w.step (op x)).world next) :
    (w.AcceptsAll (o.map op).toList ↔ ∀ x, o = some x → good x) ∧
      (w.AcceptsAll (o.map op).toList → Building (w.run (o.map op).toList) next) := by
  cases o with
  | none =>
    refine ⟨by simp [AcceptsAll], fun _ => ?_⟩
    rw [hnone rfl]
    exact h
  | some x =>
    simp only [Option.map_some, Option.toList_some, AcceptsAll, and_true, run]
    refine ⟨?_, hsome x rfl⟩
    rw [hgood]
    simp

theorem Building.setInterface (h : Building w s) (o : Option Int32) :
    let ops := (o.map fun index => Op.set sessionName (.interface index)).toList
    (w.AcceptsAll ops ↔ ∀ index, o = some index → ¬index < -1) ∧ (w.AcceptsAll ops →
      Building (w.run ops)
        { s with router := { s.router with interface := o.getD s.router.interface } }) := by
  apply h.optional
  · intro index
    rw [h.accepts_set_iff]
    simp [Setting.outOfRange?]
  · rintro rfl
    rfl
  · rintro index rfl haccepts
    exact h.set haccepts

theorem step_setLinkAddressText {text : String} {address : LinkAddress}
    (hread : LinkAddress.read? text.toList = some address) :
    w.step (.setLinkAddressText sessionName text) =
      w.step (.set sessionName (.linkAddress (some address))) := by
  simp only [step, hread]

theorem Building.setLinkAddress (h : Building w s) (o : Option String)
    (hs : s.router.linkAddress = none) :
    let ops := (o.map fun text => Op.setLinkAddressText sessionName text).toList
    (w.AcceptsAll ops ↔ ∀ text, o = some text → LinkAddress.read? text.toList ≠ none) ∧
      (w.AcceptsAll ops → Building (w.run ops) { s with router := { s.router with
        linkAddress := (o.bind (LinkAddress.read? ·.toList)).filter (· != .zero) } }) := by
  have haccepts : ∀ text, w.Accepts (.setLinkAddressText sessionName text) ↔
      LinkAddress.read? text.toList ≠ none := by
    intro text
    cases hread : LinkAddress.read? text.toList with
    | none => simp [Accepts, step, hread, unchanged]
    | some address =>
      rw [Accepts, step_setLinkAddressText hread]
      refine iff_of_true ((h.accepts_set_iff _).mpr ?_) (by simp)
      simp [Setting.outOfRange?]
  apply h.optional _ _ haccepts
  · rintro rfl
    rw [Option.bind_none, Option.filter_none, ← hs]
  · rintro text rfl hok
    rcases Option.ne_none_iff_exists'.mp ((haccepts text).mp hok) with ⟨address, hread⟩
    rw [Accepts, step_setLinkAddressText hread] at hok
    rw [step_setLinkAddressText hread, Option.bind_some, hread]
    exact h.set hok

theorem Building.setMtu (h : Building w s) (o : Option UInt32) (hs : s.router.mtu = none) :
    let ops := (o.map fun size => Op.set sessionName (.mtu size)).toList
    (w.AcceptsAll ops ↔ ∀ size, o = some size → ¬size < minMtu) ∧
      (w.AcceptsAll ops → Building (w.run ops) { s with router := { s.router with mtu := o } }) := by
  apply h.optional
  · intro size
    rw [h.accepts_set_iff]
    simp [Setting.outOfRange?]
  · rintro rfl
    rw [← hs]
  · rintro size rfl haccepts
    exact h.set haccepts

theorem Building.prefer (h : Building w s) (preference : Preference) :
    w.Accepts (.prefer sessionName preference) ∧
      Building (w.step (.prefer sessionName preference)).world
        { s with router := { s.router with flags := { s.router.flags with preference } } } := by
  have hcall := accepts_call h.get? h.session? (.prefer sessionName preference)
    (·.prefer preference) rfl rfl
  refine ⟨hcall.1.mpr rfl, ?_⟩
  rw [hcall.2]
  exact h.put _

/-- The parameters that are always set. The preference is there when the lifetime is checked. -/
theorem Building.setOthers (h : Building w s) (r : RouterConfig) :
    let ops : List Op := [.set sessionName (.hopLimit r.hopLimit),
      .set sessionName (.managed r.managed), .set sessionName (.other r.other),
      .prefer sessionName r.preference, .set sessionName (.lifetime r.lifetime)]
    (w.AcceptsAll ops ↔ ¬(r.lifetime = 0 ∧ r.preference ≠ .medium)) ∧
      (w.AcceptsAll ops → Building (w.run ops) { s with router := { s.router with
        hopLimit := r.hopLimit
        lifetime := r.lifetime
        flags := ⟨r.managed, r.other, r.preference⟩ } }) := by
  have hhop : w.Accepts (.set sessionName (.hopLimit r.hopLimit)) := by
    rw [h.accepts_set_iff]
    simp [Setting.outOfRange?]
  have h1 := h.set hhop
  have hmanaged := (h1.accepts_set_iff (.managed r.managed)).mpr (by simp [Setting.outOfRange?])
  have h2 := h1.set hmanaged
  have hother := (h2.accepts_set_iff (.other r.other)).mpr (by simp [Setting.outOfRange?])
  have h3 := h2.set hother
  rcases h3.prefer r.preference with ⟨hprefer, h4⟩
  have hlifetime := h4.accepts_set_iff (.lifetime r.lifetime)
  simp only [AcceptsAll, hhop, hmanaged, hother, hprefer, hlifetime, true_and, and_true, run]
  refine ⟨by simp [Setting.outOfRange?], fun hok => h4.set (hlifetime.mpr hok)⟩

/-- The plan of the router parameters goes through if they can be set, and it sets them. -/
theorem Building.routerPlan (h : Building w s) (hs : s.router = {}) (r : RouterConfig) :
    (w.AcceptsAll (Config.routerPlan r) ↔ r.Settable) ∧ (w.AcceptsAll (Config.routerPlan r) →
      Building (w.run (Config.routerPlan r)) { s with router := r.parameters }) := by
  simp only [Config.routerPlan, acceptsAll_append, run_append]
  rcases h.setInterface r.interface with ⟨hinterface, h1⟩
  constructor
  · constructor
    · rintro ⟨⟨⟨ha, hb⟩, hc⟩, hd⟩
      rcases (h1 ha).setLinkAddress r.linkAddress (by rw [hs]) with ⟨hlink, h2⟩
      rcases (h2 hb).setMtu r.mtu (by rw [hs]) with ⟨hmtu, h3⟩
      rcases (h3 hc).setOthers r with ⟨hothers, -⟩
      exact ⟨hinterface.mp ha, hlink.mp hb, hmtu.mp hc, hothers.mp hd⟩
    · rintro ⟨interface, linkAddress, mtu, preference⟩
      have ha := hinterface.mpr interface
      rcases (h1 ha).setLinkAddress r.linkAddress (by rw [hs]) with ⟨hlink, h2⟩
      have hb := hlink.mpr linkAddress
      rcases (h2 hb).setMtu r.mtu (by rw [hs]) with ⟨hmtu, h3⟩
      have hc := hmtu.mpr mtu
      rcases (h3 hc).setOthers r with ⟨hothers, -⟩
      exact ⟨⟨⟨ha, hb⟩, hc⟩, hothers.mpr preference⟩
  · rintro ⟨⟨⟨ha, hb⟩, hc⟩, hd⟩
    rcases (h1 ha).setLinkAddress r.linkAddress (by rw [hs]) with ⟨-, h2⟩
    rcases (h2 hb).setMtu r.mtu (by rw [hs]) with ⟨-, h3⟩
    rcases (h3 hc).setOthers r with ⟨-, h4⟩
    have hbuilt := h4 hd
    simp only [hs] at hbuilt
    exact hbuilt

end Config

end RouterAdvert
