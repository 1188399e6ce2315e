import RouterAdvert.Proofs.World.Growth
import RouterAdvert.Proofs.World.Sides

/-!
# What prefixes see

Worlds with the same prefixes and the same members cannot be told apart by operations on prefixes.
As long as providers add nothing, operations on routers lead to such worlds only.
-/

namespace RouterAdvert

def Provider.AddsNothing (p : Provider) : Prop := ∀ n q, .add q ∉ (p.answer n).calls

theorem Provider.addsNothing_offering (offer : Except Error LoopSource) :
    (offering offer).AddsNothing := by
  intro n q h
  cases h

/-- What operations on prefixes see of a session. The provider tells whether it holds the
session. -/
def Session.inventory (s : Session) : PrefixSet × Option Provider := (s.members, s.provider)

namespace World

/-- Two worlds that agree in prefixes, the members of sets and what keeps sessions alive. -/
structure SamePrefixes (w v : World) : Prop where
  sessions : SameParts Session.inventory w v
  prefixes : w.prefixes = v.prefixes
  sessionHandles : w.sessionHandles = v.sessionHandles
  prefixHandles : w.prefixHandles = v.prefixHandles
  sets : w.sets = v.sets
  snapshots : w.snapshots = v.snapshots

variable {w v : World} {id : SessionId}

theorem SamePrefixes.refl (w : World) : SamePrefixes w w := ⟨rfl, rfl, rfl, rfl, rfl, rfl⟩

theorem SamePrefixes.trans {u : World} (h : SamePrefixes w v) (h' : SamePrefixes v u) :
    SamePrefixes w u where
  sessions := h.sessions.trans h'.sessions
  prefixes := h.prefixes.trans h'.prefixes
  sessionHandles := h.sessionHandles.trans h'.sessionHandles
  prefixHandles := h.prefixHandles.trans h'.prefixHandles
  sets := h.sets.trans h'.sets
  snapshots := h.snapshots.trans h'.snapshots

theorem samePrefixes_of_same {w w' : World} (h : SameHoldings w w')
    (hsessions : SameParts Session.inventory w' w) : SamePrefixes w' w :=
  ⟨hsessions, h.prefixes, h.sessionHandles, h.prefixHandles, h.sets, h.snapshots⟩

theorem SamePrefixes.option_eq (h : SamePrefixes w v) : w.option = v.option := by
  funext p
  rw [option, option, h.prefixes]

theorem SamePrefixes.network_eq (h : SamePrefixes w v) : w.network = v.network :=
  network_of_prefixes_eq h.prefixes

/-- Exchanges in which nothing is added leave the inventory as it is. -/
theorem inventory_of_answers {network : PrefixId → Prefix} {s t : Session} {es : List Exchange}
    (h : s.Answers network es t) (hes : es.filterMap Exchange.added? = []) :
    t.inventory = s.inventory := by
  have hmembers := h.members_eq
  rw [hes, List.append_nil] at hmembers
  rw [Session.inventory, Session.inventory, hmembers, h.provider]

theorem samePrefixes_call (w : World) (id : SessionId) {c : Call LoopSource} (hc : ∀ p, c ≠ .add p) :
    SamePrefixes (w.call id c).state w := by
  refine samePrefixes_of_same (sameHoldings_call w id c) ?_
  cases hs : w.session? id with
  | none =>
    rw [call_of_released hs]
    rfl
  | some s =>
    obtain ⟨t, hanswers, hsessions⟩ := answers_callAll hs [c]
    refine .of_set_session hs (inventory_of_answers hanswers ?_) hsessions
    apply added_exchangesOf_eq_nil
    intro p hp
    exact hc p (List.mem_singleton.mp hp).symm

theorem samePrefixes_callNamed (w : World) (name : String) {c : Call LoopSource}
    (hc : ∀ p, c ≠ .add p) : SamePrefixes (w.callNamed name c).world w := by
  unfold callNamed
  cases w.sessionHandles.get? name with
  | none => exact .refl w
  | some id => exact samePrefixes_call w id hc

theorem samePrefixes_attachDefault (w : World) (id : SessionId) (priority : Int)
    (hproviders : ∀ s p, w.session? id = some s → s.provider = some p → p.AddsNothing) :
    SamePrefixes (w.attachDefault id priority).state w := by
  refine samePrefixes_of_same (sameHoldings_attachDefault w id priority) ?_
  cases hs : w.session? id with
  | none =>
    rw [attachDefault, hs]
    rfl
  | some s =>
    obtain ⟨t, hanswers, hsessions⟩ := answers_attachDefault hs priority
    refine .of_set_session hs (inventory_of_answers hanswers ?_) hsessions
    apply List.eq_nil_iff_forall_not_mem.mpr
    intro p hp
    obtain ⟨s', provider, hs', -, hprovider, hadds⟩ := added_defaultExchanges hp
    exact hproviders s' provider hs' hprovider _ p hadds

/-- No session of a world has a provider that adds a prefix. -/
def ProvidersAddNothing (w : World) : Prop :=
  ∀ id s p, w.session? id = some s → s.provider = some p → p.AddsNothing

theorem providersAddNothing_empty : ProvidersAddNothing {} := by
  intro id s p hlive
  cases hlive

theorem ProvidersAddNothing.step (h : w.ProvidersAddNothing) {op : Op}
    (hop : ∀ name p, op = .newSession name (some p) → p.AddsNothing) :
    (w.step op).world.ProvidersAddNothing := provider_of_step h hop

theorem samePrefixes_step_of_isRouterSide (w : World) (hproviders : w.ProvidersAddNothing) {op : Op}
    (hop : op.isRouterSide = true) : SamePrefixes (w.step op).world w := by
  cases op with
  | attach session loop priority =>
    cases loop with
    | none =>
      simp only [step]
      cases w.sessionHandles.get? session with
      | none => exact .refl w
      | some id => exact samePrefixes_attachDefault w id priority (hproviders id)
    | some loop =>
      simp only [step]
      cases w.loopHandles.get? loop with
      | none => exact .refl w
      | some found => exact samePrefixes_callNamed w session (by simp)
  | detach session | start session | stop session | set session | prefer session =>
    exact samePrefixes_callNamed w session (by simp)
  | setLinkAddressText session text =>
    simp only [step]
    cases LinkAddress.read? text.toList with
    | none => exact .refl w
    | some address => exact samePrefixes_callNamed w session (by simp)
  | preferBits session bits =>
    simp only [step]
    cases Preference.ofBits? bits with
    | none => exact .refl w
    | some preference => exact samePrefixes_callNamed w session (by simp)
  | acquireDefault loop =>
    have hsame := w.sameHoldings_defaultLoop
    exact ⟨.of_sessions_eq w.sessions_defaultLoop, hsame.prefixes, hsame.sessionHandles,
      hsame.prefixHandles, hsame.sets, hsame.snapshots⟩
  | newLoop => exact ⟨rfl, rfl, rfl, rfl, rfl, rfl⟩
  | takeLoop | dropLoop =>
    simp only [step, withHandle]
    repeat' split
    all_goals exact ⟨rfl, rfl, rfl, rfl, rfl, rfl⟩
  | _ => simp [Op.isRouterSide] at hop

theorem SamePrefixes.putSession (h : SamePrefixes w v) {s t : Session}
    (hst : s.inventory = t.inventory) (id : SessionId) :
    SamePrefixes (w.putSession id s) (v.putSession id t) where
  sessions := h.sessions.putSession hst id
  prefixes := h.prefixes
  sessionHandles := h.sessionHandles
  prefixHandles := h.prefixHandles
  sets := h.sets
  snapshots := h.snapshots

theorem SamePrefixes.add (h : SamePrefixes w v) (id : SessionId) (p : PrefixId) :
    SamePrefixes (w.call id (.add p)).state (v.call id (.add p)).state ∧
      (w.call id (.add p)).result = (v.call id (.add p)).result := by
  change SamePrefixes (w.onSession id (Session.add w.network · p)).state
      (v.onSession id (Session.add v.network · p)).state ∧
    (w.onSession id (Session.add w.network · p)).result =
      (v.onSession id (Session.add v.network · p)).result
  rcases h.sessions.session?_cases id with ⟨hs, ht⟩ | ⟨s, t, hs, ht, hst⟩
  · rw [onSession, onSession, hs, ht]
    exact ⟨h, rfl⟩
  · obtain ⟨hmembers, hprovider⟩ := Prod.mk.inj hst
    rw [onSession_of_live hs, onSession_of_live ht, h.network_eq]
    simp only [Session.add, hmembers]
    refine ⟨h.putSession ?_ id, rfl⟩
    exact Prod.ext rfl hprovider

theorem SamePrefixes.bindPrefix (h : SamePrefixes w v) (name : String) (p : PrefixId) :
    SamePrefixes { w with prefixHandles := w.prefixHandles.bind name p }
      { v with prefixHandles := v.prefixHandles.bind name p } where
  sessions := h.sessions
  prefixes := h.prefixes
  sessionHandles := h.sessionHandles
  prefixHandles := by rw [h.prefixHandles]
  sets := h.sets
  snapshots := h.snapshots

theorem SamePrefixes.bindSet (h : SamePrefixes w v) (name : String) (members : PrefixSet) :
    SamePrefixes { w with sets := w.sets.bind name members }
      { v with sets := v.sets.bind name members } where
  sessions := h.sessions
  prefixes := h.prefixes
  sessionHandles := h.sessionHandles
  prefixHandles := h.prefixHandles
  sets := by rw [h.sets]
  snapshots := h.snapshots

theorem SamePrefixes.editPrefix (h : SamePrefixes w v) (p : PrefixId) (change : Edit) :
    SamePrefixes (w.editPrefix p change).state (v.editPrefix p change).state ∧
      (w.editPrefix p change).result = (v.editPrefix p change).result := by
  simp only [World.editPrefix, h.option_eq]
  refine ⟨⟨h.sessions, ?_, h.sessionHandles, h.prefixHandles, h.sets, h.snapshots⟩, rfl⟩
  change w.prefixes.set p _ = v.prefixes.set p _
  rw [h.prefixes]

theorem SamePrefixes.newPrefix (h : SamePrefixes w v) (name : String) :
    SamePrefixes (w.step (.newPrefix name)).world (v.step (.newPrefix name)).world where
  sessions := h.sessions
  prefixes := congrArg (· ++ [default]) h.prefixes
  sessionHandles := h.sessionHandles
  prefixHandles := by simp only [World.step, h.prefixes, h.prefixHandles]
  sets := h.sets
  snapshots := h.snapshots

theorem SamePrefixes.dropPrefix (h : SamePrefixes w v) (name : String) :
    SamePrefixes { w with prefixHandles := w.prefixHandles.drop name }
      { v with prefixHandles := v.prefixHandles.drop name } where
  sessions := h.sessions
  prefixes := h.prefixes
  sessionHandles := h.sessionHandles
  prefixHandles := by rw [h.prefixHandles]
  sets := h.sets
  snapshots := h.snapshots

theorem SamePrefixes.bindSnapshot (h : SamePrefixes w v) (name : String) (p : PrefixId) :
    SamePrefixes { w with snapshots := w.snapshots.bind name (w.option p) }
      { v with snapshots := v.snapshots.bind name (v.option p) } where
  sessions := h.sessions
  prefixes := h.prefixes
  sessionHandles := h.sessionHandles
  prefixHandles := h.prefixHandles
  sets := h.sets
  snapshots := by rw [h.snapshots, h.option_eq]

theorem SamePrefixes.dropSet (h : SamePrefixes w v) (name : String) :
    SamePrefixes { w with sets := w.sets.drop name } { v with sets := v.sets.drop name } where
  sessions := h.sessions
  prefixes := h.prefixes
  sessionHandles := h.sessionHandles
  prefixHandles := h.prefixHandles
  sets := by rw [h.sets]
  snapshots := h.snapshots

theorem SamePrefixes.member_eq (h : SamePrefixes w v) (id : SessionId) (index : Nat) :
    (w.session? id).bind (·.members[index]?) = (v.session? id).bind (·.members[index]?) := by
  rcases h.sessions.session?_cases id with ⟨hs, ht⟩ | ⟨s, t, hs, ht, hst⟩
  · rw [hs, ht]
  · rw [hs, ht]
    exact congrArg (·.1[index]?) hst

/-- An operation on prefixes gives the same reply in two worlds that agree in them, and they agree
afterwards. -/
theorem SamePrefixes.step_of_isPrefixSide (h : SamePrefixes w v) {op : Op}
    (hop : op.isPrefixSide = true) :
    (w.step op).reply = (v.step op).reply ∧ SamePrefixes (w.step op).world (v.step op).world := by
  have hsession : ∀ name, w.sessionHandles.get? name = v.sessionHandles.get? name :=
    fun name => congrArg (·.get? name) h.sessionHandles
  have hnetwork : ∀ name, w.prefixHandles.get? name = v.prefixHandles.get? name :=
    fun name => congrArg (·.get? name) h.prefixHandles
  have hset : ∀ name, w.sets.get? name = v.sets.get? name :=
    fun name => congrArg (·.get? name) h.sets
  cases op with
  | addPrefix session network =>
    exact withHandle_agree h (hnetwork network) fun p =>
      withHandle_agree h (hsession session) fun id => answer_agree (h.add id p)
  | takeMember session index copy =>
    refine withHandle_agree h (hsession session) fun id => ?_
    rw [h.member_eq id index]
    cases (v.session? id).bind (·.members[index]?) with
    | none => exact ⟨rfl, h⟩
    | some member => exact ⟨rfl, h.bindPrefix copy member⟩
  | newPrefix network => exact ⟨rfl, h.newPrefix network⟩
  | clonePrefix network copy =>
    exact withHandle_agree h (hnetwork network) fun p => ⟨rfl, h.bindPrefix copy p⟩
  | dropPrefix network =>
    exact withHandle_agree h (hnetwork network) fun _ => ⟨rfl, h.dropPrefix network⟩
  | edit network change =>
    exact withHandle_agree h (hnetwork network) fun p => answer_agree (h.editPrefix p change)
  | setNetworkText network text =>
    refine withHandle_agree h (hnetwork network) fun p => ?_
    cases Prefix.read text with
    | error cause => exact ⟨rfl, h⟩
    | ok value => exact answer_agree (h.editPrefix p (.network value))
  | snapshot network copy =>
    exact withHandle_agree h (hnetwork network) fun p => ⟨rfl, h.bindSnapshot copy p⟩
  | newSet set => exact ⟨rfl, h.bindSet set []⟩
  | dropSet set => exact withHandle_agree h (hset set) fun _ => ⟨rfl, h.dropSet set⟩
  | addToSet set network =>
    refine withHandle_agree h (hnetwork network) fun p =>
      withHandle_agree h (hset set) fun members => answer_agree ?_
    rw [h.network_eq]
    exact ⟨h.bindSet set (members.add v.network p).state, rfl⟩
  | _ => simp [Op.isPrefixSide] at hop

theorem SamePrefixes.step (h : SamePrefixes w v) {op : Op} (hop : op.isRouterSide = false) :
    (w.step op).reply = (v.step op).reply ∧ SamePrefixes (w.step op).world (v.step op).world := by
  cases hprefixes : op.isPrefixSide with
  | true => exact h.step_of_isPrefixSide hprefixes
  | false =>
    obtain ⟨hreply, hsessions, hhandles⟩ :=
      h.sessions.step_of_handles (congrArg Prod.snd) h.sessionHandles hop hprefixes
    obtain ⟨sessions, handles, hw⟩ := exists_step_of_handles w hop hprefixes
    obtain ⟨sessions', handles', hv⟩ := exists_step_of_handles v hop hprefixes
    refine ⟨hreply, hsessions, ?_, hhandles, ?_, ?_, ?_⟩
    · rw [hw, hv]
      exact h.prefixes
    · rw [hw, hv]
      exact h.prefixHandles
    · rw [hw, hv]
      exact h.sets
    · rw [hw, hv]
      exact h.snapshots

end World

end RouterAdvert
