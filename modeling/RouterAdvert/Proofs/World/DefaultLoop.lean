import RouterAdvert.Proofs.World.OneDefault

/-!
# The default loop

The default loop is shared by all who hold it, and is replaced by a fresh one when it is acquired
after the last of them has let go.
-/

namespace RouterAdvert

theorem Provider.holdsNoDefault_threadDefault : Provider.threadDefault.HoldsNoDefault :=
  holdsNoDefault_offering fun loop h => by cases h

namespace World

variable {w : World} {id : SessionId} {s : Session} {name : String} {loop : EventLoop}

theorem fst_defaultLoop_request (w : World) :
    ({ w with requests := w.requests + 1 } : World).defaultLoop.1 = w.defaultLoop.1 := by
  have hsame : ({ w with requests := w.requests + 1 } : World).loopRefs = w.loopRefs := rfl
  unfold defaultLoop
  simp only [hsame]
  cases w.lastDefault.filter (w.loopRefs · ≠ 0) <;> rfl

theorem rebinds_attach_threadDefault (hname : w.sessionHandles.get? name = some id)
    (h : w.session? id = some s) (hl : s.loop = none) (hp : s.provider = some .threadDefault)
    (priority : Int) :
    w.Rebinds (.attach name none priority) (.session id) (some w.defaultLoop.1) := by
  let left := w.asked id .threadDefault
  have hleft : left.session? id = some s := h
  obtain ⟨hresult, hstate⟩ := attachDefault_of_taken h hl hp hleft hl rfl priority
  rw [Rebinds, step_attach_default hname]
  refine ⟨reply_answer_of_ok hresult, fun other => ?_⟩
  change (w.attachDefault id priority).state.holds other = _
  have hkept : left.defaultLoop.2.holds = w.holds :=
    holds_of_same left.sessions_defaultLoop left.sameHoldings_defaultLoop.loopHandles
  have hmade : left.defaultLoop.2.session? id = some s :=
    (session?_of_sessions_eq left.sessions_defaultLoop id).trans hleft
  rw [hstate, ← w.fst_defaultLoop_request, ← hkept]
  exact holds_putSession hmade _ other

/-- Nobody holds the loop at any moment of a run. -/
def NeverHeld (ops : List Op) (loop : EventLoop) : Prop :=
  ∀ before after, ops = before ++ after → ∀ holder, (run {} before).holds holder ≠ some loop

theorem oneDefault_run {ops : List Op}
    (hops : ∀ name p, .newSession name (some p) ∈ ops → p.HoldsNoDefault) :
    OneDefault 0 (run {} ops) :=
  oneDefault_empty.run (fun id s p hs => by cases hs) hops

theorem provider_holdsNoDefault {ops : List Op}
    (hops : ∀ name p, .newSession name (some p) ∈ ops → p.HoldsNoDefault) :
    ∀ id s p, (run {} ops).session? id = some s → s.provider = some p → p.HoldsNoDefault :=
  provider_of_run (fun id s p hs => by cases hs) hops

/-- A default loop that somebody holds at a moment of a run was made before any that is made at the
end of it. -/
theorem serial_lt_of_held_earlier {before after : List Op} {holder : Holder}
    (hops : ∀ name p, .newSession name (some p) ∈ before ++ after → p.HoldsNoDefault)
    (hholds : (run {} before).holds holder = some loop) (hdefault : loop.isDefault) :
    loop.serial < (run {} (before ++ after)).loopsMade := by
  have hbefore : ∀ name p, .newSession name (some p) ∈ before → p.HoldsNoDefault :=
    fun name p hmem => hops name p (List.mem_append_left after hmem)
  have hafter : ∀ name p, .newSession name (some p) ∈ after → p.HoldsNoDefault :=
    fun name p hmem => hops name p (List.mem_append_right before hmem)
  have hthen := oneDefault_run hbefore
  obtain ⟨-, hserial⟩ := hthen.last loop (hthen.held holder loop hholds hdefault)
  have hnow : OneDefault (run {} before).loopsMade ((run {} before).run after) :=
    OneDefault.run ⟨Nat.le_refl _, hthen.held, hthen.last⟩ (provider_holdsNoDefault hbefore) hafter
  rw [run_append]
  exact Nat.lt_of_lt_of_le hserial hnow.grown

/-- Where nobody holds a default loop any more, the one that is acquired is one that nobody held in
the run before. -/
theorem neverHeld_of_unheld {ops : List Op}
    (hops : ∀ name p, .newSession name (some p) ∈ ops → p.HoldsNoDefault)
    (hsound : Sound w) (h : OneDefault (run {} ops).loopsMade w)
    (hnone : ∀ a loop, w.holds a = some loop → loop.isDefault = false) :
    w.defaultLoop.1.isDefault ∧ NeverHeld ops w.defaultLoop.1 := by
  have hmade := h.fst_defaultLoop hsound hnone
  refine ⟨by rw [hmade], ?_⟩
  rintro before after rfl holder hholds
  rw [hmade] at hholds
  have hearlier := serial_lt_of_held_earlier hops hholds rfl
  exact absurd hearlier (Nat.not_lt.mpr h.grown)

/-- After any run with providers that hold no default loop, a loop is alive exactly if somebody
holds it, all who hold a default loop hold the same one, and this is the loop that is acquired. When
nobody holds a default loop, and also when the last holder of one has just let go of it, the loop
that is acquired is one that nobody ever held. To acquire it takes a handle or a session that is not
attached; to let go of a loop is to give up the handle, to detach the session or to give up the last
handle to it. -/
theorem one_default_loop (ops : List Op)
    (hproviders : ∀ name p, .newSession name (some p) ∈ ops → p.HoldsNoDefault) :
    let w := run {} ops
    let acquired := w.defaultLoop.1
    (∀ loop, w.loopRefs loop ≠ 0 ↔ ∃ holder, w.holds holder = some loop) ∧
      (∀ a b loop other, w.holds a = some loop → w.holds b = some other →
        loop.isDefault → other.isDefault → loop = other) ∧
      (∀ a loop, w.holds a = some loop → loop.isDefault → w.defaultLoop = (loop, w)) ∧
      ((∀ a loop, w.holds a = some loop → loop.isDefault = false) →
        acquired.isDefault ∧ NeverHeld ops acquired) ∧
      (∀ op holder loop, w.Rebinds op holder none → w.holds holder = some loop → loop.isDefault →
        (∀ a, w.holds a = some loop → a = holder) →
        let next := (w.step op).world.defaultLoop.1
        next.isDefault ∧ NeverHeld ops next) ∧
      (∀ name, w.Rebinds (.acquireDefault name) (.handle name) (some acquired)) ∧
      (∀ name id s priority, w.sessionHandles.get? name = some id → w.session? id = some s →
        s.loop = none → s.provider = some .threadDefault →
        w.Rebinds (.attach name none priority) (.session id) (some acquired)) ∧
      (∀ name loop, w.loopHandles.get? name = some loop →
        w.Rebinds (.dropLoop name) (.handle name) none) ∧
      (∀ name id, w.sessionHandles.get? name = some id →
        w.Rebinds (.detach name) (.session id) none) ∧
      ∀ name id, w.sessionHandles.get? name = some id → w.sessionRefs id = 1 →
        w.Rebinds (.dropSession name) (.session id) none := by
  intro w acquired
  have hsound : Sound w := sound_empty.run ops
  have hone : OneDefault 0 w := oneDefault_run hproviders
  have hnow : OneDefault w.loopsMade w := ⟨Nat.le_refl _, hone.held, hone.last⟩
  refine ⟨fun loop => hsound.loopRefs_ne_zero_iff, fun a b loop other => hone.eq_of_held,
    fun a loop => hone.defaultLoop_of_held, neverHeld_of_unheld hproviders hsound hnow, ?_,
    w.rebinds_acquireDefault, ?_, fun name loop => rebinds_dropLoop,
    fun name id => hsound.rebinds_detach, fun name id => hsound.rebinds_dropSession⟩
  · intro op holder loop hgone hholds hdefault honly
    have hstep := hnow.step (provider_holdsNoDefault hproviders) op
    exact neverHeld_of_unheld hproviders (hsound.step op) hstep
      (hone.unheld_of_let_go hgone hholds hdefault honly)
  · intro name id s priority hname hs hl hp
    exact rebinds_attach_threadDefault hname hs hl hp priority

/-- Here two sessions share the default loop until one is detached and the other released; the next
default loop is another. -/
theorem one_default_loop_of_two_sessions :
    let ops : List Op := [.newSession "a" (some .threadDefault), .newSession "b" (some .threadDefault),
      .attach "a" none 0, .attach "b" none 1, .detach "a"]
    let w := run {} ops
    let next := (w.step (.dropSession "b")).world.defaultLoop.1
    w.defaultLoop = (⟨0, "default", true⟩, w) ∧ next.isDefault ∧ NeverHeld ops next := by
  intro ops w next
  have hproviders : ∀ name p, Op.newSession name (some p) ∈ ops → p.HoldsNoDefault := by
    intro name p hmem
    have hcases : name = "a" ∧ p = .threadDefault ∨ name = "b" ∧ p = .threadDefault := by
      simpa [ops] using hmem
    rcases hcases with ⟨-, rfl⟩ | ⟨-, rfl⟩ <;> exact Provider.holdsNoDefault_threadDefault
  obtain ⟨-, -, hheld, -, hlast, -, -, -, -, hdrop⟩ := one_default_loop ops hproviders
  have hholds : w.holds (.session 1) = some ⟨0, "default", true⟩ := by decide
  have honly : ∀ a, w.holds a = some ⟨0, "default", true⟩ → a = .session 1 := by
    intro a ha
    cases a with
    | handle name => cases ha
    | session id =>
      match id with
      | 0 => cases ha
      | 1 => rfl
      | n + 2 => cases ha
  exact ⟨hheld (.session 1) _ hholds rfl,
    hlast (.dropSession "b") (.session 1) _ (hdrop "b" 1 (by decide) (by decide)) hholds rfl honly⟩

end World

end RouterAdvert
