import RouterAdvert.Proofs.Session.LastWrite
import RouterAdvert.Proofs.World.Phases

/-!
# Router parameters through runs

After any run the parameters of a session are what the calls of their setters made them, and these
were accepted or refused by the phase and the preference at that moment. So the whole configuration
of a router is a function of what was asked of it.
-/

namespace RouterAdvert.World

variable {w : World} {id : SessionId} {s : Session} {name : String}

/-- The reply to an operation that makes one call is what the named session answers. -/
theorem reply_of_named {op : Op} {c : Call LoopSource} (hc : w.call? op = some (name, c))
    (hname : w.sessionHandles.get? name = some id) (h : w.session? id = some s) :
    (w.step op).reply = .of (s.answer w.network (w.received s c)).result := by
  rw [step_of_named hc hname, ← result_call h c]
  rfl

/-- After any run each router parameter of a session is what was last written to it, or the initial
value. At each moment of the history the session `t` is what was written until then, and the call
that comes next is accepted or refused as `SaysToWrite` tells; at the end of the run, so is a call
through any handle. -/
theorem parameters_are_last_accepted_writes (ops : List Op) (id : SessionId) (s : Session)
    (hlive : (run {} ops).session? id = some s) :
    let w := run {} ops
    let es := history {} id ops
    (∀ p : Parameter, p.get s.router = p.lastWritten es) ∧
      (∀ before e after, es = before ++ e :: after → ∃ provider t,
        Session.Evolves { provider } before t ∧ t.Evolves (e :: after) s ∧
          (∀ p : Parameter, p.get t.router = p.lastWritten before) ∧
          (t.phase = .advertising ↔ Started before) ∧ t.SaysToWrite e) ∧
      ∀ name, w.sessionHandles.get? name = some id →
        (∀ setting, ∃ result, s.SaysToSetting setting result ∧
          (w.step (.set name setting)).reply = .of result) ∧
        ∀ preference, (w.step (.prefer name preference)).reply = .done := by
  intro w es
  obtain ⟨provider, hevolves⟩ := evolves_from_new (w := {}) rfl hlive
  refine ⟨hevolves.get_eq_lastWritten, ?_, ?_⟩
  · intro before e after hes
    have hsplit : Session.Evolves { provider } (before ++ e :: after) s := hes ▸ hevolves
    exact ⟨provider, hsplit.write_moment⟩
  · intro name hname
    constructor
    · intro setting
      exact ⟨_, s.saysToSetting setting, reply_of_named (c := .set setting) rfl hname hlive⟩
    · intro preference
      exact reply_of_named (c := .prefer preference) rfl hname hlive

/-- Here a provider writes the lifetime and the hop limit while the session is attached. A zero
lifetime and an MTU are refused before that, a hop limit and a zero link address come too late. -/
theorem parameters_are_last_accepted_writes_of_callbacks :
    let provider : Provider := {
      answer := fun _ => {
        calls := [.set (.lifetime 1800), .set (.hopLimit 9), .set (.hopLimit 64)]
        offer := .ok (.fresh "spare") } }
    let ops : List Op := [.newSession "s" (some provider), .set "s" (.interface 2),
      .set "s" (.mtu 1000), .set "s" (.linkAddress (some .zero)), .prefer "s" .low,
      .set "s" (.lifetime 0), .attach "s" none 0, .start "s", .set "s" (.hopLimit 1),
      .prefer "s" .high]
    let w := run {} ops
    ∃ s, w.session? 0 = some s ∧ s.router.interface = 2 ∧ s.router.linkAddress = none ∧
      s.router.mtu = none ∧ s.router.hopLimit = 64 ∧ s.router.lifetime = 1800 ∧
      s.router.flags.preference = .high ∧
      (w.step (.set "s" (.mtu 1000))).reply = .failed (.outOfRange (.mtu 1000)) ∧
      (w.step (.set "s" (.lifetime 0))).reply = .failed .busy := by
  intro provider ops w
  have hsession : ((w.session? 0).map fun s => s.phase) = some .advertising := by decide
  obtain ⟨s, hlive, hphase⟩ := Option.map_eq_some_iff.mp hsession
  obtain ⟨hwritten, -, hhandles⟩ := parameters_are_last_accepted_writes ops 0 s hlive
  obtain ⟨hset, -⟩ := hhandles "s" (by decide)
  obtain ⟨_, hmtu, hmtuReply⟩ := hset (.mtu 1000)
  obtain ⟨cause, hcause, hrange⟩ := hmtu.out_of_range (by decide)
  cases hcause
  obtain ⟨_, hlifetime, hlifetimeReply⟩ := hset (.lifetime 0)
  refine ⟨s, hlive, (hwritten .interface).trans ?_, (hwritten .linkAddress).trans ?_,
    (hwritten .mtu).trans ?_, (hwritten .hopLimit).trans ?_, (hwritten .lifetime).trans ?_,
    (hwritten .preference).trans ?_, hmtuReply.trans (congrArg Reply.of hrange),
    hlifetimeReply.trans (congrArg Reply.of (hlifetime.busy trivial hphase))⟩
  all_goals decide

end RouterAdvert.World
