import Mathlib.Control.Monad.Basic
import RouterAdvert.Proofs.Session.Attachment
import RouterAdvert.Proofs.World.DefaultAttachment
import RouterAdvert.Proofs.World.Phases

/-!
# Attachments through runs

What a session was asked in a run decides which loop it has at the end of it, and which priority.
The replies alone do not: to ask for a default loop may be answered without any attachment, or be
refused although the provider has made one. `DefaultAttempt` says what it comes down to.
-/

namespace RouterAdvert

deriving instance DecidableEq for Exchange

namespace World

variable {w : World} {id : SessionId} {s : Session} {name : String}

/-- The exchanges that the calls of a provider come down to when it is asked for a loop. -/
def callbacks (w : World) (id : SessionId) (provider : Provider) : List Exchange :=
  { w with requests := w.requests + 1 }.exchangesOf id (provider.answer w.requests).calls

/-- What it comes down to that a session is asked to attach the default loop, and the reply. Only a
provider that offers a loop has it attached, or refused, after the calls that it made. -/
inductive DefaultAttempt (w : World) (id : SessionId) (s : Session) (priority : Int) :
    List Exchange → Reply → Prop
  | attached (loop : s.loop.isSome) : DefaultAttempt w id s priority [] (.failed .busy)
  | unprovided (loop : s.loop = none) (provider : s.provider = none) :
      DefaultAttempt w id s priority [] .done
  | failed {provider : Provider} {e : Error} (loop : s.loop = none)
      (asked : s.provider = some provider)
      (offer : (provider.answer w.requests).offer = .error e) :
      DefaultAttempt w id s priority (w.callbacks id provider) .done
  | offered {provider : Provider} {source : LoopSource} {t : Session} (loop : s.loop = none)
      (asked : s.provider = some provider)
      (offer : (provider.answer w.requests).offer = .ok source)
      (left : (w.asked id provider).session? id = some t) (found : EventLoop)
      (obtained : found = ((w.asked id provider).obtainLoop t.router.interface source).1)
      (result : Except Error Unit) :
      DefaultAttempt w id s priority
        (w.callbacks id provider ++ [⟨.attach found priority, result⟩]) (.of result)

theorem exchangesOf_append (h : w.session? id = some s) (before after : List (Call LoopSource)) :
    w.exchangesOf id (before ++ after) =
      w.exchangesOf id before ++ (w.callAll id before).1.exchangesOf id after := by
  induction before generalizing w s with
  | nil => rfl
  | cons c rest ih =>
    simp only [List.cons_append, exchangesOf, h]
    rw [ih (session?_call h c)]
    rfl

theorem reply_answer (r : World.Result) : r.answer.reply = .of r.result := by
  rw [Result.answer]
  cases r.result <;> rfl

/-- What a provider offers is attached, or refused, after the calls that it made. -/
theorem exchangesOf_offer (h : w.session? id = some s) (provider : Provider) (source : LoopSource)
    (priority : Int) :
    ∃ t, (w.asked id provider).session? id = some t ∧
      { w with requests := w.requests + 1 }.exchangesOf id
          ((provider.answer w.requests).calls ++ [Call.attach source priority]) =
        w.callbacks id provider ++
          [⟨.attach ((w.asked id provider).obtainLoop t.router.interface source).1 priority,
            ((w.asked id provider).attachFrom id source priority).result⟩] := by
  obtain ⟨t, ht, -⟩ := answers_asked h provider
  refine ⟨t, ht, ?_⟩
  have hrequested : ({ w with requests := w.requests + 1 } : World).session? id = some s := h
  rw [exchangesOf_append hrequested]
  apply congrArg (w.callbacks id provider ++ ·)
  change (w.asked id provider).exchangesOf id _ = _
  simp only [exchangesOf, ht]
  rfl

section Asked

variable (hname : w.sessionHandles.get? name = some id) (h : w.session? id = some s)

include hname h

theorem exchanges_attach_given {given : String} {loop : EventLoop}
    (hloop : w.loopHandles.get? given = some loop) (priority : Int) :
    ∃ result, w.exchanges id (.attach name (some given) priority) =
        [⟨.attach loop priority, result⟩] ∧
      (w.step (.attach name (some given) priority)).reply = .of result := by
  have hcall : w.call? (.attach name (some given) priority) =
      some (name, .attach (.given loop) priority) := by
    rw [call?, hloop]
    rfl
  refine ⟨(w.call id (.attach (.given loop) priority)).result, ?_, ?_⟩
  · rw [exchanges_of_call? hcall, if_pos hname]
    simp only [exchangesOf, h, received, Call.map, obtainLoop]
  · rw [step_of_named hcall hname, reply_answer]

theorem defaultAttempt (priority : Int) :
    DefaultAttempt w id s priority (w.exchanges id (.attach name none priority))
      (w.step (.attach name none priority)).reply := by
  have hexchanges : w.exchanges id (.attach name none priority) =
      w.defaultExchanges id priority := if_pos hname
  rw [hexchanges, step_attach_default hname, reply_answer]
  cases hl : s.loop with
  | some loop =>
    have hattached : s.loop.isSome := by rw [hl]; rfl
    rw [attachDefault_of_attached h hattached]
    simp only [defaultExchanges, h, hattached, if_true]
    exact .attached hattached
  | none =>
    cases hp : s.provider with
    | none =>
      rw [result_attachDefault_of_no_provider h hl hp]
      simp only [defaultExchanges, h, hl, hp, Option.isSome_none, Bool.false_eq_true, if_false]
      exact .unprovided hl hp
    | some provider =>
      have hcalls : w.defaultExchanges id priority =
          { w with requests := w.requests + 1 }.exchangesOf id
            ((provider.answer w.requests).allCalls priority) := by
        simp only [defaultExchanges, h, hl, hp, Option.isSome_none, Bool.false_eq_true, if_false]
      cases hoffer : (provider.answer w.requests).offer with
      | error e =>
        have hall : (provider.answer w.requests).allCalls priority =
            (provider.answer w.requests).calls := by
          rw [ProviderAnswer.allCalls, hoffer]
        rw [hcalls, hall, (attachDefault_of_failure h hl hp hoffer priority).1]
        exact .failed hl hp hoffer
      | ok source =>
        have hall : (provider.answer w.requests).allCalls priority =
            (provider.answer w.requests).calls ++ [.attach source priority] := by
          rw [ProviderAnswer.allCalls, hoffer]
        obtain ⟨t, ht, hmade⟩ := exchangesOf_offer h provider source priority
        rw [hcalls, hall, hmade, (attachDefault_of_offer h hl hp hoffer priority).1]
        exact .offered hl hp hoffer ht _ rfl _

end Asked

/-- After any run the loop and the priority of a session are what its last accepted attachment left;
so they are at each moment of its history, and the next exchange is as `AttachmentStep` tells. From
then on an attached session keeps both until it is detached, and the priority stays until another
attachment is accepted. To ask for a given loop is one exchange, and to ask for the default loop is
what `DefaultAttempt` tells: if the provider fails, nothing but its own calls. -/
theorem attachment_is_last_accepted (ops : List Op) (id : SessionId) (s : Session)
    (hlive : (run {} ops).session? id = some s) :
    let w := run {} ops
    let es := history {} id ops
    (∀ loop priority, LastAttachment es loop priority ↔ s.loop = loop ∧ s.priority = priority) ∧
      (∀ before e after, es = before ++ e :: after → ∃ provider t u,
        Session.Evolves { provider } before t ∧ LastAttachment before t.loop t.priority ∧
          t.AttachmentStep e u ∧ u.Evolves after s) ∧
      (∀ more t, (w.run more).session? id = some t →
        ((∀ e ∈ w.history id more, e.call ≠ .detach) → s.loop.isSome →
          t.loop = s.loop ∧ t.priority = s.priority) ∧
        ((∀ e ∈ w.history id more, ¬e.Attaches) → t.priority = s.priority)) ∧
      ∀ name priority, w.sessionHandles.get? name = some id →
        (∀ given loop, w.loopHandles.get? given = some loop → ∃ result,
          w.exchanges id (.attach name (some given) priority) =
              [⟨.attach loop priority, result⟩] ∧
            (w.step (.attach name (some given) priority)).reply = .of result) ∧
        DefaultAttempt w id s priority (w.exchanges id (.attach name none priority))
          (w.step (.attach name none priority)).reply := by
  intro w es
  obtain ⟨provider, hevolves⟩ := evolves_from_new (w := {}) rfl hlive
  refine ⟨fun loop priority => hevolves.lastAttachment_of_new.iff, ?_, ?_, ?_⟩
  · intro before e after hes
    have hsplit : Session.Evolves { provider } (before ++ e :: after) s := hes ▸ hevolves
    obtain ⟨t, hbefore, hrest⟩ := hsplit.split
    obtain ⟨network, hresult, hafter⟩ := hrest.cons_inv
    have hstep := Session.attachmentStep_answer network t e.call
    rw [← hresult] at hstep
    exact ⟨provider, t, _, hbefore, hbefore.lastAttachment_of_new, hstep, hafter⟩
  · intro more t ht
    have hmore := evolves_of_live_at_end hlive ht
    exact ⟨hmore.keeps_loop, hmore.keeps_priority⟩
  · intro name priority hname
    exact ⟨fun given loop hloop => exchanges_attach_given hname hlive hloop priority,
      defaultAttempt hname hlive priority⟩

/-- Here the provider attaches a loop and then fails, which is no error; the attachment that follows
is refused, and a detachment takes the loop and leaves the priority. The next time the provider
attaches a loop before it offers another one, which is refused. -/
theorem attachment_is_last_accepted_of_callbacks :
    let provider : Provider := {
      answer := fun request => {
        calls := [.attach (.fresh "spare") (request + 3)]
        offer := if request = 0 then .error (.notReady (.because "late")) else .ok (.fresh "main") } }
    let ops : List Op := [.newSession "s" (some provider), .attach "s" none 7, .newLoop "e" "other",
      .attach "s" (some "e") 8, .detach "s"]
    let again := ops ++ [.attach "s" none 9, .stop "s"]
    (∃ s, (run {} ops).session? 0 = some s ∧ s.loop = none ∧ s.priority = 3) ∧
      ∃ s, (run {} again).session? 0 = some s ∧ s.loop = some ⟨2, "spare", false⟩ ∧
        s.priority = 4 := by
  intro provider ops again
  have hlive : ((run {} ops).session? 0).isSome ∧ ((run {} again).session? 0).isSome := by decide
  simp only [Option.isSome_iff_exists] at hlive
  obtain ⟨⟨s, hs⟩, ⟨t, ht⟩⟩ := hlive
  have hhistory : history {} 0 ops = [] ++ ⟨.attach ⟨0, "spare", false⟩ 3, .ok ()⟩ ::
      [⟨.attach ⟨1, "other", false⟩ 8, .error .busy⟩, ⟨.detach, .ok ()⟩] := by
    decide +kernel
  have hagain : history {} 0 again = history {} 0 ops ++ ⟨.attach ⟨2, "spare", false⟩ 4, .ok ()⟩ ::
      [⟨.attach ⟨3, "main", false⟩ 9, .error .busy⟩, ⟨.stop, .ok ()⟩] := by
    decide +kernel
  refine ⟨⟨s, hs, ?_⟩, ⟨t, ht, ?_⟩⟩
  · apply ((attachment_is_last_accepted ops 0 s hs).1 _ _).mp
    exact .released hhistory (by simp [Exchange.Attaches]) (by simp)
  · apply ((attachment_is_last_accepted again 0 t ht).1 _ _).mp
    exact .held hagain (by simp [Exchange.Attaches]) (by simp)

end World

end RouterAdvert
