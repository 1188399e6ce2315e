import RouterAdvert.World.Step

/-!
# Attempts

An attempt stops at the first operation that fails, and up to there it is a run. It succeeds exactly
if all operations are accepted, each in the world that the ones before it lead to.
-/

namespace RouterAdvert.World

theorem run_append (w : World) (before after : List Op) :
    w.run (before ++ after) = (w.run before).run after := by
  induction before generalizing w with
  | nil => rfl
  | cons op rest ih => exact ih (w.step op).world

/-- Whether an operation does not fail. -/
def Accepts (w : World) (op : Op) : Prop := ∀ e, (w.step op).reply ≠ .failed e

def AcceptsAll (w : World) : List Op → Prop
  | [] => True
  | op :: rest => w.Accepts op ∧ (w.step op).world.AcceptsAll rest

theorem acceptsAll_append (w : World) (before after : List Op) :
    w.AcceptsAll (before ++ after) ↔ w.AcceptsAll before ∧ (w.run before).AcceptsAll after := by
  induction before generalizing w with
  | nil => simp [AcceptsAll, run]
  | cons op rest ih =>
    simp only [List.cons_append, AcceptsAll, run, ih]
    rw [and_assoc]

theorem attempt_cons_of_accepts {w : World} {op : Op} (h : w.Accepts op) (rest : List Op) :
    (w.attempt (op :: rest)).result = ((w.step op).world.attempt rest).result ∧
      (w.attempt (op :: rest)).state = ((w.step op).world.attempt rest).state := by
  simp only [attempt]
  cases hreply : (w.step op).reply with
  | failed e => exact absurd hreply (h e)
  | done | nothing | unknownHandle => exact ⟨rfl, rfl⟩

theorem attempt_ok_iff (w : World) (ops : List Op) :
    (w.attempt ops).result = .ok () ↔ w.AcceptsAll ops := by
  induction ops generalizing w with
  | nil => simp [attempt, AcceptsAll]
  | cons op rest ih =>
    cases hreply : (w.step op).reply with
    | failed e => simp [attempt, hreply, AcceptsAll, Accepts]
    | done | nothing | unknownHandle =>
      have haccepts : w.Accepts op := by
        intro e he
        rw [hreply] at he
        cases he
      rw [(attempt_cons_of_accepts haccepts rest).1, ih, AcceptsAll]
      exact (and_iff_right haccepts).symm

theorem state_attempt {w : World} {ops : List Op} (h : w.AcceptsAll ops) :
    (w.attempt ops).state = w.run ops := by
  induction ops generalizing w with
  | nil => rfl
  | cons op rest ih =>
    rw [(attempt_cons_of_accepts h.1 rest).2]
    exact ih h.2

theorem attempt_singleton {w : World} {op : Op} (h : w.Accepts op) :
    (w.attempt [op]).result = .ok () ∧ (w.attempt [op]).state = (w.step op).world :=
  attempt_cons_of_accepts h []

theorem attempt_cons_of_failed {w : World} {op : Op} {e : Error} (h : (w.step op).reply = .failed e)
    (rest : List Op) :
    (w.attempt (op :: rest)).result = .error e ∧
      (w.attempt (op :: rest)).state = (w.step op).world := by
  simp [attempt, h]

theorem accepts_or_failed (w : World) (op : Op) :
    w.Accepts op ∨ ∃ e, (w.step op).reply = .failed e := by
  rw [Accepts, ← not_exists]
  exact (Classical.em _).symm

theorem attempt_append_of_acceptsAll {w : World} {before : List Op} (h : w.AcceptsAll before)
    (after : List Op) :
    (w.attempt (before ++ after)).result = ((w.run before).attempt after).result ∧
      (w.attempt (before ++ after)).state = ((w.run before).attempt after).state := by
  induction before generalizing w with
  | nil => exact ⟨rfl, rfl⟩
  | cons op rest ih =>
    obtain ⟨hresult, hstate⟩ := attempt_cons_of_accepts h.1 (rest ++ after)
    obtain ⟨hresult', hstate'⟩ := ih h.2
    exact ⟨hresult.trans hresult', hstate.trans hstate'⟩

theorem attempt_append_of_error {w : World} {before : List Op} {e : Error}
    (h : (w.attempt before).result = .error e) (after : List Op) :
    (w.attempt (before ++ after)).result = .error e ∧
      (w.attempt (before ++ after)).state = (w.attempt before).state := by
  induction before generalizing w with
  | nil => cases h
  | cons op rest ih =>
    rcases accepts_or_failed w op with haccepts | ⟨cause, hfailed⟩
    · obtain ⟨hresult, hstate⟩ := attempt_cons_of_accepts haccepts rest
      obtain ⟨hresult', hstate'⟩ := attempt_cons_of_accepts haccepts (rest ++ after)
      rw [hresult] at h
      rw [List.cons_append, hresult', hstate', hstate]
      exact ih h
    · obtain ⟨hresult, hstate⟩ := attempt_cons_of_failed hfailed rest
      obtain ⟨hresult', hstate'⟩ := attempt_cons_of_failed hfailed (rest ++ after)
      cases hresult.symm.trans h
      exact ⟨hresult', hstate'.trans hstate.symm⟩

theorem accepts_iff_of_answer {w : World} {op : Op} {r : World.Result} (h : w.step op = r.answer) :
    w.Accepts op ↔ r.result = .ok () := by
  rw [Accepts, h, Result.answer]
  cases r.result with
  | ok => simp
  | error e => simp

theorem accepts_of_done {w : World} {op : Op} (h : (w.step op).reply = .done) : w.Accepts op := by
  intro e he
  rw [h] at he
  cases he

end RouterAdvert.World
