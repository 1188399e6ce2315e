import RouterAdvert.Proofs.Session.Exchange

/-!
# What happened since

A property of a session that some exchanges bring about and others end holds if it was brought about
and has not been ended since. `Evolves.iff_since` says this once for all such properties.
-/

namespace RouterAdvert

/-- Something happened in a history, and all that came after it kept to a condition. -/
def Since {α : Type} (happened kept : α → Prop) (history : List α) : Prop :=
  ∃ before e after, history = before ++ e :: after ∧ happened e ∧ ∀ later ∈ after, kept later

section

variable {α : Type} {happened kept : α → Prop}

@[simp] theorem since_nil : ¬Since happened kept [] := by
  rintro ⟨before, e, after, heq, -⟩
  simp at heq

@[simp] theorem since_cons {e : α} {rest : List α} :
    Since happened kept (e :: rest) ↔
      Since happened kept rest ∨ happened e ∧ ∀ later ∈ rest, kept later := by
  constructor
  · rintro ⟨before, found, after, heq, hfound, hafter⟩
    cases before with
    | nil =>
      cases heq
      exact .inr ⟨hfound, hafter⟩
    | cons first before =>
      cases heq
      exact .inl ⟨before, found, after, rfl, hfound, hafter⟩
  · rintro (⟨before, found, after, rfl, hfound, hafter⟩ | ⟨he, hrest⟩)
    · exact ⟨e :: before, found, after, rfl, hfound, hafter⟩
    · exact ⟨[], e, rest, rfl, he, hrest⟩

theorem since_append {before after : List α} :
    Since happened kept (before ++ after) ↔
      Since happened kept after ∨ Since happened kept before ∧ ∀ later ∈ after, kept later := by
  induction before with
  | nil => simp
  | cons e rest ih =>
    rw [List.cons_append, since_cons, since_cons, ih, List.forall_mem_append]
    grind

end

namespace Session

/-- The first exchange of a history is the answer of the session as it was before. -/
theorem Evolves.cons_inv {s t : Session} {e : Exchange} {rest : List Exchange}
    (h : Evolves s (e :: rest) t) :
    ∃ network, e.result = (s.answer network e.call).result ∧
      Evolves (s.answer network e.call).state rest t := by
  cases h with
  | cons network c hrest => exact ⟨network, rfl, hrest⟩

/-- Any part of a history leads to a session from which the rest goes on. -/
theorem Evolves.split {s t : Session} {before after : List Exchange}
    (h : Evolves s (before ++ after) t) : ∃ u, Evolves s before u ∧ Evolves u after t := by
  induction before generalizing s with
  | nil => exact ⟨s, .nil s, h⟩
  | cons e rest ih =>
    cases h with
    | cons network c hrest =>
      obtain ⟨u, hbefore, hafter⟩ := ih hrest
      exact ⟨u, .cons network c hbefore, hafter⟩

/-- A property that each answer brings about, ends or leaves alone, as its exchange says, holds
after a history if it was brought about and not ended since, or held before and was never ended. -/
theorem Evolves.iff_since {s t : Session} {es : List Exchange} (h : Evolves s es t)
    (P : Session → Prop) (happened kept : Exchange → Prop)
    (hanswer : ∀ network s c, P (s.answer network c).state ↔
      happened ⟨c, (s.answer network c).result⟩ ∨ P s ∧ kept ⟨c, (s.answer network c).result⟩) :
    P t ↔ Since happened kept es ∨ P s ∧ ∀ e ∈ es, kept e := by
  induction h with
  | nil s => simp
  | cons network c _ ih =>
    rw [ih, hanswer, since_cons, List.forall_mem_cons]
    grind

/-- A property that only some exchanges bring about, and that others end, holds after a history only
if it was brought about and not ended since, or held before and was never ended. -/
theorem Evolves.since_or {s t : Session} {es : List Exchange} (h : Evolves s es t)
    (P : Session → Prop) (happened kept : Exchange → Prop)
    (hanswer : ∀ network s c, P (s.answer network c).state →
      happened ⟨c, (s.answer network c).result⟩ ∨ P s ∧ kept ⟨c, (s.answer network c).result⟩)
    (ht : P t) : Since happened kept es ∨ P s ∧ ∀ e ∈ es, kept e := by
  induction h with
  | nil s => exact .inr ⟨ht, by simp⟩
  | cons network c _ ih =>
    rw [since_cons, List.forall_mem_cons]
    rcases ih ht with hsince | ⟨hnext, hkept⟩
    · exact .inl (.inl hsince)
    · rcases hanswer _ _ _ hnext with hhappened | ⟨hbefore, hkeeps⟩
      · exact .inl (.inr ⟨hhappened, hkept⟩)
      · exact .inr ⟨hbefore, hkeeps, hkept⟩

end Session

end RouterAdvert
