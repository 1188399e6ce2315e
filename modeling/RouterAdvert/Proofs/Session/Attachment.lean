import RouterAdvert.Proofs.Session.Phase

/-!
# The last attachment

A session keeps the loop and the priority of the last attachment that it accepted. A detachment
takes the loop and leaves the priority; whatever else is asked of the session changes neither. It
accepts an attachment only while it has no loop, so that one loop gives way to another only by a
detachment.
-/

namespace RouterAdvert

/-- The loop and the priority that a history leaves a new session with: those of the last attachment
that was accepted, or no loop if a detachment came after it. -/
inductive LastAttachment (es : List Exchange) : Option EventLoop → Int → Prop
  | never (refused : ∀ e ∈ es, ¬e.Attaches) : LastAttachment es none 0
  | held {before after : List Exchange} {loop : EventLoop} {priority : Int}
      (history : es = before ++ ⟨.attach loop priority, .ok ()⟩ :: after)
      (last : ∀ e ∈ after, ¬e.Attaches) (kept : ∀ e ∈ after, e.call ≠ .detach) :
      LastAttachment es (some loop) priority
  | released {before after : List Exchange} {loop : EventLoop} {priority : Int}
      (history : es = before ++ ⟨.attach loop priority, .ok ()⟩ :: after)
      (last : ∀ e ∈ after, ¬e.Attaches) (detached : ∃ e ∈ after, e.call = .detach) :
      LastAttachment es none priority

theorem Exchange.attaches_attach (loop : EventLoop) (priority : Int) :
    Exchange.Attaches ⟨.attach loop priority, .ok ()⟩ := ⟨⟨loop, priority, rfl⟩, rfl⟩

namespace LastAttachment

variable {es : List Exchange} {loop : Option EventLoop} {priority : Int} {e : Exchange}

private theorem forall_mem_concat {P : Exchange → Prop} {after : List Exchange}
    (hafter : ∀ later ∈ after, P later) (he : P e) : ∀ later ∈ after ++ [e], P later := by
  rw [List.forall_mem_append, List.forall_mem_singleton]
  exact ⟨hafter, he⟩

private theorem history_concat {before after : List Exchange} {first : Exchange}
    (h : es = before ++ first :: after) : es ++ [e] = before ++ first :: (after ++ [e]) := by
  rw [h, List.append_assoc, List.cons_append]

theorem attach (es : List Exchange) (loop : EventLoop) (priority : Int) :
    LastAttachment (es ++ [⟨.attach loop priority, .ok ()⟩]) (some loop) priority := by
  have hhistory : es ++ [⟨.attach loop priority, .ok ()⟩] =
      es ++ ⟨.attach loop priority, .ok ()⟩ :: ([] : List Exchange) := rfl
  apply held hhistory <;> simp

theorem detach (h : LastAttachment es loop priority) (hdetach : e.call = .detach) :
    LastAttachment (es ++ [e]) none priority := by
  have hnot : ¬e.Attaches := by
    rintro ⟨⟨loop, priority, hattach⟩, -⟩
    cases hdetach.symm.trans hattach
  have hmem : ∀ after : List Exchange, ∃ later ∈ after ++ [e], later.call = .detach := fun after =>
    ⟨e, List.mem_append_right _ (List.mem_singleton_self e), hdetach⟩
  cases h with
  | never refused => exact never (forall_mem_concat refused hnot)
  | held history last kept =>
    exact released (history_concat history) (forall_mem_concat last hnot) (hmem _)
  | released history last detached =>
    exact released (history_concat history) (forall_mem_concat last hnot) (hmem _)

theorem other (h : LastAttachment es loop priority) (hattach : ¬e.Attaches)
    (hdetach : e.call ≠ .detach) : LastAttachment (es ++ [e]) loop priority := by
  cases h with
  | never refused => exact never (forall_mem_concat refused hattach)
  | held history last kept =>
    exact held (history_concat history) (forall_mem_concat last hattach)
      (forall_mem_concat kept hdetach)
  | released history last detached =>
    obtain ⟨later, hmem, hcall⟩ := detached
    exact released (history_concat history) (forall_mem_concat last hattach)
      ⟨later, List.mem_append_left _ hmem, hcall⟩

private theorem last_unique {before after before' after' : List Exchange}
    {loop loop' : EventLoop} {priority priority' : Int}
    (heq : before ++ ⟨.attach loop priority, .ok ()⟩ :: after =
      before' ++ ⟨.attach loop' priority', .ok ()⟩ :: after')
    (hafter : ∀ e ∈ after, ¬e.Attaches) (hafter' : ∀ e ∈ after', ¬e.Attaches) :
    loop = loop' ∧ priority = priority' ∧ after = after' := by
  rcases List.append_eq_append_iff.mp heq with ⟨more, -, hmore⟩ | ⟨more, -, hmore⟩
  · cases more with
    | nil => cases hmore; exact ⟨rfl, rfl, rfl⟩
    | cons first rest =>
      obtain ⟨-, rfl⟩ := List.cons.inj hmore
      exact absurd (Exchange.attaches_attach loop' priority') (hafter _ (by simp))
  · cases more with
    | nil => cases hmore; exact ⟨rfl, rfl, rfl⟩
    | cons first rest =>
      obtain ⟨-, rfl⟩ := List.cons.inj hmore
      exact absurd (Exchange.attaches_attach loop priority) (hafter' _ (by simp))

private theorem not_all_refused {before after : List Exchange} {stored : EventLoop}
    (history : es = before ++ ⟨.attach stored priority, .ok ()⟩ :: after) :
    ¬∀ e ∈ es, ¬e.Attaches := by
  intro hrefused
  apply hrefused ⟨.attach stored priority, .ok ()⟩ _ (Exchange.attaches_attach stored priority)
  rw [history]
  exact List.mem_append_right _ List.mem_cons_self

theorem of_history {before after : List Exchange} {stored : EventLoop} {priority' : Int}
    (h : LastAttachment es loop priority')
    (history : es = before ++ ⟨.attach stored priority, .ok ()⟩ :: after)
    (last : ∀ e ∈ after, ¬e.Attaches) :
    priority' = priority ∧ (loop = some stored ∧ (∀ e ∈ after, e.call ≠ .detach) ∨
      loop = none ∧ ∃ e ∈ after, e.call = .detach) := by
  cases h with
  | never refused => exact absurd refused (not_all_refused history)
  | held history' last' kept =>
    obtain ⟨rfl, rfl, rfl⟩ := last_unique (history'.symm.trans history) last' last
    exact ⟨rfl, .inl ⟨rfl, kept⟩⟩
  | released history' last' detached =>
    obtain ⟨-, rfl, rfl⟩ := last_unique (history'.symm.trans history) last' last
    exact ⟨rfl, .inr ⟨rfl, detached⟩⟩

theorem iff {loop' : Option EventLoop} {priority' : Int} (h : LastAttachment es loop priority) :
    LastAttachment es loop' priority' ↔ loop = loop' ∧ priority = priority' := by
  constructor
  · intro h'
    cases h' with
    | never refused =>
      cases h with
      | never => exact ⟨rfl, rfl⟩
      | held history | released history => exact absurd refused (not_all_refused history)
    | held history last kept =>
      obtain ⟨hpriority, ⟨hloop, -⟩ | ⟨-, e, hmem, hdetach⟩⟩ := h.of_history history last
      · exact ⟨hloop, hpriority⟩
      · exact absurd hdetach (kept e hmem)
    | released history last detached =>
      obtain ⟨hpriority, ⟨-, hkept⟩ | ⟨hloop, -⟩⟩ := h.of_history history last
      · obtain ⟨e, hmem, hdetach⟩ := detached
        exact absurd hdetach (hkept e hmem)
      · exact ⟨hloop, hpriority⟩
  · rintro ⟨rfl, rfl⟩
    exact h

end LastAttachment

namespace Session

variable {network : PrefixId → Prefix} {s t : Session} {es : List Exchange}

/-- What an exchange in a history does to the loop and the priority: an attachment is accepted
exactly by a session without a loop, and stores both; a detachment takes the loop. -/
structure AttachmentStep (s : Session) (e : Exchange) (t : Session) : Prop where
  accepted : ∀ loop priority, e.call = .attach loop priority → s.loop = none →
    e.result = .ok () ∧ t = { s with loop := some loop, priority }
  refused : ∀ loop priority, e.call = .attach loop priority → s.loop.isSome →
    e.result = .error .busy ∧ t = s
  detached : e.call = .detach → e.result = .ok () ∧ t = { s with loop := none }
  other : (∀ loop priority, e.call ≠ .attach loop priority) → e.call ≠ .detach →
    t.loop = s.loop ∧ t.priority = s.priority

theorem Effect.keeps_attachment {c : Call EventLoop} {r : Except Error Unit}
    (h : Effect network s c t r) (hattach : ∀ loop priority, c ≠ .attach loop priority)
    (hdetach : c ≠ .detach) : t.loop = s.loop ∧ t.priority = s.priority := by
  cases h with
  | attached detached => exact absurd rfl (hattach _ _)
  | detached => exact absurd rfl hdetach
  | refused | started | stopped | stored | preferred | added => exact ⟨rfl, rfl⟩

theorem attachmentStep_answer (network : PrefixId → Prefix) (s : Session) (c : Call EventLoop) :
    AttachmentStep s ⟨c, (s.answer network c).result⟩ (s.answer network c).state where
  accepted := by
    rintro loop priority rfl hloop
    simp only [answer, attach, hloop, and_self]
  refused := by
    rintro loop priority rfl hloop
    obtain ⟨found, hfound⟩ := Option.isSome_iff_exists.mp hloop
    simp only [answer, attach, hfound, Outcome.fail, and_self]
  detached := by
    rintro rfl
    exact ⟨rfl, rfl⟩
  other := (effect_answer network s c).keeps_attachment

section Step

variable {e : Exchange} (h : AttachmentStep s e t)

include h

/-- Only an attachment that is accepted and a detachment count. -/
theorem AttachmentStep.keeps (hattach : ¬e.Attaches) (hdetach : e.call ≠ .detach) :
    t.loop = s.loop ∧ t.priority = s.priority := by
  by_cases hcall : ∃ loop priority, e.call = .attach loop priority
  · obtain ⟨loop, priority, hcall⟩ := hcall
    cases hloop : s.loop with
    | none => exact absurd ⟨⟨loop, priority, hcall⟩, (h.accepted loop priority hcall hloop).1⟩ hattach
    | some found =>
      rw [(h.refused loop priority hcall (by rw [hloop]; rfl)).2]
      exact ⟨hloop, rfl⟩
  · apply h.other _ hdetach
    intro loop priority heq
    exact hcall ⟨loop, priority, heq⟩

theorem AttachmentStep.of_attaches (hattach : e.Attaches) : s.loop = none := by
  obtain ⟨⟨loop, priority, hcall⟩, hok⟩ := hattach
  cases hloop : s.loop with
  | none => rfl
  | some found =>
    have hbusy := (h.refused loop priority hcall (by rw [hloop]; rfl)).1
    cases hok.symm.trans hbusy

theorem AttachmentStep.lastAttachment (hs : LastAttachment es s.loop s.priority) :
    LastAttachment (es ++ [e]) t.loop t.priority := by
  by_cases hattach : e.Attaches
  · have hloop := h.of_attaches hattach
    obtain ⟨⟨loop, priority, hcall⟩, hok⟩ := hattach
    have he : e = ⟨.attach loop priority, .ok ()⟩ := by rw [← hcall, ← hok]
    rw [(h.accepted loop priority hcall hloop).2, he]
    exact .attach es loop priority
  · by_cases hdetach : e.call = .detach
    · rw [(h.detached hdetach).2]
      exact hs.detach hdetach
    · obtain ⟨hloop, hpriority⟩ := h.keeps hattach hdetach
      rw [hloop, hpriority]
      exact hs.other hattach hdetach

end Step

/-- A history leaves a session with what its last attachment makes of it. -/
theorem Evolves.lastAttachment (h : Evolves s es t) (before : List Exchange)
    (hs : LastAttachment before s.loop s.priority) :
    LastAttachment (before ++ es) t.loop t.priority := by
  induction h generalizing before with
  | nil s =>
    rw [List.append_nil]
    exact hs
  | @cons s t rest network c _ ih =>
    rw [List.append_cons]
    exact ih _ ((attachmentStep_answer network s c).lastAttachment hs)

theorem Evolves.lastAttachment_of_new {provider : Option Provider} (h : Evolves { provider } es t) :
    LastAttachment es t.loop t.priority :=
  h.lastAttachment [] (.never (by simp))

theorem Evolves.keeps_loop (h : Evolves s es t) (hdetach : ∀ e ∈ es, e.call ≠ .detach)
    (hloop : s.loop.isSome) : t.loop = s.loop ∧ t.priority = s.priority := by
  induction h with
  | nil s => exact ⟨rfl, rfl⟩
  | @cons s t rest network c _ ih =>
    obtain ⟨hfirst, hrest⟩ := List.forall_mem_cons.mp hdetach
    have hstep := attachmentStep_answer network s c
    have hattach : ¬Exchange.Attaches ⟨c, (s.answer network c).result⟩ := by
      intro hattach
      rw [hstep.of_attaches hattach] at hloop
      cases hloop
    obtain ⟨hnext, hpriority⟩ := hstep.keeps hattach hfirst
    rw [← hnext, ← hpriority]
    rw [← hnext] at hloop
    exact ih hrest hloop

theorem Evolves.keeps_priority (h : Evolves s es t) (hattach : ∀ e ∈ es, ¬e.Attaches) :
    t.priority = s.priority := by
  induction h with
  | nil s => rfl
  | @cons s t rest network c _ ih =>
    obtain ⟨hfirst, hrest⟩ := List.forall_mem_cons.mp hattach
    have hstep := attachmentStep_answer network s c
    rw [ih hrest]
    by_cases hdetach : c = .detach
    · rw [(hstep.detached hdetach).2]
    · exact (hstep.keeps hfirst hdetach).2

end Session

end RouterAdvert
