import Mathlib.Data.List.Chain
import RouterAdvert.Proofs.Session.Phase

/-!
# What a session logs

Some of the events that a session logs announce a phase or the size of its set, or report an
addition. `Speech` says once what a call can log, and `Told` what the log of any exchanges tells
about them and about the session that they lead to. From the log of a new session alone its phase
and the number of its prefixes can be read off.
-/

namespace RouterAdvert

namespace Log.Event

def phase? : Event → Option Phase
  | .started .. => some .advertising
  | .stopping .. => some .idle
  | _ => none

def count? : Event → Option Nat
  | .added _ count => some count
  | _ => none

def addition? : Event → Option (Except Error Unit)
  | .added .. => some (.ok ())
  | .overlapIgnored existing candidate => some (.error (.overlap candidate existing))
  | _ => none

def isRelease : Event → Bool
  | .released .. => true
  | _ => false

/-- By which of their messages the lines of a log are told apart, and what values stand in the lines
about a session: its interface, the number of its prefixes, and the size of its set. -/
structure Worded (e : Event) : Prop where
  started : e.phase? = some .advertising ↔
    e.message = "Started IPv6 Router Advertisement daemon"
  stopping : e.phase? = some .idle ↔ e.message = "Stopping IPv6 Router Advertisement daemon"
  added : e.addition? = some (.ok ()) ↔ e.message = "Added prefix"
  counted : e.message = "Added prefix" ↔ ∃ count : Nat, e.count? = some count ∧
    ("count", .number count) ∈ e.values
  ignored : (∃ cause, e.addition? = some (.error cause)) ↔
    e.message = "IPv6 prefix already configured, ignoring"
  released : e.isRelease = true ↔ e.message = "Releasing Router Advertisement session"
  sized : ∀ interface prefixes, e = .started interface prefixes ∨ e = .released interface prefixes →
    e.values = [("ifindex", .number interface.toInt), ("prefixes", .number prefixes)]
  placed : ∀ interface, e = .stopping interface →
    e.values = [("ifindex", .number interface.toInt)]

theorem worded (e : Event) : e.Worded where
  started := by cases e <;> simp [phase?, message]
  stopping := by cases e <;> simp [phase?, message]
  added := by cases e <;> simp [addition?, message]
  counted := by cases e <;> simp [count?, message, values]
  ignored := by cases e <;> simp [addition?, message]
  released := by cases e <;> simp [isRelease, message]
  sized := by rintro _ _ (rfl | rfl) <;> rfl
  placed := by
    rintro _ rfl
    rfl

/-- An event that has nothing to do with phases, sets and the end of a session. -/
structure IsAside (e : Event) : Prop where
  phase : e.phase? = none
  count : e.count? = none
  addition : e.addition? = none
  release : e.isRelease = false

theorem isAside_attached (loop : String) (priority : Int) : (attached loop priority).IsAside :=
  ⟨rfl, rfl, rfl, rfl⟩

theorem isAside_preferenceHidden (preference : Preference) :
    (preferenceHidden preference).IsAside := ⟨rfl, rfl, rfl, rfl⟩

theorem isAside_stayedDetached (e : Error) : (stayedDetached e).IsAside := ⟨rfl, rfl, rfl, rfl⟩

end Log.Event

namespace Exchange

/-- The phase that an exchange leads to, if it is not the one before. -/
def turn? (before : Phase) (e : Exchange) : Option Phase :=
  match e.call, e.result, before with
  | .start, .ok (), .idle => some .advertising
  | .stop, _, .advertising => some .idle
  | _, _, _ => none

def addition? (e : Exchange) : Option (Except Error Unit) :=
  match e.call with
  | .add _ => some e.result
  | _ => none

theorem ne_of_turn? {before phase : Phase} {e : Exchange} (h : e.turn? before = some phase) :
    before ≠ phase := by
  unfold turn? at h
  split at h <;> cases h <;> simp

end Exchange

namespace Phase

/-- The phases that exchanges lead to one after the other, each from the one before. -/
def turns : Phase → List Exchange → List Phase
  | _, [] => []
  | before, e :: rest =>
    match e.turn? before with
    | none => turns before rest
    | some phase => phase :: turns phase rest

theorem isChain_turns (before : Phase) (es : List Exchange) :
    (before :: before.turns es).IsChain (· ≠ ·) := by
  induction es generalizing before with
  | nil => exact .singleton before
  | cons e rest ih =>
    rw [turns]
    cases hturn : e.turn? before with
    | none => exact ih before
    | some phase => exact .cons_cons (Exchange.ne_of_turn? hturn) (ih phase)

theorem turns_append (before : Phase) (es later : List Exchange) :
    before.turns (es ++ later) =
      before.turns es ++ ((before.turns es).getLastD before).turns later := by
  induction es generalizing before with
  | nil => rfl
  | cons e rest ih =>
    rw [List.cons_append, turns, turns]
    cases e.turn? before with
    | none => exact ih before
    | some phase => simp only [List.getLastD_cons, List.cons_append, ih phase]

theorem turns_singleton (before : Phase) (e : Exchange) :
    before.turns [e] = (e.turn? before).toList := by
  rw [turns]
  cases e.turn? before <;> rfl

end Phase

private theorem getLastD_append {α : Type} (xs ys : List α) (a : α) :
    (xs ++ ys).getLastD a = ys.getLastD (xs.getLastD a) := by
  induction xs generalizing a with
  | nil => rfl
  | cons x rest ih => rw [List.cons_append, List.getLastD_cons, List.getLastD_cons, ih]

namespace Session

/-- What a call leads to and what it logs. Whatever is not logged by a start, a stop or an addition
is an aside. -/
inductive Speech (network : PrefixId → Prefix) (s : Session) :
    Call EventLoop → Outcome Session Log.Event → Prop
  | started (idle : s.phase = .idle) :
      Speech network s .start {
        state := { s with phase := .advertising }
        log := [.started s.router.interface s.members.length] }
  | stopping (advertising : s.phase = .advertising) :
      Speech network s .stop {
        state := { s with phase := .idle }
        log := [.stopping s.router.interface] }
  | added {candidate : PrefixId} :
      Speech network s (.add candidate) {
        state := { s with members := s.members ++ [candidate] }
        log := [.added (network candidate) (s.members.length + 1)] }
  | ignored {candidate existing : PrefixId} :
      Speech network s (.add candidate) {
        state := s
        result := .error (.overlap (network candidate) (network existing))
        log := [.overlapIgnored (network existing) (network candidate)] }
  | aside {c : Call EventLoop} {o : Outcome Session Log.Event}
      (call : ∀ candidate, c ≠ .add candidate)
      (turn : Exchange.turn? s.phase ⟨c, o.result⟩ = none)
      (phase : o.state.phase = s.phase) (members : o.state.members = s.members)
      (log : ∀ event ∈ o.log, event.IsAside) : Speech network s c o

/-- A start that fails, and one of a session that advertises already, log nothing. -/
theorem speech_start (network : PrefixId → Prefix) (s : Session) :
    Speech network s .start s.start := by
  unfold start
  by_cases hloop : s.loop.isNone
  · rw [if_pos hloop]
    exact .aside (by simp) rfl rfl rfl (by simp [Outcome.fail])
  · rw [if_neg hloop]
    by_cases hinterface : s.router.interface ≤ 0
    · rw [if_pos hinterface]
      exact .aside (by simp) rfl rfl rfl (by simp [Outcome.fail])
    · rw [if_neg hinterface]
      cases hphase : s.phase with
      | idle => exact .started hphase
      | advertising => exact .aside (by simp) (by rw [hphase]; rfl) rfl rfl (by simp)

theorem speech_stop (network : PrefixId → Prefix) (s : Session) :
    Speech network s .stop s.stop := by
  unfold stop
  cases hphase : s.phase with
  | advertising => exact .stopping hphase
  | idle => exact .aside (by simp) (by rw [hphase]; rfl) rfl rfl (by simp)

theorem speech_set (network : PrefixId → Prefix) (s : Session) (setting : Setting) :
    Speech network s (.set setting) (s.set setting) := by
  refine .aside (by simp) rfl ?_ ?_ ?_
  all_goals
    unfold set
    repeat' split
    all_goals simp [Outcome.fail]

theorem speech_answer (network : PrefixId → Prefix) (s : Session) (c : Call EventLoop) :
    Speech network s c (s.answer network c) := by
  cases c with
  | start => exact speech_start network s
  | stop => exact speech_stop network s
  | attach loop priority =>
    simp only [answer, attach]
    cases s.loop with
    | some found => exact .aside (by simp) rfl rfl rfl (by simp [Outcome.fail])
    | none =>
      refine .aside (by simp) rfl rfl rfl ?_
      simpa using Log.Event.isAside_attached loop.name priority
  | detach => exact .aside (by simp) rfl rfl rfl (by simp [answer, detach])
  | set setting => exact speech_set network s setting
  | prefer preference =>
    refine .aside (by simp) rfl rfl rfl ?_
    simp only [answer, prefer]
    split
    · simpa using Log.Event.isAside_preferenceHidden preference
    · simp
  | add candidate =>
    simp only [answer, add, PrefixSet.add]
    cases s.members.firstOverlap? network (network candidate) with
    | some existing => exact .ignored
    | none => exact .added

/-- A log tells how exchanges lead from one session state to another. -/
structure Told (s : Session) (es : List Exchange) (log : List Log.Event) (t : Session) : Prop where
  turns : log.filterMap (·.phase?) = s.phase.turns es
  phase : t.phase = (s.phase.turns es).getLastD s.phase
  counts : List.range' 1 s.members.length ++ log.filterMap (·.count?) =
    List.range' 1 t.members.length
  additions : log.filterMap (·.addition?) = es.filterMap (·.addition?)
  unreleased : ∀ event ∈ log, event.isRelease = false

variable {network : PrefixId → Prefix} {s t u : Session} {es later : List Exchange}
  {log more : List Log.Event}

theorem told_asides (s : Session) (h : ∀ event ∈ log, event.IsAside) : Told s [] log s where
  turns := List.filterMap_eq_nil_iff.mpr fun event hmem => (h event hmem).phase
  phase := rfl
  counts := by
    rw [List.filterMap_eq_nil_iff.mpr fun event hmem => (h event hmem).count, List.append_nil]
  additions := List.filterMap_eq_nil_iff.mpr fun event hmem => (h event hmem).addition
  unreleased event hmem := (h event hmem).release

theorem Told.nil (s : Session) : Told s [] [] s := told_asides s (List.forall_mem_nil _)

theorem Told.append (h : Told s es log t) (h' : Told t later more u) :
    Told s (es ++ later) (log ++ more) u where
  turns := by rw [List.filterMap_append, h.turns, h'.turns, Phase.turns_append, h.phase]
  phase := by rw [Phase.turns_append, getLastD_append, ← h.phase, h'.phase]
  counts := by rw [List.filterMap_append, ← List.append_assoc, h.counts, h'.counts]
  additions := by rw [List.filterMap_append, List.filterMap_append, h.additions, h'.additions]
  unreleased := List.forall_mem_append.mpr ⟨h.unreleased, h'.unreleased⟩

theorem Speech.told {c : Call EventLoop} {o : Outcome Session Log.Event}
    (h : Speech network s c o) : Told s [⟨c, o.result⟩] o.log o.state := by
  cases h with
  | started idle =>
    have hturns : s.phase.turns [⟨.start, .ok ()⟩] = [.advertising] := by rw [idle]; rfl
    refine ⟨hturns.symm, ?_, List.append_nil _, rfl, List.forall_mem_singleton.mpr rfl⟩
    rw [hturns]
    rfl
  | stopping advertising =>
    have hturns : s.phase.turns [⟨.stop, .ok ()⟩] = [.idle] := by rw [advertising]; rfl
    refine ⟨hturns.symm, ?_, List.append_nil _, rfl, List.forall_mem_singleton.mpr rfl⟩
    rw [hturns]
    rfl
  | added =>
    refine ⟨rfl, rfl, ?_, rfl, List.forall_mem_singleton.mpr rfl⟩
    simp only [Log.Event.count?, List.filterMap_cons, List.filterMap_nil, List.length_append,
      List.length_singleton, List.range'_1_concat, Nat.add_comm]
  | ignored => exact ⟨rfl, rfl, List.append_nil _, rfl, List.forall_mem_singleton.mpr rfl⟩
  | aside call turn phase members log =>
    have hquiet := told_asides s log
    have hturns : s.phase.turns [⟨c, o.result⟩] = [] := by rw [Phase.turns_singleton, turn]; rfl
    have hadditions : [⟨c, o.result⟩].filterMap Exchange.addition? = [] := by
      cases c with
      | add candidate => exact absurd rfl (call candidate)
      | _ => rfl
    refine ⟨hquiet.turns.trans hturns.symm, ?_, ?_, ?_, hquiet.unreleased⟩
    · rw [hturns, phase]
      rfl
    · rw [members]
      exact hquiet.counts
    · exact hquiet.additions.trans hadditions.symm

theorem told_answer (network : PrefixId → Prefix) (s : Session) (c : Call EventLoop) :
    Told s [⟨c, (s.answer network c).result⟩] (s.answer network c).log (s.answer network c).state :=
  (speech_answer network s c).told

/-- A log that tells the truth about a session which was new at first. -/
structure TruthfulLog (log : List Log.Event) (es : List Exchange) (s : Session) : Prop where
  turns : log.filterMap (·.phase?) = Phase.idle.turns es
  begins : (log.filterMap (·.phase?)).head? ≠ some .idle
  alternates : (log.filterMap (·.phase?)).IsChain (· ≠ ·)
  phase : s.phase = .advertising ↔ (log.filterMap (·.phase?)).getLast? = some .advertising
  /-- The additions are counted from 1 up to the number of prefixes. -/
  counts : log.filterMap (·.count?) = List.range' 1 s.members.length
  additions : log.filterMap (·.addition?) = es.filterMap (·.addition?)
  unreleased : ∀ event ∈ log, event.isRelease = false

theorem Told.truthful {provider : Option Provider} (h : Told { provider } es log t) :
    TruthfulLog log es t := by
  have hchain : (Phase.idle :: log.filterMap (·.phase?)).IsChain (· ≠ ·) := by
    rw [h.turns]
    exact Phase.isChain_turns .idle es
  refine ⟨h.turns, ?_, hchain.tail, ?_, h.counts, h.additions, h.unreleased⟩
  · intro hidle
    obtain ⟨rest, hrest⟩ := List.head?_eq_some_iff.mp hidle
    rw [hrest] at hchain
    exact (List.isChain_cons_cons.mp hchain).1 rfl
  · rw [h.phase, h.turns, List.getLastD_eq_getLast?]
    cases (Phase.idle.turns es).getLast? with
    | none => simp
    | some phase => simp

end Session

end RouterAdvert
