import RouterAdvert.Proofs.PrefixInformation.Change
import RouterAdvert.Proofs.World.Counts
import RouterAdvert.Proofs.World.Made

/-!
# Changes to shared prefixes

A prefix may be in any number of sets, at a different place in each. A change to it is a change of
its own octets there and of nothing else, in all of them at once.
-/

namespace RouterAdvert.World

open PrefixInformation

variable {w : World} {op : Op} {p : PrefixId} {change : Edit}

theorem named_of_edit? (h : w.edit? op = some (p, change)) :
    ∃ name, w.prefixHandles.get? name = some p := by
  cases op with
  | edit network _ =>
    obtain ⟨found, hfound, heq⟩ := Option.map_eq_some_iff.mp h
    cases heq
    exact ⟨network, hfound⟩
  | setNetworkText network text =>
    simp only [edit?] at h
    split at h
    · rename_i hname _
      cases h
      exact ⟨network, hname⟩
    · cases h
  | _ => cases h

theorem world_step_of_edit? (h : w.edit? op = some (p, change)) :
    (w.step op).world =
      { w with prefixes := w.prefixes.set p (change.apply (w.option p)).state } := by
  rw [step_of_edit? h]
  rfl

theorem option_step_of_edit? (h : w.edit? op = some (p, change)) (hmade : p < w.prefixes.length) :
    (w.step op).world.option p = (change.apply (w.option p)).state := by
  rw [world_step_of_edit? h]
  simp only [option]
  rw [List.getElem?_set_self hmade, Option.getD_some]

theorem option_step_of_edit?_of_ne (h : w.edit? op = some (p, change)) {q : PrefixId} (hne : q ≠ p) :
    (w.step op).world.option q = w.option q := by
  rw [world_step_of_edit? h]
  simp only [option]
  rw [List.getElem?_set_ne (Ne.symm hne)]

theorem reply_step_of_edit? (h : w.edit? op = some (p, change)) :
    ((w.step op).reply = .done ↔ change.Allowed) ∧
      (¬change.Allowed → (w.step op).world = w) := by
  rw [← change.result_apply (w.option p), step_of_edit? h]
  cases hresult : (change.apply (w.option p)).result with
  | ok => simp [Result.answer, editPrefix, Outcome.lift, hresult]
  | error e =>
    have hfailed : (w.editPrefix p change).answer.reply = .failed e := by
      rw [reply_answer_eq_failed]
      exact hresult
    rw [hfailed, editPrefix_of_failed hfailed]
    simp

theorem getElem?_options (w : World) (members : PrefixSet) (i : Nat) :
    (w.options members)[i]? = members[i / size]?.bind fun q => (w.option q).encode[i % size]? :=
  getElem?_flatMap_encode w.option members i

/-- A change shows only in the octets that it may touch, at the place of the prefix. -/
theorem getElem?_options_step (h : w.edit? op = some (p, change)) (hmade : p < w.prefixes.length)
    {members : PrefixSet} {i : Nat}
    (hi : ∀ place, members[place]? = some p → ∀ k, change.Touches k → i ≠ size * place + k) :
    ((w.step op).world.options members)[i]? = (w.options members)[i]? := by
  rw [getElem?_options, getElem?_options]
  cases hq : members[i / size]? with
  | none => rfl
  | some q =>
    simp only [Option.bind_some]
    by_cases hqp : q = p
    · subst hqp
      rw [option_step_of_edit? h hmade]
      apply change.getElem?_encode_apply
      intro htouches
      exact hi _ hq _ htouches (Nat.div_add_mod i size).symm
    · rw [option_step_of_edit?_of_ne h hqp]

/-- A change that is allowed writes its value at the place of the prefix. -/
theorem writes_octetsAt_step (h : w.edit? op = some (p, change)) (hmade : p < w.prefixes.length)
    (hallowed : change.Allowed) {members : PrefixSet} {place : Nat}
    (hplace : members[place]? = some p) :
    change.Writes (octetsAt (w.options members) place)
      (octetsAt ((w.step op).world.options members) place) := by
  have hbefore : octetsAt (w.options members) place = (w.option p).encode :=
    octetsAt_flatMap_encode hplace
  have hafter : octetsAt ((w.step op).world.options members) place =
      ((w.step op).world.option p).encode := octetsAt_flatMap_encode hplace
  rw [hbefore, hafter, option_step_of_edit? h hmade]
  exact change.writes_apply (w.option p) hallowed

/-- After any run in which providers add only prefixes that exist, a change to a prefix replaces its
option and nothing else in the world, and no counter of references changes; a change that is refused
replaces nothing. In each set that has the prefix, this is at one place: no octet changes but those
of the field that is set, which then have its value. The options of all other sets are what they
were. -/
theorem change_shows_at_own_place (ops : List Op) (hadds : AddsMade {} ops) (op : Op) (p : PrefixId)
    (change : Edit) (hedit : (run {} ops).edit? op = some (p, change)) :
    let w := run {} ops
    let v := (w.step op).world
    v = { w with prefixes := w.prefixes.set p (v.option p) } ∧
      (∀ q, q ≠ p → v.option q = w.option q) ∧
      settleAll {} (fun _ => 0) (ops ++ [op]) = settleAll {} (fun _ => 0) ops ∧
      ((w.step op).reply = .done ↔ change.Allowed) ∧ (¬change.Allowed → v = w) ∧
      ∀ o, v.members o = w.members o ∧
        (p ∉ w.members o → v.options (v.members o) = w.options (w.members o)) ∧
        (p ∈ w.members o → ∃ place,
          let before := w.options (w.members o)
          let after := v.options (v.members o)
          (∀ other, (w.members o)[other]? = some p ↔ other = place) ∧
            after.length = before.length ∧
            (∀ i, after[i]? ≠ before[i]? → ∃ k, change.Touches k ∧ i = 32 * place + k) ∧
            (change.Allowed → change.Writes (octetsAt before place) (octetsAt after place))) := by
  intro w v
  have hsound : Sound w := sound_empty.run ops
  obtain ⟨name, hname⟩ := named_of_edit? hedit
  have hmade : p < w.prefixes.length := (made_empty.run hadds).named name p hname
  have hworld : v = { w with prefixes := w.prefixes.set p (change.apply (w.option p)).state } :=
    world_step_of_edit? hedit
  have hmembers : ∀ o, v.members o = w.members o := by
    intro o
    rw [hworld]
    cases o <;> rfl
  have hrefs : settleAll {} (fun _ => 0) (ops ++ [op]) = settleAll {} (fun _ => 0) ops := by
    rw [settleAll_empty, settleAll_empty, run_append]
    exact (congrArg refs hworld).trans rfl
  obtain ⟨hreply, hrefused⟩ := reply_step_of_edit? hedit
  refine ⟨?_, fun q hq => option_step_of_edit?_of_ne hedit hq, hrefs, hreply, hrefused, ?_⟩
  · rw [option_step_of_edit? hedit hmade]
    exact hworld
  · intro o
    rw [hmembers o]
    refine ⟨rfl, ?_, ?_⟩
    · intro hnot
      apply List.ext_getElem?
      intro i
      apply getElem?_options_step hedit hmade
      intro place hplace
      exact absurd (List.mem_of_getElem? hplace) hnot
    · intro hmem
      obtain ⟨place, hplace⟩ := List.mem_iff_getElem?.mp hmem
      have hunique : ∀ other, (w.members o)[other]? = some p ↔ other = place := by
        intro other
        rw [← hplace, eq_comm]
        have hlt := (List.getElem?_eq_some_iff.mp hplace).1
        rw [List.getElem?_inj hlt (hsound.distinct o), eq_comm]
      refine ⟨place, hunique, ?_, ?_, ?_⟩
      · rw [length_options, length_options]
      · intro i hi
        apply Classical.byContradiction
        intro hnone
        apply hi
        apply getElem?_options_step hedit hmade
        intro other hother k hk heq
        cases (hunique other).mp hother
        exact hnone ⟨k, hk, heq⟩
      · exact fun hallowed => writes_octetsAt_step hedit hmade hallowed hplace

/-- Here a lifetime is set through a second handle, while the prefix stands first in a set and
second in a session, and an earlier option of it has been kept. -/
theorem change_shows_at_own_place_of_shared_prefix :
    let ops : List Op := [.newSession "s" none, .newSet "x", .newPrefix "p", .newPrefix "q",
      .edit "q" (.network ⟨⟨0x20010db8000000000000000000000000⟩, 48⟩), .addPrefix "s" "q",
      .addPrefix "s" "p", .addToSet "x" "p", .clonePrefix "p" "r", .snapshot "p" "before"]
    let w := run {} ops
    let v := (w.step (.edit "r" (.preferredLifetime 60))).world
    w.members (.session 0) = [1, 0] ∧ w.members (.set "x") = [0] ∧
      (∀ i, (v.options [1, 0])[i]? ≠ (w.options [1, 0])[i]? → 40 ≤ i ∧ i < 44) ∧
      Octets.NumberAt (octetsAt (v.options [1, 0]) 1) 8 4 60 ∧
      (∀ i, (v.options [0])[i]? ≠ (w.options [0])[i]? → 8 ≤ i ∧ i < 12) ∧
      Octets.NumberAt (octetsAt (v.options [0]) 0) 8 4 60 ∧
      v.snapshots = w.snapshots ∧ v.sessions = w.sessions := by
  intro ops w v
  have hsession : w.members (.session 0) = [1, 0] := by decide
  have hset : w.members (.set "x") = [0] := by decide
  obtain ⟨hworld, -, -, -, -, howners⟩ := change_shows_at_own_place ops (by decide)
    (.edit "r" (.preferredLifetime 60)) 0 (.preferredLifetime 60) (by decide)
  obtain ⟨hkept, -, hown⟩ := howners (.session 0)
  obtain ⟨place, hunique, -, honly, hwrites⟩ := hown (by rw [hsession]; decide)
  obtain rfl := (hunique 1).mp (by rw [hsession]; rfl)
  rw [hkept, hsession] at honly hwrites
  obtain ⟨hkept', -, hown'⟩ := howners (.set "x")
  obtain ⟨place', hunique', -, honly', hwrites'⟩ := hown' (by rw [hset]; decide)
  obtain rfl := (hunique' 0).mp (by rw [hset]; rfl)
  rw [hkept', hset] at honly' hwrites'
  refine ⟨hsession, hset, ?_, hwrites trivial, ?_, hwrites' trivial,
    (congrArg snapshots hworld).trans rfl, (congrArg sessions hworld).trans rfl⟩
  · intro i hi
    obtain ⟨k, hk, rfl⟩ := honly i hi
    have hfield : 8 ≤ k ∧ k < 12 := hk
    omega
  · intro i hi
    obtain ⟨k, hk, rfl⟩ := honly' i hi
    have hfield : 8 ≤ k ∧ k < 12 := hk
    omega

end RouterAdvert.World
