import RouterAdvert.Proofs.PrefixSet.Culprit
import RouterAdvert.Proofs.World.OverlapTexts

/-!
# Additions

An addition by name writes the set back with what `PrefixSet.add` gives for its members, whether the
set is that of a session or stands on its own. So what an addition reports is what it does: it is
refused for the first member whose range meets that of the prefix, and else the set has one more
member and the prefix one more reference.
-/

namespace RouterAdvert.World

open PrefixSet

variable {w : World} {o : Owner}

def hasSet (w : World) : Owner → Bool
  | .session id => (w.session? id).isSome
  | .set name => (w.sets.get? name).isSome

def withMembers (w : World) (o : Owner) (changed : PrefixSet) : World :=
  match o with
  | .session id => (w.session? id).elim w fun s => w.putSession id { s with members := changed }
  | .set name => { w with sets := w.sets.bind name changed }

theorem members_withMembers (h : w.hasSet o) (changed : PrefixSet) :
    (w.withMembers o changed).members o = changed := by
  cases o with
  | session id =>
    obtain ⟨s, hs⟩ := Option.isSome_iff_exists.mp h
    have hnext : (w.withMembers (.session id) changed).session? id =
        some { s with members := changed } := by
      rw [withMembers, hs, Option.elim_some, session?_putSession hs, if_pos rfl]
    exact members_session_of_live hnext
  | set name => simp [withMembers, members, Handles.get?_bind]

theorem prefixes_withMembers (w : World) (o : Owner) (changed : PrefixSet) :
    (w.withMembers o changed).prefixes = w.prefixes ∧
      (w.withMembers o changed).prefixHandles = w.prefixHandles ∧
      (w.withMembers o changed).sessionHandles = w.sessionHandles := by
  cases o with
  | session id => cases hs : w.session? id <;> simp [withMembers, hs, putSession]
  | set name => exact ⟨rfl, rfl, rfl⟩

theorem hasSet_withMembers (h : w.hasSet o) (changed : PrefixSet) :
    (w.withMembers o changed).hasSet o := by
  cases o with
  | session id =>
    obtain ⟨s, hs⟩ := Option.isSome_iff_exists.mp h
    rw [withMembers, hs, Option.elim_some, hasSet, session?_putSession hs, if_pos rfl]
    rfl
  | set name => simp [withMembers, hasSet, Handles.get?_bind]

theorem balanced_withMembers (h : w.hasSet o) (changed : PrefixSet) :
    Balanced w (w.withMembers o changed) (changed.map .network) ((w.members o).map .network) := by
  cases o with
  | session id =>
    obtain ⟨s, hs⟩ := Option.isSome_iff_exists.mp h
    intro r
    have hsessions : (w.putSession id { s with members := changed }).sessions =
        w.sessions.set id (some { s with members := changed }) := rfl
    have htally := tally_set hs hsessions (fun s => s.holdings.count r)
    have hprovider := providerRefs_of_sessions_set hs hsessions rfl r
    have hloop : ∀ members : PrefixSet, { s with members }.holdings.count r =
        (members.map Ref.network).count r + (s.loop.toList.map Ref.loop).count r :=
      fun members => List.count_append
    rw [Option.elim_some, hloop changed, hloop s.members] at htally
    rw [members_session_of_live hs, withMembers, hs, Option.elim_some, refs_eq, refs_eq, hprovider]
    change w.nameRefs r + _ + _ + _ = _
    omega
  | set name => exact balanced_bindSet w name changed

/-- An addition is carried out on the members of its set. -/
theorem step_of_addition? {op : Op} {p : PrefixId} (h : w.addition? op = some (o, p))
    (howner : w.hasSet o) :
    ∃ entry, w.step op =
      Result.answer (((w.members o).add w.network p).lift (w.withMembers o) entry) := by
  cases op with
  | addPrefix session network =>
    simp only [addition?] at h
    split at h
    case h_1 id found hid hfound =>
      cases h
      obtain ⟨s, hs⟩ := Option.isSome_iff_exists.mp howner
      have hcall : w.call id (.add p) =
          w.onSession id (Session.add w.network · p) := rfl
      refine ⟨(⟨.session id, ·⟩), ?_⟩
      simp only [step, hid, hfound, callNamed, withHandle_some]
      rw [hcall, onSession_of_live hs, members_session_of_live hs]
      simp only [withMembers, hs, Option.elim_some, Session.add, Outcome.lift, List.map_map]
      rfl
    case h_2 => cases h
  | addToSet set network =>
    obtain ⟨found, hfound, heq⟩ := Option.map_eq_some_iff.mp h
    cases heq
    obtain ⟨members, hmembers⟩ := Option.isSome_iff_exists.mp howner
    refine ⟨(⟨.set set, ·⟩), ?_⟩
    simp only [step, hfound, hmembers, withHandle_some, World.members, Option.getD_some]
    rfl
  | _ => cases h

section

variable {op : Op} {p : PrefixId}

theorem step_addition_of_free (hop : w.addition? op = some (o, p)) (howner : w.hasSet o)
    (hfound : (w.members o).firstOverlap? w.network (w.network p) = none) :
    (w.step op).reply = .done ∧ (w.step op).world = w.withMembers o (w.members o ++ [p]) := by
  obtain ⟨entry, hstep⟩ := step_of_addition? hop howner
  rw [add, hfound] at hstep
  constructor <;> rw [hstep] <;> rfl

/-- A prefix whose range meets no member is appended, and has one more reference. -/
theorem addition_of_free (hop : w.addition? op = some (o, p)) (howner : w.hasSet o)
    (hfound : (w.members o).firstOverlap? w.network (w.network p) = none) :
    (w.step op).reply = .done ∧ (w.step op).world.members o = w.members o ++ [p] ∧
      ∀ r, (w.step op).world.refs r = w.refs r + if r = .network p then 1 else 0 := by
  obtain ⟨hreply, hworld⟩ := step_addition_of_free hop howner hfound
  refine ⟨hreply, by rw [hworld, members_withMembers howner], ?_⟩
  intro r
  have hbalanced := balanced_withMembers howner (w.members o ++ [p]) r
  rw [List.map_append, List.count_append, List.map_singleton, List.count_singleton] at hbalanced
  rw [hworld]
  by_cases hr : r = .network p
  · simp only [hr, beq_self_eq_true, if_true] at hbalanced ⊢
    omega
  · simp only [beq_eq_false_iff_ne.mpr (Ne.symm hr), hr, Bool.false_eq_true, if_false] at hbalanced ⊢
    omega

/-- A prefix whose range meets a member is refused, and nothing changes. -/
theorem addition_of_overlap (hop : w.addition? op = some (o, p)) (howner : w.hasSet o) {m : PrefixId}
    (hfound : (w.members o).firstOverlap? w.network (w.network p) = some m) :
    (w.step op).reply = .failed (.overlap (w.network p) (w.network m)) ∧ (w.step op).world = w := by
  obtain ⟨entry, hstep⟩ := step_of_addition? hop howner
  rw [add, hfound] at hstep
  have hreply : (w.step op).reply = .failed (.overlap (w.network p) (w.network m)) := by
    rw [hstep]
    rfl
  refine ⟨hreply, step_of_failed hreply ?_⟩
  cases op with
  | addPrefix | addToSet => rfl
  | _ => cases hop

/-- An addition is refused exactly if the range of some member shares an address with that of the
prefix, and otherwise appends the prefix and counts one more reference to it. A refusal changes
nothing and tells the prefix and the first such member, which can be read back from its text. If no
two members share an address, this member is the only one and the prefix lies in it, or all such
members lie strictly in the prefix. -/
theorem addition_does_what_it_reports (w : World) (op : Op) (o : Owner) (p : PrefixId)
    (hop : w.addition? op = some (o, p)) (howner : w.hasSet o) :
    let members := w.members o
    let next := (w.step op).world
    ((∃ e, (w.step op).reply = .failed e) ↔ ∃ m ∈ members, (w.network m).Meets (w.network p)) ∧
      ((∀ m ∈ members, ¬(w.network m).Meets (w.network p)) →
        (w.step op).reply = .done ∧ next.members o = members ++ [p] ∧
          ∀ r, next.refs r = w.refs r + if r = .network p then 1 else 0) ∧
      ∀ e, (w.step op).reply = .failed e → next = w ∧ ∃ before m after,
        members = before ++ m :: after ∧ (w.network m).Meets (w.network p) ∧
          (∀ n ∈ before, ¬(w.network n).Meets (w.network p)) ∧
          e = .overlap (w.network p) (w.network m) ∧
          e.message = "prefix " ++ (w.network p).text ++ " overlaps configured prefix "
            ++ (w.network m).text ∧
          Prefix.read (w.network p).text = .ok (w.network p) ∧
          Prefix.read (w.network m).text = .ok (w.network m) ∧
          (members.Pairwise (fun m n => ¬(w.network m).Meets (w.network n)) →
            ((∀ n ∈ members, (w.network n).Meets (w.network p) → n = m) ∧
              (w.network p).Within (w.network m)) ∨
            ∀ n ∈ members, (w.network n).Meets (w.network p) →
              (w.network n).Within (w.network p) ∧ ¬(w.network p).Within (w.network n)) := by
  intro members next
  cases hfound : members.firstOverlap? w.network (w.network p) with
  | none =>
    obtain ⟨hreply, hadded⟩ := addition_of_free hop howner hfound
    have hfree : ∀ m ∈ members, ¬(w.network m).Meets (w.network p) :=
      fun m hm => Prefix.overlaps_eq_false_iff.mp (firstOverlap?_eq_none_iff.mp hfound m hm)
    refine ⟨iff_of_false ?_ ?_, fun _ => ⟨hreply, hadded⟩, ?_⟩
    · rintro ⟨e, he⟩
      cases hreply.symm.trans he
    · rintro ⟨m, hm, hmeets⟩
      exact hfree m hm hmeets
    · intro e he
      cases hreply.symm.trans he
  | some m =>
    obtain ⟨hreply, hkept⟩ := addition_of_overlap hop howner hfound
    obtain ⟨before, after, hmembers, hoverlap, hbefore⟩ := firstOverlap?_eq_some_iff.mp hfound
    have hmeets := Prefix.overlaps_iff_meets.mp hoverlap
    have hm : m ∈ members := by simp [hmembers]
    refine ⟨iff_of_true ⟨_, hreply⟩ ⟨m, hm, hmeets⟩, fun hfree => absurd hmeets (hfree m hm), ?_⟩
    intro e he
    cases hreply.symm.trans he
    refine ⟨hkept, before, m, after, hmembers, hmeets,
      fun n hn => Prefix.overlaps_eq_false_iff.mp (hbefore n hn), rfl, rfl, Prefix.read_text _,
      Prefix.read_text _, ?_⟩
    intro hapart
    have hseparate : Separate w.network members := separate_iff_not_meets.mpr hapart
    simpa only [Prefix.overlaps_iff_meets] using hseparate.overlap_cases hm hoverlap

/-- Here a set is given a prefix that encloses two of its three members, and then one that lies in
the last of them, which a session has taken as well. -/
theorem addition_does_what_it_reports_of_enclosing :
    let ops : List Op := [.newSet "x", .newSession "s" none,
      .newPrefix "a", .edit "a" (.network ⟨.ofGroups [0x2001, 0xdb9, 0, 0, 0, 0, 0, 0], 32⟩),
      .newPrefix "b", .edit "b" (.network ⟨.ofGroups [0x2001, 0xdb8, 1, 0, 0, 0, 0, 0], 48⟩),
      .newPrefix "c", .edit "c" (.network ⟨.ofGroups [0x2001, 0xdb8, 2, 0, 0, 0, 0, 0], 48⟩),
      .addToSet "x" "a", .addToSet "x" "b", .addToSet "x" "c", .addPrefix "s" "c",
      .newPrefix "d", .edit "d" (.network ⟨.ofGroups [0x2001, 0xdb8, 0, 0, 0, 0, 0, 0], 32⟩),
      .newPrefix "e", .edit "e" (.network ⟨.ofGroups [0x2001, 0xdb8, 2, 7, 0, 0, 0, 9], 64⟩)]
    let w := run {} ops
    (∃ e, (w.step (.addToSet "x" "d")).reply = .failed e) ∧
      (w.network 1).Within (w.network 3) ∧ (w.network 2).Within (w.network 3) ∧
      (w.step (.addToSet "x" "e")).reply = .failed (.overlap (w.network 4) (w.network 2)) ∧
      (w.step (.addToSet "x" "e")).world = w ∧ (w.network 4).Within (w.network 2) ∧
      (w.step (.addPrefix "s" "b")).world.members (.session 0) = [2, 1] ∧
      (w.step (.addPrefix "s" "b")).world.refs (.network 1) = w.refs (.network 1) + 1 := by
  intro ops w
  have hmeets : ∀ m n, (w.network m).overlaps (w.network n) = true →
      (w.network m).Meets (w.network n) := fun m n => Prefix.overlaps_iff_meets.mp
  have hapart : (w.members (.set "x")).Pairwise
      fun m n => ¬(w.network m).Meets (w.network n) :=
    separate_iff_not_meets.mp (by unfold Separate; decide)
  obtain ⟨hrefused, -, henclosed⟩ :=
    addition_does_what_it_reports w (.addToSet "x" "d") (.set "x") 3 (by decide) (by decide)
  obtain ⟨-, -, henclosing⟩ :=
    addition_does_what_it_reports w (.addToSet "x" "e") (.set "x") 4 (by decide) (by decide)
  obtain ⟨-, hfree, -⟩ :=
    addition_does_what_it_reports w (.addPrefix "s" "b") (.session 0) 1 (by decide) (by decide)
  obtain ⟨e, he⟩ := hrefused.mpr ⟨1, by decide, hmeets 1 3 (by decide)⟩
  have hinside : (w.network 1).Within (w.network 3) ∧ (w.network 2).Within (w.network 3) := by
    obtain ⟨-, _, m, _, _, _, _, _, _, _, _, hlies⟩ := henclosed e he
    have hone := hmeets 1 3 (by decide)
    have htwo := hmeets 2 3 (by decide)
    rcases hlies hapart with ⟨honly, -⟩ | hall
    · cases (honly 1 (by decide) hone).trans (honly 2 (by decide) htwo).symm
    · exact ⟨(hall 1 (by decide) hone).1, (hall 2 (by decide) htwo).1⟩
  have hreply : (w.step (.addToSet "x" "e")).reply =
      .failed (.overlap (w.network 4) (w.network 2)) := by decide
  obtain ⟨hkept, _, m, _, _, _, _, _, _, _, _, hlies⟩ := henclosing _ hreply
  have hlast : (w.network 4).Within (w.network 2) := by
    have htwo := hmeets 2 4 (by decide)
    rcases hlies hapart with ⟨honly, hwithin⟩ | hall
    · rwa [honly 2 (by decide) htwo]
    · exact absurd (Prefix.within_iff.mp (hall 2 (by decide) htwo).1).2 (by decide)
  have hsession : w.members (.session 0) = [2] := by decide
  obtain ⟨-, hadded, hcounted⟩ := hfree (by
    rw [hsession]
    exact List.forall_mem_singleton.mpr (Prefix.overlaps_eq_false_iff.mp (by decide)))
  exact ⟨⟨e, he⟩, hinside.1, hinside.2, hreply, hkept, hlast, hadded.trans (by rw [hsession]; rfl),
    hcounted (.network 1)⟩

end

end RouterAdvert.World
