import RouterAdvert.Proofs.World.Balance

/-!
# Reference counts

The counters of a run tell for every shared object how many names, sessions and sets refer to it.
Giving up a handle to a session changes no other counter unless it is the last one.
-/

namespace RouterAdvert

/-- Lists without repetitions contain an object as often as there are lists that contain it. -/
theorem count_flatMap_of_nodup {α : Type} (xs : List α) (members : α → PrefixSet)
    (h : ∀ x ∈ xs, (members x).Nodup) (p : PrefixId) :
    (xs.flatMap members).count p = xs.countP (p ∈ members ·) := by
  induction xs with
  | nil => rfl
  | cons first rest ih =>
    rcases List.forall_mem_cons.mp h with ⟨hfirst, hrest⟩
    rw [List.flatMap_cons, List.count_append, ih hrest, hfirst.count, List.countP_cons]
    simp only [decide_eq_true_eq]
    omega

theorem Session.nodup_holdings {s : Session} (h : s.members.Nodup) : s.holdings.Nodup := by
  rw [List.nodup_iff_count]
  intro r
  cases r with
  | session id => simp
  | network p =>
    rw [count_network_holdings]
    exact List.nodup_iff_count.mp h p
  | loop loop =>
    rw [count_loop_holdings]
    split <;> omega

namespace World

theorem refs_empty : ({} : World).refs = fun _ => 0 := by
  funext r
  cases r <;> rfl

/-- The counters that a run keeps are the numbers of references at its end. -/
theorem settleAll_empty (ops : List Op) : settleAll {} (fun _ => 0) ops = (run {} ops).refs := by
  rw [← refs_empty]
  exact settleAll_eq sound_empty ops

/-- A prefix that is in a set at all is in it once, so that sets may be counted. -/
theorem Sound.prefixRefs_eq {w : World} (h : Sound w) (p : PrefixId) :
    w.prefixRefs p = w.prefixHandles.count p + w.liveSessions.countP (p ∈ ·.members)
      + w.sets.countP (p ∈ ·.2) := by
  have hsessions := count_flatMap_of_nodup w.liveSessions _ (fun _ => h.nodup_of_live) p
  have hsets := count_flatMap_of_nodup w.sets _ (fun _ => h.nodup_of_set) p
  rw [prefixRefs, hsessions, hsets]

def unnamed (w : World) (name : String) : World :=
  { w with sessionHandles := w.sessionHandles.drop name }

variable {w : World} {name : String} {id : SessionId}

theorem world_dropSession (hname : w.sessionHandles.get? name = some id) :
    (w.step (.dropSession name)).world = ((w.unnamed name).releaseUnheld id).1 := by
  simp only [step, hname]
  rfl

theorem refs_unnamed (h : w.sessionHandles.names.Nodup)
    (hname : w.sessionHandles.get? name = some id) (r : Ref) :
    (w.unnamed name).refs r + (if r = .session id then 1 else 0) = w.refs r := by
  have hdrop := balanced_dropSession h name r
  rw [hname] at hdrop
  simp only [Option.toList_some, List.map_cons, List.map_nil, List.count_nil] at hdrop
  change (w.unnamed name).refs r + List.count r [Ref.session id] = _ at hdrop
  rw [Nat.add_zero] at hdrop
  rw [← hdrop, List.count_singleton]
  by_cases hr : r = .session id
  · simp [hr]
  · simp [hr, Ne.symm hr]

/-- The last handle to a session takes its members and its loop with it. -/
theorem Sound.dropSession_last (h : Sound w) (hname : w.sessionHandles.get? name = some id)
    {s : Session} (hs : w.session? id = some s) (hlast : w.refs (.session id) = 1) :
    (w.step (.dropSession name)).world.session? id = none ∧
      ∀ r, (w.step (.dropSession name)).world.refs r +
        (if r = .session id ∨ r ∈ s.holdings then 1 else 0) = w.refs r := by
  have hrefs := refs_unnamed h.sessionNames hname
  have hlive : (w.unnamed name).session? id = some s := hs
  have hunheld : (w.unnamed name).sessionRefs id = 0 := by
    have := hrefs (.session id)
    rw [hlast, if_pos rfl] at this
    change (w.unnamed name).sessionRefs id + 1 = 1 at this
    omega
  rw [world_dropSession hname]
  rcases releaseUnheld_cases (w.unnamed name) id with ⟨-, hgone | hheld⟩ | ⟨t, ht, -, hreleased⟩
  · rw [hlive] at hgone
    cases hgone
  · exact absurd hunheld hheld
  · rw [hreleased]
    refine ⟨(session?_release hlive id).trans (if_pos rfl), ?_⟩
    intro r
    have hmembers : s.members.Nodup := members_session_of_live hs ▸ h.distinct (.session id)
    have hreleases := balanced_release hlive hunheld r
    rw [(Session.nodup_holdings hmembers).count, List.count_nil] at hreleases
    rw [← hrefs r]
    by_cases hr : r = .session id
    · have hnot : r ∉ s.holdings := by simp [hr, Session.holdings]
      rw [if_neg hnot] at hreleases
      rw [if_pos (.inl hr), if_pos hr]
      omega
    · rw [if_neg hr]
      by_cases hmem : r ∈ s.holdings
      · rw [if_pos hmem] at hreleases
        rw [if_pos (.inr hmem)]
        omega
      · rw [if_neg hmem] at hreleases
        rw [if_neg (not_or_intro hr hmem)]
        omega

theorem Sound.dropSession_other (h : Sound w) (hname : w.sessionHandles.get? name = some id)
    (hother : w.refs (.session id) ≠ 1) :
    (w.step (.dropSession name)).world.sessions = w.sessions ∧
      ∀ r, (w.step (.dropSession name)).world.refs r + (if r = .session id then 1 else 0) =
        w.refs r := by
  have hrefs := refs_unnamed h.sessionNames hname
  have hheld : (w.unnamed name).sessionRefs id ≠ 0 := by
    intro hzero
    have := hrefs (.session id)
    rw [if_pos rfl] at this
    change (w.unnamed name).sessionRefs id + 1 = _ at this
    omega
  rw [world_dropSession hname]
  rcases releaseUnheld_cases (w.unnamed name) id with ⟨hkept, -⟩ | ⟨t, -, hunheld, -⟩
  · rw [hkept]
    exact ⟨rfl, hrefs⟩
  · exact absurd hunheld hheld

/-- After any run the counters are the numbers of references, holder by holder. Giving up the last
handle to a session lowers its own counter, that of each member and that of its loop by one and no
other; giving up another handle to it lowers no counter but its own. -/
theorem counters_count_holders (ops : List Op) :
    let w := run {} ops
    settleAll {} (fun _ => 0) ops = w.refs ∧
      (∀ id, w.refs (.session id) =
        w.sessionHandles.count id + if (w.session? id).any heldByProvider then 1 else 0) ∧
      (∀ p, w.refs (.network p) = w.prefixHandles.count p + w.liveSessions.countP (p ∈ ·.members)
        + w.sets.countP (p ∈ ·.2)) ∧
      (∀ loop, w.refs (.loop loop) =
        w.loopHandles.count loop + w.liveSessions.countP (·.loop = some loop)) ∧
      ∀ name id, w.sessionHandles.get? name = some id → ∃ s, w.session? id = some s ∧
        let dropped := (w.step (.dropSession name)).world
        (w.refs (.session id) = 1 → dropped.session? id = none ∧
          ∀ r, dropped.refs r + (if r = .session id ∨ r ∈ s.holdings then 1 else 0) = w.refs r) ∧
        (w.refs (.session id) ≠ 1 → dropped.sessions = w.sessions ∧
          ∀ r, dropped.refs r + (if r = .session id then 1 else 0) = w.refs r) := by
  intro w
  have hsound : Sound w := sound_empty.run ops
  refine ⟨?_, fun id => rfl, hsound.prefixRefs_eq, fun loop => rfl, ?_⟩
  · rw [← refs_empty]
    exact settleAll_eq sound_empty ops
  · intro name id hname
    have hlive := hsound.held id (Nat.ne_of_gt (Handles.count_pos_of_get? hname))
    rcases Option.isSome_iff_exists.mp hlive with ⟨s, hs⟩
    exact ⟨s, hs, hsound.dropSession_last hname hs, hsound.dropSession_other hname⟩

/-- Here a prefix is in two sets and refused by one of them the second time, and the only handle to
the session is given up. -/
theorem counters_count_holders_of_shared_prefix :
    let ops : List Op := [.newSession "s" none, .newLoop "e" "main", .attach "s" (some "e") 0,
      .newPrefix "p", .addPrefix "s" "p", .addPrefix "s" "p", .newSet "x", .addToSet "x" "p"]
    let w := run {} ops
    let dropped := (w.step (.dropSession "s")).world
    w.refs (.network 0) = 3 ∧ settleAll {} (fun _ => 0) ops (.network 0) = 3 ∧
      dropped.session? 0 = none ∧ dropped.refs (.network 0) + 1 = 3 ∧
      dropped.refs (.loop ⟨0, "main", false⟩) + 1 = 2 := by
  intro ops w dropped
  rcases counters_count_holders ops with ⟨hcounters, -, -, -, hdrop⟩
  rcases hdrop "s" 0 (by decide) with ⟨s, hs, hlast, -⟩
  cases hs
  rcases hlast (by decide) with ⟨hgone, hlowered⟩
  exact ⟨by decide, (congrFun hcounters _).trans (by decide), hgone,
    hlowered (.network 0), hlowered (.loop ⟨0, "main", false⟩)⟩

end World

end RouterAdvert
