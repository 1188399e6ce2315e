import RouterAdvert.Proofs.World.PrefixSide
import RouterAdvert.Proofs.World.RouterSide
import RouterAdvert.World.View

/-!
# Routers and prefixes do not interfere

What becomes of the routers in a run, and what is replied about them, does not depend on the
operations on prefixes in it. Nor do prefixes, members and options depend on the operations on
routers.
-/

namespace RouterAdvert.World

def routerState (w : World) (id : SessionId) :
    Option (Phase × RouterParameters × Option EventLoop × Int) :=
  (w.session? id).map fun s => (s.phase, s.router, s.loop, s.priority)

variable {w v : World}

theorem SameRouters.routerState_eq (h : SameRouters w v) : w.routerState = v.routerState := by
  funext id
  rcases h.sessions.session?_cases id with ⟨hs, ht⟩ | ⟨s, t, hs, ht, hst⟩
  · rw [routerState, routerState, hs, ht]
  · obtain ⟨members, rfl⟩ := Session.exists_members_of_bare_eq hst
    rw [routerState, routerState, hs, ht]
    rfl

theorem SamePrefixes.map_members (h : SamePrefixes w v) (id : SessionId) :
    (w.session? id).map (·.members) = (v.session? id).map (·.members) := by
  have hinventory := congrArg (Option.map Prod.fst) (h.sessions.map_session? id)
  rw [Option.map_map, Option.map_map] at hinventory
  exact hinventory

theorem SamePrefixes.options_eq (h : SamePrefixes w v) : w.options = v.options := by
  funext members
  rw [options, options, h.option_eq]

theorem SamePrefixes.findInSet?_eq (h : SamePrefixes w v) : w.findInSet? = v.findInSet? := by
  funext members candidate
  rw [findInSet?, findInSet?, h.network_eq]

/-- A run without the operations on prefixes looks the same to routers. -/
theorem sameRouters_run (ops : List Op) :
    let keep := fun op : Op => !op.isPrefixSide
    replies keep {} ops = replies keep {} (ops.filter keep) ∧
      SameRouters (run {} ops) (run {} (ops.filter keep)) := by
  intro keep
  apply unwinding keep (fun _ => True) SameRouters
  · intro w v op h _ hkeep
    exact h.step (by simpa [keep] using hkeep)
  · intro w v op h _ hkeep
    exact (sameRouters_step_of_isPrefixSide w (by simpa [keep] using hkeep)).trans h
  · exact .refl {}
  · exact fun _ _ => trivial

theorem samePrefixes_run {ops : List Op}
    (hproviders : ∀ session p, .newSession session (some p) ∈ ops → p.AddsNothing) :
    let keep := fun op : Op => !op.isRouterSide
    replies keep {} ops = replies keep {} (ops.filter keep) ∧
      SamePrefixes (run {} ops) (run {} (ops.filter keep)) := by
  intro keep
  suffices h : replies keep {} ops = replies keep {} (ops.filter keep) ∧
      (run {} ops).ProvidersAddNothing ∧ SamePrefixes (run {} ops) (run {} (ops.filter keep)) from
    ⟨h.1, h.2.2⟩
  apply unwinding keep (fun op => ∀ name p, op = .newSession name (some p) → p.AddsNothing)
    (fun w v => w.ProvidersAddNothing ∧ SamePrefixes w v)
  · rintro w v op ⟨hadds, h⟩ hop hkeep
    obtain ⟨hreply, hnext⟩ := h.step (by simpa [keep] using hkeep)
    exact ⟨hreply, hadds.step hop, hnext⟩
  · rintro w v op ⟨hadds, h⟩ hop hkeep
    have hhidden := samePrefixes_step_of_isRouterSide w hadds (by simpa [keep] using hkeep)
    exact ⟨hadds.step hop, hhidden.trans h⟩
  · exact ⟨providersAddNothing_empty, .refl {}⟩
  · rintro op hmem name p rfl
    exact hproviders name p hmem

/-- Without the operations on prefixes a run gives the same replies to all others, and leads every
session to the same phase, parameters, loop and priority. If no provider adds prefixes, a run
without the operations on routers gives the same replies to all others, names the same prefixes when
ranges overlap, and leads to the same members and options in every session and set. This is said of
any run, and so of every moment of one. -/
theorem routers_and_prefixes_do_not_interfere (ops : List Op)
    (hproviders : ∀ session p, .newSession session (some p) ∈ ops → p.AddsNothing) :
    let onRouters := fun op : Op => !op.isPrefixSide
    let onPrefixes := fun op : Op => !op.isRouterSide
    let w := run {} ops
    let v := run {} (ops.filter onRouters)
    let u := run {} (ops.filter onPrefixes)
    (replies onRouters {} ops = replies onRouters {} (ops.filter onRouters) ∧
        w.routerState = v.routerState ∧ w.sessionHandles = v.sessionHandles ∧
        w.loopHandles = v.loopHandles) ∧
      replies onPrefixes {} ops = replies onPrefixes {} (ops.filter onPrefixes) ∧
      (∀ id, (w.session? id).map (·.members) = (u.session? id).map (·.members)) ∧
      w.sets = u.sets ∧ w.options = u.options ∧ w.findInSet? = u.findInSet? ∧
      w.sessionHandles = u.sessionHandles ∧ w.prefixHandles = u.prefixHandles ∧
      w.snapshots = u.snapshots := by
  intro onRouters onPrefixes w v u
  obtain ⟨hrouterReplies, hrouters⟩ := sameRouters_run ops
  obtain ⟨hprefixReplies, hprefixes⟩ := samePrefixes_run hproviders
  exact ⟨⟨hrouterReplies, hrouters.routerState_eq, hrouters.sessionHandles, hrouters.loopHandles⟩,
    hprefixReplies, hprefixes.map_members, hprefixes.sets, hprefixes.options_eq,
    hprefixes.findInSet?_eq, hprefixes.sessionHandles, hprefixes.prefixHandles, hprefixes.snapshots⟩

/-- Here a prefix within the range of another and an MTU while advertising are refused, also in the
runs without the other side. -/
theorem routers_and_prefixes_do_not_interfere_of_busy_session :
    let provider : Provider := .offering (.ok .threadDefault)
    let wide : Prefix := ⟨⟨0x20010db8000000000000000000000000⟩, 32⟩
    let narrow : Prefix := ⟨⟨0x20010db8000100000000000000000000⟩, 48⟩
    let ops : List Op := [.newSession "s" (some provider), .newPrefix "p", .edit "p" (.network wide),
      .set "s" (.interface 2), .addPrefix "s" "p", .attach "s" none 0, .newPrefix "q", .start "s",
      .edit "q" (.network narrow), .addPrefix "s" "q", .set "s" (.mtu 1500), .edit "p" (.onLink false)]
    let onRouters : List Op := [.newSession "s" (some provider), .set "s" (.interface 2),
      .attach "s" none 0, .start "s", .set "s" (.mtu 1500)]
    let onPrefixes : List Op := [.newSession "s" (some provider), .newPrefix "p",
      .edit "p" (.network wide), .addPrefix "s" "p", .newPrefix "q", .edit "q" (.network narrow),
      .addPrefix "s" "q", .edit "p" (.onLink false)]
    replies (fun op => !op.isPrefixSide) {} ops = [.done, .done, .done, .done, .failed .busy] ∧
      replies (fun op => !op.isRouterSide) {} ops =
        [.done, .done, .done, .done, .done, .done, .failed (.overlap narrow wide), .done] ∧
      (run {} ops).routerState = (run {} onRouters).routerState ∧
      ((run {} ops).session? 0).map (·.members) = ((run {} onPrefixes).session? 0).map (·.members) ∧
      (run {} ops).options [0] = (run {} onPrefixes).options [0] := by
  intro provider wide narrow ops onRouters onPrefixes
  have hproviders : ∀ session p, .newSession session (some p) ∈ ops → p.AddsNothing := by
    intro session p hmem
    simp only [ops, List.mem_cons, List.not_mem_nil, reduceCtorEq, or_false, Op.newSession.injEq,
      Option.some.injEq] at hmem
    obtain ⟨-, rfl⟩ := hmem
    exact Provider.addsNothing_offering _
  obtain ⟨⟨hrouterReplies, hrouters, -, -⟩, hprefixReplies, hmembers, -, hoptions, -⟩ :=
    routers_and_prefixes_do_not_interfere ops hproviders
  exact ⟨hrouterReplies.trans (by decide), hprefixReplies.trans (by decide), hrouters, hmembers 0,
    congrFun hoptions [0]⟩

end RouterAdvert.World
