import RouterAdvert.Proofs.Config.Building
import RouterAdvert.Proofs.PrefixSet.Growth
import RouterAdvert.Proofs.World.Edits

/-!
# Adding the prefixes

An entry of a configuration is a prefix with a name while it is set up, and a member of the session
after that. The entries can be added one by one exactly if their texts stand for prefixes and no
range overlaps that of an entry before it.
-/

namespace RouterAdvert.Config

open World

variable {w : World} {s : Session}

/-- The world with one more prefix, which has a name while it is set up. -/
def withEntry (w : World) (o : PrefixInformation) : World :=
  { w with prefixes := w.prefixes ++ [o], prefixHandles := [(entryName, w.prefixes.length)] }

theorem option_withEntry (w : World) (o : PrefixInformation) :
    (withEntry w o).option w.prefixes.length = o := by
  simp [withEntry, World.option]

theorem option_withEntry_of_lt {p : PrefixId} (h : p < w.prefixes.length) (o : PrefixInformation) :
    (withEntry w o).option p = w.option p := by
  simp [withEntry, World.option, List.getElem?_append_left h]

theorem map_network (w : World) (members : PrefixSet) :
    members.map w.network = (members.map w.option).map (·.network) := by
  rw [List.map_map]
  rfl

theorem set_withEntry (w : World) (o changed : PrefixInformation) :
    { withEntry w o with prefixes := (withEntry w o).prefixes.set w.prefixes.length changed } =
      withEntry w changed := by
  simp [withEntry]

theorem step_newEntry (h : w.prefixHandles = []) :
    (w.step (.newPrefix entryName)).world = withEntry w default := by
  simp [step, withEntry, h, Handles.bind]

theorem step_edit_withEntry (w : World) (o : PrefixInformation) (change : Edit) :
    ((withEntry w o).Accepts (.edit entryName change) ↔ (change.apply o).result = .ok ()) ∧
      ((withEntry w o).step (.edit entryName change)).world =
        withEntry w (change.apply o).state := by
  have hstep : (withEntry w o).step (.edit entryName change) =
      ((withEntry w o).editPrefix w.prefixes.length change).answer := by
    simp [step, withEntry, Handles.get?]
  constructor
  · rw [accepts_iff_of_answer hstep, editPrefix, option_withEntry]
    rfl
  · rw [hstep]
    have hset := set_withEntry w o (change.apply ((withEntry w o).option w.prefixes.length)).state
    exact hset.trans (by rw [option_withEntry])

def information (entry : PrefixConfig) (network : Prefix) : PrefixInformation where
  network := network
  onLink := entry.onLink
  autonomous := entry.autonomous
  validLifetime := entry.validLifetime
  preferredLifetime := entry.preferredLifetime

def setUp (entry : PrefixConfig) : List Op :=
  [.newPrefix entryName,
    .setNetworkText entryName entry.network,
    .edit entryName (.onLink entry.onLink),
    .edit entryName (.autonomous entry.autonomous),
    .edit entryName (.preferredLifetime entry.preferredLifetime),
    .edit entryName (.validLifetime entry.validLifetime)]

theorem prefixPlan_eq (entry : PrefixConfig) :
    prefixPlan entry =
      setUp entry ++ [.addPrefix sessionName entryName, .dropPrefix entryName] := rfl

/-- The text of an entry is accepted if it stands for a prefix that a router may advertise. -/
theorem setNetworkText_withEntry (w : World) (entry : PrefixConfig) (o : PrefixInformation) :
    ((withEntry w o).Accepts (.setNetworkText entryName entry.network) ↔
      ∃ network, entry.usable = .ok network) ∧
    ∀ network, entry.usable = .ok network →
      ((withEntry w o).step (.setNetworkText entryName entry.network)).world =
        withEntry w { o with network } := by
  have hname : (withEntry w o).prefixHandles.get? entryName = some w.prefixes.length := rfl
  cases hread : Prefix.read entry.network with
  | error cause =>
    simp [Accepts, step, hname, hread, unchanged, PrefixConfig.usable]
  | ok value =>
    have hstep : (withEntry w o).step (.setNetworkText entryName entry.network) =
        (withEntry w o).step (.edit entryName (.network value)) := by
      simp only [step, hname, withHandle_some, hread]
    rcases step_edit_withEntry w o (.network value) with ⟨haccepts, hworld⟩
    rw [Accepts, hstep]
    rw [Edit.result_apply] at haccepts
    by_cases hlength : Prefix.lengthAllowed value.length
    · have husable : entry.usable = .ok value := by simp [PrefixConfig.usable, hread, hlength]
      refine ⟨iff_of_true (haccepts.mpr hlength) ⟨value, husable⟩, ?_⟩
      intro network hnetwork
      rw [husable] at hnetwork
      cases hnetwork
      rw [hworld, Edit.state_apply_network o hlength]
    · have hunusable : ∀ network, entry.usable ≠ .ok network := by
        intro network
        simp [PrefixConfig.usable, hread, hlength]
      refine ⟨iff_of_false (fun h => hlength (haccepts.mp h)) ?_, ?_⟩
      · rintro ⟨network, hnetwork⟩
        exact hunusable network hnetwork
      · intro network hnetwork
        exact absurd hnetwork (hunusable network)

theorem run_setUp (h : w.prefixHandles = []) (entry : PrefixConfig) :
    (w.AcceptsAll (setUp entry) ↔ ∃ network, entry.usable = .ok network) ∧
      ∀ network, entry.usable = .ok network →
        w.run (setUp entry) = withEntry w (information entry network) := by
  rcases setNetworkText_withEntry w entry default with ⟨htext, hworld⟩
  have hnew : w.Accepts (.newPrefix entryName) := accepts_of_done rfl
  constructor
  · simp only [setUp, AcceptsAll, hnew, step_newEntry h, htext, true_and, and_true]
    constructor
    · exact fun hall => hall.1
    · rintro ⟨network, husable⟩
      refine ⟨⟨network, husable⟩, ?_⟩
      rw [hworld network husable]
      simp [step_edit_withEntry, Edit.apply]
  · intro network husable
    simp only [setUp, run, step_newEntry h, hworld network husable, step_edit_withEntry,
      Edit.apply]
    rfl

theorem step_dropEntry (v : World) {p : PrefixId} (h : v.prefixHandles = [(entryName, p)]) :
    v.Accepts (.dropPrefix entryName) ∧
      (v.step (.dropPrefix entryName)).world = { v with prefixHandles := [] } := by
  have hname : v.prefixHandles.get? entryName = some p := by
    rw [h]
    rfl
  have hdrop : v.prefixHandles.drop entryName = [] := by
    rw [h]
    rfl
  refine ⟨accepts_of_done ?_, ?_⟩ <;> simp only [step, hname, hdrop, withHandle_some]

theorem Building.addition (h : Building w s) (o : PrefixInformation) :
    let added := { s with members := s.members ++ [w.prefixes.length] }
    Building { (withEntry w o).putSession 0 added with prefixHandles := [] } added where
  sessions := by simp [putSession, withEntry, h.sessions]
  sessionHandles := h.sessionHandles
  prefixHandles := rfl
  idle := h.idle
  detached := h.detached
  provider := h.provider
  made := by
    intro p hp
    simp only [putSession, withEntry, List.length_append, List.length_singleton]
    rcases List.mem_append.mp hp with hold | hnew
    · exact Nat.lt_succ_of_lt (h.made p hold)
    · rw [List.mem_singleton.mp hnew]
      exact Nat.lt_succ_self _

/-- An entry that was set up is added if its range is free. -/
theorem Building.addEntry (h : Building w s) (o : PrefixInformation) :
    let ops : List Op := [.addPrefix sessionName entryName, .dropPrefix entryName]
    let added := { s with members := s.members ++ [w.prefixes.length] }
    let next := (withEntry w o).run ops
    ((withEntry w o).AcceptsAll ops ↔
      ∀ other ∈ s.members.map w.network, other.overlaps o.network = false) ∧
    ((withEntry w o).AcceptsAll ops → Building next added ∧
      added.members.map next.option = s.members.map w.option ++ [o]) := by
  have hname : (withEntry w o).sessionHandles.get? sessionName = some 0 := h.get?
  have hlive : (withEntry w o).session? 0 = some s := h.session?
  obtain ⟨haccepts, hworld⟩ := accepts_call hname hlive (.addPrefix sessionName entryName)
    (Session.add (withEntry w o).network · w.prefixes.length) rfl rfl
  have hnetwork : (withEntry w o).network w.prefixes.length = o.network := by
    rw [network, option_withEntry]
  have hsame : s.members.map (withEntry w o).option = s.members.map w.option :=
    List.map_congr_left fun p hp => option_withEntry_of_lt (h.made p hp) o
  have hfree : (s.members.firstOverlap? (withEntry w o).network o.network = none) ↔
      ∀ other ∈ s.members.map w.network, other.overlaps o.network = false := by
    rw [← hnetwork, PrefixSet.firstOverlap?_eq_none_iff, map_network, ← hsame, ← map_network,
      List.forall_mem_map]
    rfl
  simp only [Session.add, PrefixSet.add, hnetwork] at haccepts hworld
  intro ops added next
  cases hoverlap : s.members.firstOverlap? (withEntry w o).network o.network with
  | some existing =>
    rw [hoverlap] at haccepts hfree
    have hrefused : ¬(withEntry w o).AcceptsAll ops := by
      rintro ⟨hadd, -⟩
      have := haccepts.mp hadd
      cases this
    exact ⟨iff_of_false hrefused fun hall => by simpa using hfree.mpr hall,
      fun hall => absurd hall hrefused⟩
  | none =>
    rw [hoverlap] at haccepts hworld hfree
    have hadd := haccepts.mpr rfl
    have hdrop := step_dropEntry ((withEntry w o).putSession 0 added) rfl
    have hnext : next = { (withEntry w o).putSession 0 added with prefixHandles := [] } := by
      change (World.step _ (.dropPrefix entryName)).world = _
      rw [hworld]
      exact hdrop.2
    have hall : (withEntry w o).AcceptsAll ops := by
      refine ⟨hadd, ?_, trivial⟩
      rw [hworld]
      exact hdrop.1
    refine ⟨iff_of_true hall (hfree.mp rfl), fun _ => ?_⟩
    rw [hnext]
    refine ⟨h.addition o, ?_⟩
    change added.members.map (withEntry w o).option = _
    rw [List.map_append, List.map_singleton, option_withEntry, hsame]

/-- The plan of an entry goes through if it is usable and its range is free; then the session has
one more member, with the option of the entry. -/
theorem Building.prefixPlan (h : Building w s) (entry : PrefixConfig) :
    (w.AcceptsAll (Config.prefixPlan entry) ↔ ∃ network, entry.usable = .ok network ∧
      ∀ other ∈ s.members.map w.network, other.overlaps network = false) ∧
    (w.AcceptsAll (Config.prefixPlan entry) → ∀ network, entry.usable = .ok network → ∃ t,
      Building (w.run (Config.prefixPlan entry)) t ∧ t.router = s.router ∧
        t.members.map (w.run (Config.prefixPlan entry)).option =
          s.members.map w.option ++ [information entry network]) := by
  rcases run_setUp h.prefixHandles entry with ⟨hsetUp, hrun⟩
  rw [prefixPlan_eq, acceptsAll_append, run_append]
  constructor
  · constructor
    · rintro ⟨hset, hadd⟩
      rcases hsetUp.mp hset with ⟨network, husable⟩
      rw [hrun network husable] at hadd
      exact ⟨network, husable, (h.addEntry (information entry network)).1.mp hadd⟩
    · rintro ⟨network, husable, hranges⟩
      rw [hrun network husable]
      exact ⟨hsetUp.mpr ⟨network, husable⟩, (h.addEntry (information entry network)).1.mpr hranges⟩
  · rintro ⟨hset, hadd⟩ network husable
    rw [hrun network husable] at hadd ⊢
    rcases (h.addEntry (information entry network)).2 hadd with ⟨hbuilding, hoptions⟩
    exact ⟨_, hbuilding, rfl, hoptions⟩

/-- The plan of the prefixes goes through if they can be added one by one. -/
theorem Building.accepts_prefixPlans (h : Building w s) (entries : List PrefixConfig) :
    w.AcceptsAll (entries.flatMap Config.prefixPlan) ↔
      PrefixConfig.Fits (s.members.map w.network) entries := by
  induction entries generalizing w s with
  | nil => simp [AcceptsAll, PrefixConfig.Fits]
  | cons entry rest ih =>
    rcases h.prefixPlan entry with ⟨hplan, hnext⟩
    have hrest : ∀ network, entry.usable = .ok network → w.AcceptsAll (Config.prefixPlan entry) →
        ((w.run (Config.prefixPlan entry)).AcceptsAll (rest.flatMap Config.prefixPlan) ↔
          PrefixConfig.Fits (s.members.map w.network ++ [network]) rest) := by
      intro network husable hentry
      rcases hnext hentry network husable with ⟨t, ht, -, hoptions⟩
      rw [ih ht, map_network, hoptions, List.map_append, ← map_network]
      rfl
    rw [List.flatMap_cons, acceptsAll_append, PrefixConfig.Fits]
    constructor
    · rintro ⟨hentry, hothers⟩
      rcases hplan.mp hentry with ⟨network, husable, hranges⟩
      exact ⟨network, husable, hranges, (hrest network husable hentry).mp hothers⟩
    · rintro ⟨network, husable, hranges, hfits⟩
      have hentry := hplan.mpr ⟨network, husable, hranges⟩
      exact ⟨hentry, (hrest network husable hentry).mpr hfits⟩

/-- The plan of the prefixes adds them in their order, each with its option, and ranges that share
no address stay so. -/
theorem Building.run_prefixPlans (h : Building w s) {entries : List PrefixConfig}
    (haccepts : w.AcceptsAll (entries.flatMap Config.prefixPlan))
    (hseparate : PrefixSet.Separate w.network s.members) :
    let next := w.run (entries.flatMap Config.prefixPlan)
    ∃ t, Building next t ∧ t.router = s.router ∧
      (t.members.map next.option).map .ok = (s.members.map w.option).map .ok ++
        entries.map (fun entry => entry.usable.map (information entry)) ∧
      PrefixSet.Separate next.network t.members := by
  induction entries generalizing w s with
  | nil => exact ⟨s, h, rfl, (List.append_nil _).symm, hseparate⟩
  | cons entry rest ih =>
    rw [List.flatMap_cons, acceptsAll_append] at haccepts
    rw [List.flatMap_cons, run_append]
    rcases haccepts with ⟨hentry, hrest⟩
    rcases h.prefixPlan entry with ⟨hplan, hnext⟩
    rcases hplan.mp hentry with ⟨network, husable, hfree⟩
    rcases hnext hentry network husable with ⟨u, hu, hrouter, hoptions⟩
    have hseparateNext : PrefixSet.Separate (w.run (Config.prefixPlan entry)).network u.members := by
      rw [PrefixSet.separate_iff_pairwise_map, map_network, hoptions, List.map_append, ← map_network,
        List.pairwise_append]
      refine ⟨PrefixSet.separate_iff_pairwise_map.mp hseparate, List.pairwise_singleton _ _, ?_⟩
      intro other hother added hadded
      rw [List.map_singleton, List.mem_singleton] at hadded
      rw [hadded]
      exact hfree other hother
    rcases ih hu hrest hseparateNext with ⟨t, ht, hrouter', hoptions', hend⟩
    refine ⟨t, ht, hrouter'.trans hrouter, ?_, hend⟩
    have hentryOption : entry.usable.map (information entry) = .ok (information entry network) := by
      rw [husable]
      rfl
    rw [hoptions', hoptions, List.map_append, List.append_assoc, List.map_cons (l := rest),
      hentryOption]
    rfl

end RouterAdvert.Config
