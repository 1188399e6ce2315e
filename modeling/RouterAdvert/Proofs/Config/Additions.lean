import RouterAdvert.Proofs.Config.Build
import RouterAdvert.Proofs.Config.Verdicts
import RouterAdvert.Proofs.World.Addition

/-!
# Validation and sets

Validation keeps indices and ranges, a set keeps shared prefixes. Both come to the same verdicts:
the faults of the prefixes are the refusals of a set to which the entries are added one by one.
Building adds them in the same way to a session, but stops at the first refusal.
-/

namespace RouterAdvert.Config

open World

/-- Makes a prefix from an entry and adds it. The name of the prefix is given up in any case. -/
def addEntry (w : World) (add : Op) (entry : PrefixConfig) : World.Result :=
  let tried := w.attempt (setUp entry ++ [add])
  { tried with state := (tried.state.step (.dropPrefix entryName)).world }

/-- Adds entries one after the other, whatever becomes of those before. -/
def addEntries (w : World) (add : Op) : List PrefixConfig → World × List (Except Error Unit)
  | [] => (w, [])
  | entry :: rest =>
    let first := addEntry w add entry
    let later := addEntries first.state add rest
    (later.1, first.result :: later.2)

/-- An operation that adds the prefix of an entry to the set of an owner. -/
inductive AddsEntry (w : World) : Owner → Op → Prop
  | session {name : String} {id : SessionId} (handle : w.sessionHandles.get? name = some id) :
      AddsEntry w (.session id) (.addPrefix name entryName)
  | set {name : String} : AddsEntry w (.set name) (.addToSet name entryName)

/-- A world in which entries can be added to a set. -/
structure Receives (w : World) (o : Owner) (add : Op) : Prop where
  unnamed : w.prefixHandles = []
  there : w.hasSet o
  made : ∀ p ∈ w.members o, p < w.prefixes.length
  adds : AddsEntry w o add

variable {w : World} {o : Owner} {add : Op} {entry : PrefixConfig} {e : Error}

theorem setNetworkText_of_unusable (w : World) (o : PrefixInformation)
    (h : entry.usable = .error e) :
    let next := (withEntry w o).step (.setNetworkText entryName entry.network)
    next.reply = .failed e ∧ next.world = withEntry w o := by
  intro next
  have hname : (withEntry w o).prefixHandles.get? entryName = some w.prefixes.length := rfl
  have hreply : next.reply = .failed e := by
    unfold PrefixConfig.usable at h
    cases hread : Prefix.read entry.network with
    | error cause =>
      rw [hread] at h
      cases h
      simp only [next, step, hname, hread, withHandle_some, unchanged]
    | ok value =>
      by_cases hlength : Prefix.lengthAllowed value.length
      · simp [hread, hlength] at h
      · simp only [hread, hlength, Bool.false_eq_true, if_false, Except.error.injEq] at h
        simp [next, step, hname, hread, editPrefix, Edit.apply, hlength, Outcome.fail, Outcome.lift,
          Result.answer, h]
  exact ⟨hreply, step_of_failed hreply rfl⟩

theorem attempt_setUp_of_unusable (hw : w.prefixHandles = []) (h : entry.usable = .error e) :
    (w.attempt (setUp entry)).result = .error e ∧
      (w.attempt (setUp entry)).state = withEntry w default := by
  have hnew : w.Accepts (.newPrefix entryName) := accepts_of_done rfl
  obtain ⟨hresult, hstate⟩ := attempt_cons_of_accepts hnew (setUp entry).tail
  obtain ⟨hreply, hworld⟩ := setNetworkText_of_unusable w default h
  rw [step_newEntry hw] at hresult hstate
  obtain ⟨hresult', hstate'⟩ := attempt_cons_of_failed hreply (setUp entry).tail.tail
  exact ⟨hresult.trans hresult', (hstate.trans hstate').trans hworld⟩

theorem AddsEntry.addition? (h : AddsEntry w o add) (info : PrefixInformation) :
    (withEntry w info).addition? add = some (o, w.prefixes.length) := by
  cases h with
  | session handle =>
    have hname : (withEntry w info).sessionHandles.get? _ = _ := handle
    simp only [World.addition?, hname]
    rfl
  | set => rfl

theorem Receives.next (h : Receives w o add) {v : World} {info : PrefixInformation}
    (named : v.prefixHandles = [(entryName, w.prefixes.length)])
    (prefixes : v.prefixes = w.prefixes ++ [info]) (handles : v.sessionHandles = w.sessionHandles)
    (there : v.hasSet o) {new : PrefixSet} (members : v.members o = w.members o ++ new)
    (hnew : ∀ p ∈ new, p = w.prefixes.length) :
    let next := (v.step (.dropPrefix entryName)).world
    Receives next o add ∧ (next.members o).map next.network =
      (w.members o).map w.network ++ new.map fun _ => info.network := by
  intro next
  have hnext : next = { v with prefixHandles := [] } := (step_dropEntry v named).2
  have hprefixes : next.prefixes = w.prefixes ++ [info] := by rw [hnext, ← prefixes]
  have hmembers : next.members o = w.members o ++ new := by
    rw [hnext, ← members]
    cases o <;> rfl
  have hthere : next.hasSet o := by
    rw [hnext]
    cases o <;> exact there
  have hmade : ∀ p ∈ next.members o, p < next.prefixes.length := by
    intro p hp
    rw [hmembers, List.mem_append] at hp
    rw [hprefixes, List.length_append, List.length_singleton]
    rcases hp with hold | hadded
    · exact Nat.lt_succ_of_lt (h.made p hold)
    · rw [hnew p hadded]
      exact Nat.lt_succ_self _
  have hadds : AddsEntry next o add := by
    rw [hnext]
    cases h.adds with
    | session handle => exact .session (handles ▸ handle)
    | set => exact .set
  have hold : ∀ p ∈ w.members o, next.network p = w.network p := by
    intro p hp
    simp only [network, option, hprefixes, List.getElem?_append_left (h.made p hp)]
  have hinfo : ∀ p ∈ new, next.network p = info.network := by
    intro p hp
    simp [network, option, hprefixes, hnew p hp]
  refine ⟨⟨by rw [hnext], hthere, hmade, hadds⟩, ?_⟩
  rw [hmembers, List.map_append, List.map_congr_left hold, List.map_congr_left hinfo]

theorem members_withEntry (w : World) (info : PrefixInformation) (o : Owner) :
    (withEntry w info).members o = w.members o := by
  cases o <;> rfl

theorem hasSet_withEntry (w : World) (info : PrefixInformation) (o : Owner) :
    (withEntry w info).hasSet o = w.hasSet o := by
  cases o <;> rfl

theorem Receives.firstOverlap?_withEntry (h : Receives w o add) (info : PrefixInformation) :
    let v := withEntry w info
    v.network w.prefixes.length = info.network ∧
      ((v.members o).firstOverlap? v.network info.network).map v.network =
        ((w.members o).map w.network).find? (·.overlaps info.network) := by
  intro v
  have hsame : (w.members o).map w.network = (w.members o).map v.network :=
    List.map_congr_left fun p hp => by rw [network, network, option_withEntry_of_lt (h.made p hp)]
  refine ⟨by rw [network, option_withEntry], ?_⟩
  rw [hsame, List.find?_map, members_withEntry]
  rfl

theorem Receives.attempt_add_of_overlap (h : Receives w o add) (info : PrefixInformation)
    {existing : Prefix}
    (hfind : ((w.members o).map w.network).find? (·.overlaps info.network) = some existing) :
    let tried := (withEntry w info).attempt [add]
    tried.result = .error (.overlap info.network existing) ∧ tried.state = withEntry w info := by
  obtain ⟨hnetwork, hfirst⟩ := h.firstOverlap?_withEntry info
  rw [hfind, ← hnetwork] at hfirst
  obtain ⟨m, hm, hexisting⟩ := Option.map_eq_some_iff.mp hfirst
  obtain ⟨hreply, hworld⟩ := addition_of_overlap (h.adds.addition? info)
    (hasSet_withEntry w info o ▸ h.there) hm
  rw [hnetwork, hexisting] at hreply
  obtain ⟨hresult, hstate⟩ := attempt_cons_of_failed hreply []
  exact ⟨hresult, hstate.trans hworld⟩

theorem Receives.attempt_add_of_free (h : Receives w o add) (info : PrefixInformation)
    (hfind : ((w.members o).map w.network).find? (·.overlaps info.network) = none) :
    let tried := (withEntry w info).attempt [add]
    tried.result = .ok () ∧
      tried.state = (withEntry w info).withMembers o (w.members o ++ [w.prefixes.length]) := by
  obtain ⟨hnetwork, hfirst⟩ := h.firstOverlap?_withEntry info
  rw [hfind, ← hnetwork, Option.map_eq_none_iff] at hfirst
  obtain ⟨hreply, hworld⟩ := step_addition_of_free (h.adds.addition? info)
    (hasSet_withEntry w info o ▸ h.there) hfirst
  obtain ⟨hresult, hstate⟩ := attempt_singleton (accepts_of_done hreply)
  rw [members_withEntry] at hworld
  exact ⟨hresult, hstate.trans hworld⟩

theorem Receives.forgotten (h : Receives w o add) (info : PrefixInformation) :
    let next := ((withEntry w info).step (.dropPrefix entryName)).world
    Receives next o add ∧ (next.members o).map next.network = (w.members o).map w.network := by
  have hmembers : (withEntry w info).members o = w.members o ++ [] :=
    (members_withEntry w info o).trans (List.append_nil _).symm
  obtain ⟨hnext, hranges⟩ := h.next (v := withEntry w info) rfl rfl rfl
    (hasSet_withEntry w info o ▸ h.there) hmembers (by simp)
  rw [List.map_nil, List.append_nil] at hranges
  exact ⟨hnext, hranges⟩

theorem Receives.extended (h : Receives w o add) (info : PrefixInformation) :
    let grown := (withEntry w info).withMembers o (w.members o ++ [w.prefixes.length])
    let next := (grown.step (.dropPrefix entryName)).world
    Receives next o add ∧
      (next.members o).map next.network = (w.members o).map w.network ++ [info.network] := by
  obtain ⟨hprefixes, hnames, hsessions⟩ := prefixes_withMembers (withEntry w info) o
    (w.members o ++ [w.prefixes.length])
  have hset : (withEntry w info).hasSet o := hasSet_withEntry w info o ▸ h.there
  exact h.next hnames hprefixes hsessions (hasSet_withMembers hset _) (members_withMembers hset _)
    (by simp)

/-- An entry gets the verdict on it, and if it is taken its range is the last one. -/
theorem Receives.addEntry (h : Receives w o add) (entry : PrefixConfig) :
    let added := addEntry w add entry
    let verdict := PrefixConfig.verdict ((w.members o).map w.network) entry
    added.result = verdict.map (fun _ => ()) ∧ Receives added.state o add ∧
      (added.state.members o).map added.state.network =
        (w.members o).map w.network ++ verdict.toOption.toList := by
  intro added verdict
  let tried := w.attempt (setUp entry ++ [add])
  have hadded : added.result = tried.result ∧
      added.state = (tried.state.step (.dropPrefix entryName)).world := ⟨rfl, rfl⟩
  cases husable : entry.usable with
  | error e =>
    obtain ⟨hresult, hstate⟩ := attempt_setUp_of_unusable h.unnamed husable
    obtain ⟨hresult', hstate'⟩ := attempt_append_of_error hresult [add]
    have hverdict : verdict = .error e := PrefixConfig.verdict_of_unusable husable _
    rw [hadded.1, hadded.2, hverdict, hstate'.trans hstate]
    obtain ⟨hnext, hranges⟩ := h.forgotten default
    exact ⟨hresult', hnext, hranges.trans (List.append_nil _).symm⟩
  | ok network =>
    obtain ⟨hsetUp, hrun⟩ := run_setUp h.unnamed entry
    obtain ⟨hresult, hstate⟩ :=
      attempt_append_of_acceptsAll (hsetUp.mpr ⟨network, husable⟩) [add]
    rw [hrun network husable] at hresult hstate
    cases hfind : ((w.members o).map w.network).find? (·.overlaps network) with
    | some existing =>
      obtain ⟨hresult', hstate'⟩ :=
        h.attempt_add_of_overlap (information entry network) hfind
      have hverdict : verdict = .error (.overlap network existing) :=
        PrefixConfig.verdict_of_overlap husable hfind
      rw [hadded.1, hadded.2, hverdict, hstate.trans hstate']
      obtain ⟨hnext, hranges⟩ := h.forgotten (information entry network)
      exact ⟨hresult.trans hresult', hnext, hranges.trans (List.append_nil _).symm⟩
    | none =>
      obtain ⟨hresult', hstate'⟩ := h.attempt_add_of_free (information entry network) hfind
      have hverdict : verdict = .ok network := PrefixConfig.verdict_of_free husable hfind
      rw [hadded.1, hadded.2, hverdict, hstate.trans hstate']
      exact ⟨hresult.trans hresult', h.extended (information entry network)⟩

theorem results_addEntries_cons (w : World) (add : Op) (entry : PrefixConfig)
    (rest : List PrefixConfig) :
    (addEntries w add (entry :: rest)).2 =
      (addEntry w add entry).result :: (addEntries (addEntry w add entry).state add rest).2 := rfl

/-- Adding entries gives the verdicts on them, and the ranges that are taken. -/
theorem Receives.addEntries (h : Receives w o add) (entries : List PrefixConfig) :
    let added := addEntries w add entries
    let verdicts := PrefixConfig.verdicts ((w.members o).map w.network) entries
    added.2 = verdicts.map (·.map fun _ => ()) ∧
      (added.1.members o).map added.1.network =
        (w.members o).map w.network ++ verdicts.filterMap Except.toOption := by
  induction entries generalizing w with
  | nil => exact ⟨rfl, (List.append_nil _).symm⟩
  | cons entry rest ih =>
    obtain ⟨hresult, hnext, hranges⟩ := h.addEntry entry
    obtain ⟨hresults, hlast⟩ := ih hnext
    rw [hranges] at hresults hlast
    refine ⟨congrArg₂ List.cons hresult hresults, hlast.trans ?_⟩
    rw [PrefixConfig.verdicts, List.append_assoc]
    cases PrefixConfig.verdict ((w.members o).map w.network) entry <;> rfl

theorem accepts_dropPrefix (w : World) (name : String) : w.Accepts (.dropPrefix name) := by
  intro e
  cases hname : w.prefixHandles.get? name <;> simp [step, hname, unchanged]

/-- The plan of an entry is the addition of the entry, up to the first error. -/
theorem attempt_prefixPlan (w : World) (entry : PrefixConfig) :
    let tried := w.attempt (prefixPlan entry)
    let added := addEntry w (.addPrefix sessionName entryName) entry
    tried.result = added.result ∧ (added.result = .ok () → tried.state = added.state) := by
  intro tried added
  let adding := setUp entry ++ [.addPrefix sessionName entryName]
  have hplan : tried = w.attempt (adding ++ [.dropPrefix entryName]) := rfl
  have hadded : added.result = (w.attempt adding).result ∧
      added.state = ((w.attempt adding).state.step (.dropPrefix entryName)).world := ⟨rfl, rfl⟩
  rw [hplan, hadded.1, hadded.2]
  cases hadding : (w.attempt adding).result with
  | error e => exact ⟨(attempt_append_of_error hadding _).1, fun hok => by cases hok⟩
  | ok =>
    have haccepts := (attempt_ok_iff w adding).mp hadding
    obtain ⟨hresult, hstate⟩ := attempt_append_of_acceptsAll haccepts [.dropPrefix entryName]
    obtain ⟨hdropped, hlast⟩ := attempt_singleton (accepts_dropPrefix (w.run adding) entryName)
    rw [hresult, hdropped, hstate, hlast, state_attempt haccepts]
    exact ⟨rfl, fun _ => rfl⟩

/-- Building adds entries to its session up to the first that is refused. -/
theorem attempt_prefixPlans (w : World) (entries : List PrefixConfig) :
    (w.attempt (entries.flatMap prefixPlan)).result =
      stopping (addEntries w (.addPrefix sessionName entryName) entries).2 := by
  induction entries generalizing w with
  | nil => rfl
  | cons entry rest ih =>
    obtain ⟨hresult, hstate⟩ := attempt_prefixPlan w entry
    rw [List.flatMap_cons, results_addEntries_cons]
    cases hadded : (addEntry w (.addPrefix sessionName entryName) entry).result with
    | error e => exact (attempt_append_of_error (hresult.trans hadded) _).1
    | ok =>
      have haccepts := (attempt_ok_iff w _).mp (hresult.trans hadded)
      rw [(attempt_append_of_acceptsAll haccepts _).1, ← state_attempt haccepts, hstate hadded, ih]
      rfl

theorem Building.receives {s : Session} (h : Building w s) :
    Receives w (.session 0) (.addPrefix sessionName entryName) where
  unnamed := h.prefixHandles
  there := by rw [hasSet, h.session?]; rfl
  made := by rw [members_session_of_live h.session?]; exact h.made
  adds := .session h.get?

def beforePrefixes (c : Config) : List Op :=
  .newSession sessionName (some .threadDefault) :: routerPlan c.router

/-- Building that gets as far as the prefixes comes to the first refusal among the verdicts. -/
theorem result_build_of_router {c : Config}
    (h : (World.attempt {} c.beforePrefixes).result = .ok ()) :
    c.build.result = stopping (PrefixConfig.verdicts [] c.prefixes) := by
  have haccepts := (attempt_ok_iff {} _).mp h
  have hbuilding := (building_new.routerPlan rfl c.router).2 haccepts.2
  have hmembers := members_session_of_live hbuilding.session?
  have hplan : c.plan = c.beforePrefixes ++ c.prefixes.flatMap prefixPlan := rfl
  have hadded := (hbuilding.receives.addEntries c.prefixes).1
  rw [hmembers, List.map_nil] at hadded
  rw [result_build_eq, hplan, (attempt_append_of_acceptsAll haccepts _).1, attempt_prefixPlans]
  exact (congrArg stopping hadded).trans (stopping_map _ _)

/-- Building goes through as long as there are only entries before a place, and fails with an error
from the entry at this place on. -/
def FailsAt (c : Config) (i : Nat) (e : Error) : Prop :=
  ∀ n, ({ c with prefixes := c.prefixes.take n } : Config).build.result =
    if i < n then .error e else .ok ()

theorem receives_newSet (set : String) :
    let w := (World.step {} (.newSet set)).world
    Receives w (.set set) (.addToSet set entryName) ∧ w.members (.set set) = [] := by
  intro w
  have hget : w.sets.get? set = some [] := by simp [w, step, Handles.get?_bind]
  have hmembers : w.members (.set set) = [] := by
    rw [World.members, hget]
    rfl
  refine ⟨⟨rfl, ?_, ?_, .set⟩, hmembers⟩
  · rw [hasSet, hget]
    rfl
  · rw [hmembers]
    simp

/-- Building fails at the first entry that is refused, with the same error. -/
theorem failsAt_of_refusals {c : Config} (h : (World.attempt {} c.beforePrefixes).result = .ok ())
    {i : Nat} {e : Error} {others : List (Nat × Error)}
    (hrefused : refusals 0 (PrefixConfig.verdicts [] c.prefixes) = (i, e) :: others) :
    c.build.result = .error e ∧ c.FailsAt i e := by
  refine ⟨(result_build_of_router h).trans (stopping_of_refusals_cons hrefused), fun n => ?_⟩
  have hplace : refusals 0 (PrefixConfig.verdicts [] c.prefixes) = (0 + i, e) :: others := by
    rw [hrefused, Nat.zero_add]
  have hprefixes : ({ c with prefixes := c.prefixes.take n } : Config).build.result = _ :=
    result_build_of_router h
  rw [hprefixes, PrefixConfig.verdicts_take, stopping_take hplace]

/-- The faults of the prefixes are the refusals of a new set to which the entries are added one by
one, in the same order and each told as what it is. Entries that are not usable are refused for
that, and all that are not refused become members. A build that gets as far as the prefixes goes
through if there is no such fault, and else fails at the entry of the first one with the error that
it tells. -/
theorem prefix_faults_tell_refused_additions (c : Config) (set : String) :
    let faults := (PrefixConfig.findings [] 0 c.prefixes).faults
    let added := addEntries (World.step {} (.newSet set)).world (.addToSet set entryName) c.prefixes
    let refused := refusals 0 added.2
    c.validate.faults = c.router.findings.faults ++ faults ∧
      added.2.length = c.prefixes.length ∧
      (∀ (i : Nat) e, c.prefixes[i]?.map PrefixConfig.usable = some (.error e) →
        added.2[i]? = some (.error e)) ∧
      List.Forall₂ (PrefixConfig.Tells c.prefixes added.2) refused faults ∧
      refused.Pairwise (fun a b => a.1 < b.1) ∧
      faults.length + (added.1.members (.set set)).length = c.prefixes.length ∧
      ((World.attempt {} c.beforePrefixes).result = .ok () →
        (c.build.result = .ok () ↔ faults = []) ∧
          ∀ f others, faults = f :: others → ∃ i e, refused.head? = some (i, e) ∧
            PrefixConfig.Tells c.prefixes added.2 (i, e) f ∧ c.build.result = .error e ∧
            c.FailsAt i e) := by
  intro faults added refused
  obtain ⟨hreceives, hmembers⟩ := receives_newSet set
  obtain ⟨hresults, hranges⟩ := hreceives.addEntries c.prefixes
  rw [hmembers, List.map_nil, List.nil_append] at hranges
  rw [hmembers, List.map_nil] at hresults
  have hrefused : refused = refusals 0 (PrefixConfig.verdicts [] c.prefixes) :=
    (congrArg (refusals 0) hresults).trans (refusals_map _ _ _)
  have htells : List.Forall₂ (PrefixConfig.Tells c.prefixes added.2) refused faults := by
    rw [hrefused, hresults]
    exact (PrefixConfig.judged_start c.prefixes).forall₂_tells
  have hcount : faults.length + (added.1.members (.set set)).length = c.prefixes.length := by
    have htaken := congrArg List.length hranges
    rw [List.length_map] at htaken
    rw [← htells.length_eq, htaken, hrefused, length_refusals, PrefixConfig.length_verdicts]
  have hlength : added.2.length = c.prefixes.length := by
    rw [hresults, List.length_map, PrefixConfig.length_verdicts]
  have hunusable : ∀ (i : Nat) e, c.prefixes[i]?.map PrefixConfig.usable = some (.error e) →
      added.2[i]? = some (.error e) := by
    intro i e h
    rw [hresults, List.getElem?_map, PrefixConfig.getElem?_verdicts_of_unusable h]
    rfl
  refine ⟨rfl, hlength, hunusable, htells, pairwise_refusals _ _, hcount, ?_⟩
  intro hrouter
  cases hfaults : faults with
  | nil =>
    rw [hfaults, List.forall₂_nil_right_iff, hrefused] at htells
    refine ⟨iff_of_true ?_ rfl, fun f others h => by cases h⟩
    exact (result_build_of_router hrouter).trans (stopping_of_refusals_nil htells)
  | cons f others =>
    rw [hfaults] at htells
    obtain ⟨⟨i, e⟩, rest, hfirst, -, hcons⟩ := List.forall₂_cons_right_iff.mp htells
    obtain ⟨hfailed, hfailsAt⟩ := failsAt_of_refusals hrouter (hrefused.symm.trans hcons)
    refine ⟨iff_of_false ?_ (List.cons_ne_nil _ _), ?_⟩
    · rw [hfailed]
      intro hok
      cases hok
    · rintro _ _ ⟨⟩
      exact ⟨i, e, by rw [hcons]; rfl, hfirst, hfailed, hfailsAt⟩

/-- Here two entries are not usable, and two others overlap an entry before them that was taken. -/
theorem prefix_faults_tell_refused_additions_of_mixed_entries :
    let c : Config := {
      router := { interface := some 2 }
      prefixes := [{ network := "2001:db8::/32" }, { network := "nonsense" },
        { network := "2001:db8:1::/48" }, { network := "::/2" }, { network := "2001:db9::/32" },
        { network := "2001:db9:0:1::/64" }] }
    let faults := (PrefixConfig.findings [] 0 c.prefixes).faults
    let added := addEntries (World.step {} (.newSet "x")).world (.addToSet "x" entryName) c.prefixes
    faults = [.unusablePrefix 1 (.malformed (.network "nonsense" .noLength)),
        .overlappingPrefix 2 ⟨.ofGroups [0x2001, 0xdb8, 1, 0, 0, 0, 0, 0], 48⟩ 0,
        .unusablePrefix 3 (.outOfRange (.prefixLength 2)),
        .overlappingPrefix 5 ⟨.ofGroups [0x2001, 0xdb9, 0, 1, 0, 0, 0, 0], 64⟩ 4] ∧
      (added.1.members (.set "x")).length = 2 ∧
      c.build.result = .error (.malformed (.network "nonsense" .noLength)) ∧
      c.FailsAt 1 (.malformed (.network "nonsense" .noLength)) := by
  intro c faults added
  have hfaults : faults = [.unusablePrefix 1 (.malformed (.network "nonsense" .noLength)),
      .overlappingPrefix 2 ⟨.ofGroups [0x2001, 0xdb8, 1, 0, 0, 0, 0, 0], 48⟩ 0,
      .unusablePrefix 3 (.outOfRange (.prefixLength 2)),
      .overlappingPrefix 5 ⟨.ofGroups [0x2001, 0xdb9, 0, 1, 0, 0, 0, 0], 64⟩ 4] := by
    decide
  obtain ⟨-, -, -, -, -, hcount, hbuild⟩ := prefix_faults_tell_refused_additions c "x"
  have hmembers : (added.1.members (.set "x")).length = 2 := by
    rw [show (PrefixConfig.findings [] 0 c.prefixes).faults = _ from hfaults] at hcount
    change 4 + (added.1.members (.set "x")).length = 4 + 2 at hcount
    exact Nat.add_left_cancel hcount
  obtain ⟨i, e, -, htells, hfailed, hplace⟩ := (hbuild rfl).2 _ _ hfaults
  cases htells with
  | unusable check fault text place =>
    cases fault
    exact ⟨hfaults, hmembers, hfailed, hplace⟩
  | overlap check earlier taken only fault text places range => cases fault

end RouterAdvert.Config
