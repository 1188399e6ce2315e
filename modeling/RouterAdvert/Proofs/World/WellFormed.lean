import RouterAdvert.Proofs.PrefixInformation.Encoding
import RouterAdvert.Proofs.World.Members

/-!
# Well-formed sessions and prefixes

No run gives a session an interface index, an MTU or a link address out of range, or a prefix a
length that a router may not advertise. That an advertising session has an interface takes two
checks: `start` asks for one, and from then on `set` is refused.
-/

namespace RouterAdvert

structure RouterParameters.WellFormed (r : RouterParameters) : Prop where
  interface : -1 ≤ r.interface
  mtu : ∀ size, r.mtu = some size → minMtu ≤ size
  linkAddress : r.linkAddress ≠ some .zero

theorem RouterParameters.wellFormed_default : WellFormed {} where
  interface := by decide
  mtu := by simp
  linkAddress := by simp

theorem Setting.wellFormed_store {setting : Setting} (h : setting.outOfRange? = none)
    {r : RouterParameters} (hr : r.WellFormed) : (setting.store r).WellFormed := by
  cases setting with
  | interface index =>
    have hindex : -1 ≤ index := by
      rw [← Int32.not_lt]
      intro hlt
      simp [outOfRange?, hlt] at h
    exact ⟨hindex, hr.mtu, hr.linkAddress⟩
  | linkAddress address =>
    refine ⟨hr.interface, hr.mtu, ?_⟩
    intro hzero
    have hfiltered : address.filter (· != .zero) = some .zero := hzero
    simp [Option.filter_eq_some_iff] at hfiltered
  | mtu size =>
    have hsize : minMtu ≤ size := by
      rw [← UInt32.not_lt]
      intro hlt
      simp [outOfRange?, hlt] at h
    refine ⟨hr.interface, ?_, hr.linkAddress⟩
    rintro _ ⟨⟩
    exact hsize
  | hopLimit | lifetime | managed | other => exact ⟨hr.interface, hr.mtu, hr.linkAddress⟩

namespace Session

/-- A session with parameters in range, and with an interface if it advertises. -/
structure WellFormed (s : Session) : Prop where
  router : s.router.WellFormed
  advertising : s.phase = .advertising → 1 ≤ s.router.interface

theorem wellFormed_new (provider : Option Provider) : WellFormed { provider } where
  router := RouterParameters.wellFormed_default
  advertising := by simp

theorem Effect.wellFormed {network : PrefixId → Prefix} {s t : Session} {c : Call EventLoop}
    {r : Except Error Unit} (heffect : Effect network s c t r) (h : s.WellFormed) :
    t.WellFormed := by
  cases heffect with
  | started attached interface =>
    have hpositive : 1 ≤ s.router.interface := by
      rw [Int32.not_le, Int32.lt_iff_toInt_lt] at interface
      exact Int32.le_iff_toInt_le.mpr interface
    exact ⟨h.router, fun _ => hpositive⟩
  | stopped => exact ⟨h.router, by simp⟩
  | stored inRange idle timing =>
    refine ⟨Setting.wellFormed_store inRange h.router, ?_⟩
    intro advertising
    cases idle.symm.trans advertising
  | preferred => exact ⟨⟨h.router.interface, h.router.mtu, h.router.linkAddress⟩, h.advertising⟩
  | refused | attached | detached | added => exact ⟨h.router, h.advertising⟩

end Session

theorem Prefix.lengthAllowed_iff {length : UInt8} :
    lengthAllowed length ↔ 3 ≤ length ∧ length ≤ 128 := by
  rw [lengthAllowed, Bool.and_eq_true, decide_eq_true_iff, decide_eq_true_iff]
  rfl

theorem Edit.lengthAllowed_apply {o : PrefixInformation} (change : Edit)
    (h : Prefix.lengthAllowed o.network.length) :
    Prefix.lengthAllowed (change.apply o).state.network.length := by
  cases change with
  | network value =>
    by_cases hvalue : Prefix.lengthAllowed value.length
    · simp [apply, hvalue]
    · simp [apply, hvalue, Outcome.fail, h]
  | onLink | autonomous | validLifetime | preferredLifetime => exact h

namespace World

/-- After any run all sessions are well formed, all prefixes have lengths from 3 to 128, and so do
all options of the members of a session or set, each read at its place. -/
theorem reachable_sessions_and_prefixes_well_formed (ops : List Op) :
    let w := run {} ops
    (∀ id s, w.session? id = some s → s.WellFormed) ∧
      (∀ p, 3 ≤ (w.network p).length ∧ (w.network p).length ≤ 128) ∧
      ∀ o, (w.options (w.members o)).length = PrefixInformation.size * (w.members o).length ∧
        ∀ place < (w.members o).length, ∃ i,
          PrefixInformation.decode (PrefixInformation.octetsAt (w.options (w.members o)) place) =
            .ok i ∧ Prefix.lengthAllowed i.network.length := by
  intro w
  have hlength : ∀ p, Prefix.lengthAllowed (w.network p).length :=
    option_invariant_run (P := fun o => Prefix.lengthAllowed o.network.length)
      (fun _ change h => change.lengthAllowed_apply h) (fun _ => rfl) ops
  refine ⟨?_, ?_, ?_⟩
  · refine session_invariant_run Session.wellFormed_new (fun effect h => effect.wellFormed h) ?_ ops
    intro id s hs
    cases hs
  · exact fun p => Prefix.lengthAllowed_iff.mp (hlength p)
  · intro o
    refine ⟨length_options _ _, ?_⟩
    intro place hplace
    exact ⟨_, decode_options _ (List.getElem?_eq_getElem hplace), hlength _⟩

/-- Here a session starts when it has an interface, and keeps it; its prefix keeps its length. -/
theorem reachable_sessions_and_prefixes_well_formed_after_refusals :
    let ops : List Op := [.newSession "s" none, .newLoop "e" "main", .attach "s" (some "e") 0,
      .start "s", .set "s" (.interface 2), .start "s", .set "s" (.interface 0), .newPrefix "p",
      .addPrefix "s" "p", .edit "p" (.network ⟨.unspecified, 2⟩)]
    let w := run {} ops
    ∃ s, w.session? 0 = some s ∧ s.phase = .advertising ∧ 1 ≤ s.router.interface ∧
      3 ≤ (w.network 0).length ∧
      ∃ i, PrefixInformation.decode (PrefixInformation.octetsAt (w.options s.members) 0) = .ok i ∧
        Prefix.lengthAllowed i.network.length := by
  intro ops w
  obtain ⟨hsessions, hprefixes, hoptions⟩ := reachable_sessions_and_prefixes_well_formed ops
  exact ⟨_, rfl, rfl, (hsessions 0 _ rfl).advertising rfl, (hprefixes 0).1,
    (hoptions (.session 0)).2 0 (by decide)⟩

end World

end RouterAdvert
