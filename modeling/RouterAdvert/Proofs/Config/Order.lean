import Mathlib.Data.List.FinRange
import Mathlib.Logic.Equiv.Fin.Rotate
import RouterAdvert.Proofs.Config.Realization

/-!
# The order of the entries

Which entries are refused depends on their order, as each is compared with those before it only. But
whether one is refused does not: no entry is exactly if all are usable and no two ranges overlap.
And as an option depends on its entry alone, the options of a session follow the entries into any
order.
-/

namespace RouterAdvert

namespace PrefixConfig

/-- The ranges that two entries ask for do not overlap. -/
def Apart (entry other : PrefixConfig) : Prop :=
  ∀ p q, entry.usable = .ok p → other.usable = .ok q → p.overlaps q = false

theorem Apart.symm {entry other : PrefixConfig} (h : entry.Apart other) : other.Apart entry := by
  intro p q hp hq
  rw [Prefix.overlaps_comm]
  exact h q p hq hp

/-- Entries that are added one by one fit if each is usable and free of what is there, and no two
of them overlap. -/
theorem fits_iff (accepted : List Prefix) (entries : List PrefixConfig) :
    Fits accepted entries ↔
      (∀ entry ∈ entries, ∃ network, entry.usable = .ok network ∧
        ∀ other ∈ accepted, other.overlaps network = false) ∧ entries.Pairwise Apart := by
  induction entries generalizing accepted with
  | nil => simp [Fits]
  | cons entry rest ih =>
    rw [Fits, List.forall_mem_cons, List.pairwise_cons]
    constructor
    · rintro ⟨network, husable, hfree, hfits⟩
      obtain ⟨hrest, happart⟩ := (ih _).mp hfits
      refine ⟨⟨⟨network, husable, hfree⟩, ?_⟩, ?_, happart⟩
      · intro later hlater
        obtain ⟨p, hp, hother⟩ := hrest later hlater
        exact ⟨p, hp, fun other hmem => hother other (List.mem_append_left _ hmem)⟩
      · intro later hlater p q hp hq
        obtain ⟨found, hfound, hother⟩ := hrest later hlater
        cases husable.symm.trans hp
        cases hfound.symm.trans hq
        exact hother network (List.mem_append_right _ (List.mem_singleton_self _))
    · rintro ⟨⟨⟨network, husable, hfree⟩, hrest⟩, hfirst, happart⟩
      refine ⟨network, husable, hfree, (ih _).mpr ⟨?_, happart⟩⟩
      intro later hlater
      obtain ⟨p, hp, hother⟩ := hrest later hlater
      refine ⟨p, hp, ?_⟩
      rw [List.forall_mem_append, List.forall_mem_singleton]
      exact ⟨hother, hfirst later hlater network p husable hp⟩

/-- Whether entries fit does not depend on their order. -/
theorem fits_iff_of_perm {entries others : List PrefixConfig} (h : entries.Perm others)
    (accepted : List Prefix) : Fits accepted entries ↔ Fits accepted others := by
  rw [fits_iff, fits_iff, h.pairwise_iff Apart.symm]
  apply and_congr_left'
  constructor
  · intro hall entry hmem
    exact hall entry (h.mem_iff.mpr hmem)
  · intro hall entry hmem
    exact hall entry (h.mem_iff.mp hmem)

def option (entry : PrefixConfig) : PrefixInformation :=
  (entry.usable.map (Config.information entry)).toOption.getD default

end PrefixConfig

namespace Config

open World PrefixInformation

/-- The same configuration with its entries in another order: at each place stands the entry from
the place that `order` gives. -/
def reorder (c : Config) (order : Equiv.Perm (Fin c.prefixes.length)) : Config :=
  { c with prefixes := List.ofFn fun place => c.prefixes[order place] }

theorem perm_reorder (c : Config) (order : Equiv.Perm (Fin c.prefixes.length)) :
    (c.reorder order).prefixes.Perm c.prefixes := by
  have hsame : List.ofFn (fun place : Fin c.prefixes.length => c.prefixes[place]) = c.prefixes :=
    List.ofFn_getElem
  rw [← hsame]
  exact order.ofFn_comp_perm fun place => c.prefixes[place]

theorem build_ok_iff_fits (c : Config) :
    c.build.result = .ok () ↔ c.router.Settable ∧ PrefixConfig.Fits [] c.prefixes := by
  rw [result_build, (acceptsAll_plan c).1]

theorem hasFaults_eq_false_iff_fits (c : Config) :
    c.validate.hasFaults = false ↔
      c.router.findings.faults = [] ∧ PrefixConfig.Fits [] c.prefixes := by
  have hprefixes := PrefixConfig.faults_findings_eq_nil_iff [] 0 c.prefixes
  rw [List.map_nil] at hprefixes
  rw [Findings.hasFaults, Bool.not_eq_false', List.isEmpty_iff, validate, Findings.faults_append,
    List.append_eq_nil_iff, hprefixes]

/-- The options of a session that was built are those that the entries ask for. -/
theorem options_of_build {c : Config} (h : c.build.result = .ok ()) :
    ∃ s, namedSession? c.build.state sessionName = some s ∧
      c.build.state.options s.members =
        c.prefixes.flatMap fun entry => entry.option.encode := by
  have haccepts := (result_build c).mp h
  obtain ⟨s, hs, -, hoptions, -⟩ := run_plan haccepts
  have hnamed : namedSession? (run {} c.plan) sessionName = some s := by
    rw [namedSession?, hs.get?]
    exact hs.session?
  have hentries : s.members.map (run {} c.plan).option = c.prefixes.map (·.option) := by
    have hread := congrArg (List.map fun o => (Except.toOption o).getD default) hoptions
    simp only [List.map_map] at hread
    exact hread
  rw [state_build haccepts]
  refine ⟨s, hnamed, ?_⟩
  rw [World.options, ← List.flatMap_map, hentries, List.flatMap_map]

theorem flatMap_reorder (c : Config) (order : Equiv.Perm (Fin c.prefixes.length)) :
    ((c.reorder order).prefixes.flatMap fun entry => entry.option.encode) =
      (List.ofFn fun place =>
        octetsAt (c.prefixes.flatMap fun entry => entry.option.encode) (order place)).flatten := by
  have hplace : ∀ place : Fin c.prefixes.length,
      octetsAt (c.prefixes.flatMap fun entry => entry.option.encode) place =
        c.prefixes[place].option.encode := fun place =>
    octetsAt_flatMap_encode (List.getElem?_eq_getElem place.isLt)
  simp only [hplace]
  rw [List.flatMap_def, reorder, List.map_ofFn]
  rfl

/-- Neither building nor validating depends on the order of the entries for its verdict. The options
of the session that is built are the same octets for each entry, in the order of the entries. -/
theorem acceptance_ignores_order (c : Config) (order : Equiv.Perm (Fin c.prefixes.length)) :
    let d := c.reorder order
    (c.build.result = .ok () ↔ d.build.result = .ok ()) ∧
      c.validate.hasFaults = d.validate.hasFaults ∧
      (c.build.result = .ok () → ∃ s t, namedSession? c.build.state sessionName = some s ∧
        namedSession? d.build.state sessionName = some t ∧
        let octets := c.build.state.options s.members
        octets.length = size * c.prefixes.length ∧
          d.build.state.options t.members =
            (List.ofFn fun place => octetsAt octets (order place)).flatten) := by
  intro d
  have hfits : PrefixConfig.Fits [] c.prefixes ↔ PrefixConfig.Fits [] d.prefixes :=
    PrefixConfig.fits_iff_of_perm (c.perm_reorder order).symm []
  have hbuild : c.build.result = .ok () ↔ d.build.result = .ok () := by
    rw [build_ok_iff_fits, build_ok_iff_fits, hfits]
    rfl
  have hvalidate : c.validate.hasFaults = d.validate.hasFaults := by
    rw [Bool.eq_iff_iff, ← not_iff_not, Bool.not_eq_true, Bool.not_eq_true,
      hasFaults_eq_false_iff_fits, hasFaults_eq_false_iff_fits, hfits]
    rfl
  refine ⟨hbuild, hvalidate, ?_⟩
  intro hok
  obtain ⟨s, hs, hoptions⟩ := options_of_build hok
  obtain ⟨t, ht, hoptions'⟩ := options_of_build (hbuild.mp hok)
  refine ⟨s, t, hs, ht, ?_, ?_⟩
  · rw [hoptions, length_flatMap_encode]
  · rw [hoptions', hoptions]
    exact c.flatMap_reorder order

/-- Here the entries are rotated, so that each stands in the place of another. -/
theorem acceptance_ignores_order_of_rotation :
    let c : Config := {
      prefixes := [{ network := "2001:db8::/64" }, { network := "fd00::1/48", onLink := false },
        { network := "2001:db8:0:1::/64", validLifetime := 20 }] }
    let d := c.reorder (finRotate 3)
    c.build.result = .ok () ∧ d.build.result = .ok () ∧ d.validate.hasFaults = true ∧
      ∃ s t, namedSession? c.build.state sessionName = some s ∧
        namedSession? d.build.state sessionName = some t ∧
        d.build.state.options t.members =
          octetsAt (c.build.state.options s.members) 1 ++
            octetsAt (c.build.state.options s.members) 2 ++
            octetsAt (c.build.state.options s.members) 0 := by
  intro c d
  obtain ⟨hbuild, hvalidate, hoptions⟩ := acceptance_ignores_order c (finRotate 3)
  have hok : c.build.result = .ok () := by
    rw [result_build, (acceptsAll_plan c).1, ← forgives_faults_iff]
    decide
  obtain ⟨s, t, hs, ht, -, hmoved⟩ := hoptions hok
  refine ⟨hok, hbuild.mp hok, hvalidate.symm.trans (by decide), s, t, hs, ht, ?_⟩
  let octets := c.build.state.options s.members
  have hrotated : (List.ofFn fun place : Fin 3 => octetsAt octets (finRotate 3 place)) =
      [octetsAt octets 1, octetsAt octets 2, octetsAt octets 0] := rfl
  rw [hmoved]
  refine (congrArg List.flatten hrotated).trans ?_
  simp only [List.flatten_cons, List.flatten_nil, List.append_nil, List.append_assoc, octets]

end Config

end RouterAdvert
