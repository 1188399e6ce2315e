import RouterAdvert.Config.Validation

/-!
# Faults that a session would take

A session takes an interface that is not set or zero, and a multicast link address, which validation
rejects. `forgives` singles out these faults. `Settable` and `Fits` say what is left to check: the
other faults are absent exactly if the parameters can be set and the prefixes can be added.
-/

namespace RouterAdvert

namespace RouterConfig

/-- Whether a fault does not keep a session from being built. -/
def forgives (r : RouterConfig) : Fault → Bool
  | .noInterface | .badInterface _ =>
    r.interface = none ∨ r.interface = some (-1) ∨ r.interface = some 0
  | .multicastLinkAddress _ => true
  | _ => false

structure Settable (r : RouterConfig) : Prop where
  interface : ∀ index, r.interface = some index → ¬index < -1
  linkAddress : ∀ text, r.linkAddress = some text → LinkAddress.read? text.toList ≠ none
  mtu : ∀ size, r.mtu = some size → ¬size < minMtu
  preference : ¬(r.lifetime = 0 ∧ r.preference ≠ .medium)

end RouterConfig

namespace Findings

@[simp] theorem faults_append (a b : Findings) : (a ++ b).faults = a.faults ++ b.faults := rfl

theorem mem_faultIf {condition : Bool} {f g : Fault} :
    g ∈ (faultIf condition f).faults ↔ condition = true ∧ g = f := by
  cases condition <;> simp [faultIf]

end Findings

namespace RouterConfig

variable (r : RouterConfig)

/-- The indices below one that a session takes are the unset one and zero. -/
theorem interface_lt_one {index : Int32} (h : index < 1) :
    (index = -1 ∨ index = 0) ↔ ¬index < -1 := by
  rw [Int32.lt_iff_toInt_lt] at h ⊢
  rw [← Int32.toInt_inj, ← Int32.toInt_inj]
  change index.toInt < 1 at h
  change index.toInt = -1 ∨ index.toInt = 0 ↔ ¬index.toInt < -1
  omega

theorem forgives_interface_iff :
    (∀ f ∈ r.interfaceFindings.faults, r.forgives f) ↔
      ∀ index, r.interface = some index → ¬index < -1 := by
  unfold interfaceFindings
  cases h : r.interface with
  | none => simp [forgives, h]
  | some index =>
    simp only [Findings.mem_faultIf, Option.some.injEq]
    constructor
    · rintro hall _ rfl
      by_cases hlow : index < 1
      · have hforgiven := hall (.badInterface index) ⟨decide_eq_true hlow, rfl⟩
        simp only [forgives, h, reduceCtorEq, Option.some.injEq, false_or, decide_eq_true_eq]
          at hforgiven
        exact (interface_lt_one hlow).mp hforgiven
      · intro hunset
        exact hlow (Int32.lt_trans hunset (by decide))
    · rintro hall f ⟨hlow, rfl⟩
      have hunset := (interface_lt_one (of_decide_eq_true hlow)).mpr (hall index rfl)
      simp only [forgives, h, reduceCtorEq, Option.some.injEq, false_or, decide_eq_true_eq]
      exact hunset

theorem forgives_linkAddress_iff :
    (∀ f ∈ r.linkAddressFindings.faults, r.forgives f) ↔
      ∀ text, r.linkAddress = some text → LinkAddress.read? text.toList ≠ none := by
  unfold linkAddressFindings
  cases h : r.linkAddress with
  | none => simp
  | some text =>
    cases hread : LinkAddress.read? text.toList with
    | none => simp [forgives, hread]
    | some address => simp [Findings.mem_faultIf, forgives, hread]

theorem forgives_mtu_iff :
    (∀ f ∈ r.mtuFindings.faults, r.forgives f) ↔ ∀ size, r.mtu = some size → ¬size < minMtu := by
  unfold mtuFindings
  cases h : r.mtu with
  | none => simp
  | some size => simp [Findings.mem_faultIf, forgives]

theorem forgives_preference_iff :
    (∀ f ∈ r.preferenceFindings.faults, r.forgives f) ↔
      ¬(r.lifetime = 0 ∧ r.preference ≠ .medium) := by
  simp only [preferenceFindings, Findings.mem_faultIf, decide_eq_true_eq]
  constructor
  · intro hall hbad
    have hforgiven := hall _ ⟨hbad, rfl⟩
    simp [forgives] at hforgiven
  · rintro hgood f ⟨hbad, rfl⟩
    exact absurd hbad hgood

/-- The faults of the router parameters are forgiven if a session takes the parameters. -/
theorem forgives_findings_iff : (∀ f ∈ r.findings.faults, r.forgives f) ↔ r.Settable := by
  simp only [findings, Findings.faults_append, List.forall_mem_append, forgives_interface_iff,
    forgives_linkAddress_iff, forgives_mtu_iff, forgives_preference_iff]
  constructor
  · rintro ⟨⟨⟨interface, linkAddress⟩, mtu⟩, preference⟩
    exact ⟨interface, linkAddress, mtu, preference⟩
  · rintro ⟨interface, linkAddress, mtu, preference⟩
    exact ⟨⟨⟨interface, linkAddress⟩, mtu⟩, preference⟩

end RouterConfig

namespace PrefixConfig

/-- Whether entries can be added one by one to a set with the given ranges. -/
def Fits (accepted : List Prefix) : List PrefixConfig → Prop
  | [] => True
  | entry :: rest =>
    ∃ network, entry.usable = .ok network ∧
      (∀ other ∈ accepted, other.overlaps network = false) ∧ Fits (accepted ++ [network]) rest

variable {accepted : List (Nat × Prefix)} {entry : PrefixConfig} {network : Prefix}

theorem faults_of_unusable {e : Error} (h : entry.usable = .error e) (index : Nat)
    (rest : List PrefixConfig) :
    (findings accepted index (entry :: rest)).faults =
      .unusablePrefix index e :: (findings accepted (index + 1) rest).faults := by
  simp [findings, h]

theorem faults_of_free (h : entry.usable = .ok network)
    (hfree : ∀ other ∈ accepted.map (·.2), other.overlaps network = false) (index : Nat)
    (rest : List PrefixConfig) :
    (findings accepted index (entry :: rest)).faults =
      (findings (accepted ++ [(index, network)]) (index + 1) rest).faults := by
  have hnone : accepted.find? (fun other => other.2.overlaps network) = none := by
    rw [List.find?_eq_none]
    intro other hother
    simp [hfree other.2 (List.mem_map_of_mem hother)]
  simp [findings, h, hnone, warnings, Findings.warnIf]

/-- An overlap is reported with the place of the first accepted range that overlaps. -/
theorem faults_of_overlap_at (h : entry.usable = .ok network) {found : Nat × Prefix}
    (hfind : accepted.find? (fun other => other.2.overlaps network) = some found) (index : Nat)
    (rest : List PrefixConfig) :
    (findings accepted index (entry :: rest)).faults =
      .overlappingPrefix index network found.1 :: (findings accepted (index + 1) rest).faults := by
  simp [findings, h, hfind, warnings, Findings.warnIf]

theorem faults_of_overlap (h : entry.usable = .ok network)
    (hoverlap : ¬∀ other ∈ accepted.map (·.2), other.overlaps network = false) (index : Nat)
    (rest : List PrefixConfig) :
    ∃ other, (findings accepted index (entry :: rest)).faults =
      .overlappingPrefix index network other :: (findings accepted (index + 1) rest).faults := by
  cases hfind : accepted.find? (fun other => other.2.overlaps network) with
  | none =>
    refine absurd ?_ hoverlap
    intro other hother
    rcases List.mem_map.mp hother with ⟨found, hfound, rfl⟩
    simpa using List.find?_eq_none.mp hfind found hfound
  | some found => exact ⟨found.1, faults_of_overlap_at h hfind index rest⟩

theorem not_forgives_of_mem (r : RouterConfig) {index : Nat} {entries : List PrefixConfig}
    {f : Fault} (h : f ∈ (findings accepted index entries).faults) : r.forgives f = false := by
  induction entries generalizing accepted index with
  | nil => simp [findings] at h
  | cons entry rest ih =>
    cases husable : entry.usable with
    | error e =>
      rw [faults_of_unusable husable] at h
      rcases List.mem_cons.mp h with rfl | h
      · rfl
      · exact ih h
    | ok network =>
      by_cases hfree : ∀ other ∈ accepted.map (·.2), other.overlaps network = false
      · rw [faults_of_free husable hfree] at h
        exact ih h
      · rcases faults_of_overlap husable hfree index rest with ⟨other, heq⟩
        rw [heq] at h
        rcases List.mem_cons.mp h with rfl | h
        · rfl
        · exact ih h

theorem faults_findings_eq_nil_iff (accepted : List (Nat × Prefix)) (index : Nat)
    (entries : List PrefixConfig) :
    (findings accepted index entries).faults = [] ↔ Fits (accepted.map (·.2)) entries := by
  induction entries generalizing accepted index with
  | nil => simp [findings, Fits]
  | cons entry rest ih =>
    unfold Fits
    cases husable : entry.usable with
    | error e =>
      rw [faults_of_unusable husable]
      simp
    | ok network =>
      by_cases hfree : ∀ other ∈ accepted.map (·.2), other.overlaps network = false
      · rw [faults_of_free husable hfree, ih, List.map_append, List.map_cons, List.map_nil]
        constructor
        · intro hrest
          exact ⟨network, rfl, hfree, hrest⟩
        · rintro ⟨other, hother, -, hrest⟩
          cases hother
          exact hrest
      · rcases faults_of_overlap husable hfree index rest with ⟨other, heq⟩
        rw [heq]
        refine iff_of_false (List.cons_ne_nil _ _) ?_
        rintro ⟨other, hother, hfits, -⟩
        cases hother
        exact hfree hfits

end PrefixConfig

/-- All faults of a configuration are forgiven exactly if a session takes it. -/
theorem Config.forgives_faults_iff (c : Config) :
    (∀ f ∈ c.validate.faults, c.router.forgives f) ↔
      c.router.Settable ∧ PrefixConfig.Fits [] c.prefixes := by
  have hprefixes : (∀ f ∈ (PrefixConfig.findings [] 0 c.prefixes).faults, c.router.forgives f) ↔
      PrefixConfig.Fits [] c.prefixes := by
    have hfits := PrefixConfig.faults_findings_eq_nil_iff [] 0 c.prefixes
    rw [List.map_nil] at hfits
    rw [← hfits, List.eq_nil_iff_forall_not_mem]
    constructor
    · intro hall f hf
      have hforgiven := hall f hf
      rw [PrefixConfig.not_forgives_of_mem c.router hf] at hforgiven
      cases hforgiven
    · intro hnone f hf
      exact absurd hf (hnone f)
  rw [validate, Findings.faults_append, List.forall_mem_append, hprefixes,
    RouterConfig.forgives_findings_iff]

end RouterAdvert
