import RouterAdvert.Proofs.World.Growth
import RouterAdvert.Proofs.World.History

/-!
# Walking the options of a session

A receiver finds the options of an advertisement by their own length octets: from the first octet
on, each option says where the next one begins. Led by these the options that a session sends are
walked to their end, one step for each member, and each is read as the present option of its member.
-/

namespace RouterAdvert

/-- The walk over options from a place to the end of the octets, with the places where an option
begins. The second octet of an option is its length in units of eight octets. -/
inductive Walk (octets : List UInt8) : Nat → List Nat → Prop
  | stop : Walk octets octets.length []
  | next {place : Nat} {units : UInt8} {rest : List Nat} (length : octets[place + 1]? = some units)
      (walk : Walk octets (place + 8 * units.toNat) rest) : Walk octets place (place :: rest)

theorem Walk.unique {octets : List UInt8} {place : Nat} {places others : List Nat}
    (h : Walk octets place places) (h' : Walk octets place others) : others = places := by
  induction h generalizing others with
  | stop =>
    cases h' with
    | stop => rfl
    | next length _ =>
      rw [List.getElem?_eq_none (by omega)] at length
      cases length
  | next length _ ih =>
    cases h' with
    | stop =>
      rw [List.getElem?_eq_none (by omega)] at length
      cases length
    | next length' walk' =>
      cases length.symm.trans length'
      rw [ih walk']

namespace PrefixInformation

/-- Encoded options are walked in steps of their size. -/
theorem walk_flatMap_encode {α : Type} (option : α → PrefixInformation) (xs : List α)
    (before : List UInt8) :
    Walk (before ++ xs.flatMap fun x => (option x).encode) before.length
      (List.range' before.length xs.length size) := by
  -- The induction carries what was walked already, as the walk keeps the whole text.
  induction xs generalizing before with
  | nil =>
    have hend : Walk before before.length [] := .stop
    simpa using hend
  | cons x rest ih =>
    have hunits : (before ++ (x :: rest).flatMap fun x => (option x).encode)[before.length + 1]? =
        some optionLength := by
      rw [List.flatMap_cons, List.getElem?_append_right (Nat.le_add_right _ 1),
        Nat.add_sub_cancel_left, List.getElem?_append_left (by simp [size])]
      rfl
    have hrest := ih (before ++ (option x).encode)
    rw [List.append_assoc, ← List.flatMap_cons (f := fun x => (option x).encode),
      List.length_append, length_encode] at hrest
    rw [List.length_cons, List.range'_succ]
    exact .next hunits hrest

end PrefixInformation

open PrefixInformation

namespace World

/-- The options of a session's members, in the order of their addition, are walked from the first
octet to exactly the last, one for each member, and are read as what the members are at present. -/
theorem options_are_walked_and_read (ops : List Op) (id : SessionId) (s : Session)
    (hlive : (run {} ops).session? id = some s) :
    let w := run {} ops
    let sent := w.options s.members
    s.members = (history {} id ops).filterMap Exchange.added? ∧
      sent.length = 32 * s.members.length ∧
      ∃ places, (∀ others, Walk sent 0 others ↔ others = places) ∧
        places.length = s.members.length ∧
        ∀ (i : Nat) p, s.members[i]? = some p → ∃ place, places[i]? = some place ∧
          ∀ following, decode ((sent.drop place).take 32 ++ following) = .ok (w.option p) ∧
            decode (sent.drop place ++ following) = .ok (w.option p) := by
  intro w sent
  obtain ⟨provider, hevolves⟩ := evolves_from_new (w := {}) rfl hlive
  have hwalk : Walk sent 0 (List.range' 0 s.members.length size) :=
    walk_flatMap_encode w.option s.members []
  refine ⟨hevolves.members_eq, w.length_options s.members, List.range' 0 s.members.length size, ?_,
    List.length_range', ?_⟩
  · intro others
    constructor
    · exact hwalk.unique
    · rintro rfl
      exact hwalk
  · intro i p hmember
    have hlt : i < s.members.length := (List.getElem?_eq_some_iff.mp hmember).1
    refine ⟨size * i, ?_, w.decode_drop_options hmember⟩
    rw [List.getElem?_range' hlt, Nat.zero_add]

/-- Here both prefixes are changed after they were added, one of them through a handle that was
taken from the session. -/
theorem options_are_walked_and_read_of_changed_members :
    let ops : List Op := [.newSession "s" none, .newPrefix "p", .addPrefix "s" "p", .newPrefix "q",
      .edit "q" (.network ⟨⟨0x20010db8000000000000000000000000⟩, 48⟩), .addPrefix "s" "q",
      .dropPrefix "q", .takeMember "s" 1 "r", .edit "r" (.validLifetime 60),
      .edit "p" (.onLink false)]
    let w := run {} ops
    ∃ s, w.session? 0 = some s ∧ s.members = [0, 1] ∧ Walk (w.options s.members) 0 [0, 32] ∧
      ∀ following, decode ((w.options s.members).drop 32 ++ following) = .ok {
        network := ⟨⟨0x20010db8000000000000000000000000⟩, 48⟩
        onLink := true
        autonomous := true
        validLifetime := 60
        preferredLifetime := 604800 } := by
  intro ops w
  obtain ⟨s, hlive⟩ : ∃ s, w.session? 0 = some s := ⟨_, rfl⟩
  obtain ⟨hmembers, -, places, hplaces, -, hread⟩ := options_are_walked_and_read ops 0 s hlive
  have hmembers : s.members = [0, 1] := hmembers.trans (by decide)
  have hwalk : Walk (w.options s.members) 0 [0, 32] := by
    rw [hmembers]
    exact walk_flatMap_encode w.option [0, 1] []
  have hoption : w.option 1 = {
      network := ⟨⟨0x20010db8000000000000000000000000⟩, 48⟩
      onLink := true
      autonomous := true
      validLifetime := 60
      preferredLifetime := 604800 } := by
    decide
  obtain rfl := (hplaces [0, 32]).mp hwalk
  obtain ⟨place, hplace, hfollowing⟩ := hread 1 1 (by rw [hmembers]; rfl)
  cases hplace
  exact ⟨s, hlive, hmembers, hwalk, fun following => hoption ▸ (hfollowing following).2⟩

end World

end RouterAdvert
