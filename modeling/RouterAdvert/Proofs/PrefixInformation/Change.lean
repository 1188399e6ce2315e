import RouterAdvert.Proofs.PrefixInformation.Format
import RouterAdvert.Proofs.World.Edits

/-!
# Changes of encoded options

A change to a prefix is a change of a few octets of its option. `Touches` says which these are, and
`Writes` what stands there afterwards.
-/

namespace RouterAdvert

namespace Edit

open Octets

/-- The places in an option that a change may touch. -/
def Touches : Edit → Nat → Prop
  | network _, place => place = 2 ∨ 16 ≤ place ∧ place < 32
  | onLink _, place | autonomous _, place => place = 3
  | validLifetime _, place => 4 ≤ place ∧ place < 8
  | preferredLifetime _, place => 8 ≤ place ∧ place < 12

/-- What a change makes of the octets of an option, at the places that it may touch. One flag is
switched and the other bits of its octet stay. -/
def Writes (before after : List UInt8) : Edit → Prop
  | network value =>
    after[2]? = some value.length ∧ NumberAt after 16 16 value.address.toNat
  | onLink on =>
    after[3]? = before[3]?.map fun flags => if on then flags ||| 0x80 else flags &&& 0x7f
  | autonomous on =>
    after[3]? = before[3]?.map fun flags => if on then flags ||| 0x40 else flags &&& 0xbf
  | validLifetime seconds => NumberAt after 4 4 seconds.toNat
  | preferredLifetime seconds => NumberAt after 8 4 seconds.toNat

theorem getElem?_encode_apply (o : PrefixInformation) {change : Edit} {place : Nat}
    (h : ¬change.Touches place) :
    (change.apply o).state.encode[place]? = o.encode[place]? := by
  symm
  have hformat := (change.apply o).state.hasFormat_encode
  -- Each change keeps the values of all fields but its own, whose octets are excluded.
  cases change with
  | network value =>
    by_cases hallowed : Prefix.lengthAllowed value.length
    · rw [state_apply_network o hallowed] at hformat ⊢
      exact o.hasFormat_encode.getElem?_eq hformat (fun hplace => absurd (.inl hplace) h)
        (fun _ => ⟨rfl, rfl⟩) (fun _ => rfl) (fun _ => rfl) (fun hplace => absurd (.inr hplace) h)
    · have hkept : ((network value).apply o).state = o := by simp [apply, hallowed, Outcome.fail]
      rw [hkept]
  | onLink | autonomous =>
    exact o.hasFormat_encode.getElem?_eq hformat (fun _ => rfl) (fun hplace => absurd hplace h)
      (fun _ => rfl) (fun _ => rfl) (fun _ => rfl)
  | validLifetime =>
    exact o.hasFormat_encode.getElem?_eq hformat (fun _ => rfl) (fun _ => ⟨rfl, rfl⟩)
      (fun hplace => absurd hplace h) (fun _ => rfl) (fun _ => rfl)
  | preferredLifetime =>
    exact o.hasFormat_encode.getElem?_eq hformat (fun _ => rfl) (fun _ => ⟨rfl, rfl⟩)
      (fun _ => rfl) (fun hplace => absurd hplace h) (fun _ => rfl)

theorem flags_switchOnLink : ∀ on onLink autonomous : Bool,
    flag on 0x80 ||| flag autonomous 0x40 =
      if on then (flag onLink 0x80 ||| flag autonomous 0x40) ||| 0x80
      else (flag onLink 0x80 ||| flag autonomous 0x40) &&& 0x7f := by
  decide

theorem flags_switchAutonomous : ∀ on onLink autonomous : Bool,
    flag onLink 0x80 ||| flag on 0x40 =
      if on then (flag onLink 0x80 ||| flag autonomous 0x40) ||| 0x40
      else (flag onLink 0x80 ||| flag autonomous 0x40) &&& 0xbf := by
  decide

theorem writes_apply (o : PrefixInformation) {change : Edit} (h : change.Allowed) :
    change.Writes o.encode (change.apply o).state.encode := by
  have hformat := (change.apply o).state.hasFormat_encode
  cases change with
  | network value =>
    rw [state_apply_network o h] at hformat ⊢
    exact ⟨hformat.length, hformat.address⟩
  | onLink on => exact congrArg some (flags_switchOnLink on o.onLink o.autonomous)
  | autonomous on => exact congrArg some (flags_switchAutonomous on o.onLink o.autonomous)
  | validLifetime seconds => exact hformat.valid
  | preferredLifetime seconds => exact hformat.preferred

end Edit

end RouterAdvert
