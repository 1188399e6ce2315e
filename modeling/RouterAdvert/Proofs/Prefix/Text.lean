import RouterAdvert.Error
import RouterAdvert.Proofs.Address.Text

/-!
# Texts of prefixes

A prefix is read back from its text, so different prefixes have different texts. The message about
an overlap names two prefixes with blanks around them, which none of their texts has.
-/

namespace RouterAdvert

namespace Prefix

open Numeral Text

theorem readLength?_write (length : UInt8) :
    readLength? (write 10 length.toNat) = some length := by
  have hsign : (write 10 length.toNat).head? ≠ some '+' := by
    intro hhead
    exact not_mem_write (by decide) (by decide) (by decide) _ (List.mem_of_head? hhead)
  have hlt : length.toNat < 256 := length.toNat_lt
  rw [readLength?, readUnsigned?, if_neg hsign, read?_write (by decide) (by decide)]
  simp only [Option.filter_some, decide_eq_true_eq]
  rw [if_pos (by omega), Option.map_some, UInt8.ofNat_toNat]

@[simp] theorem toList_text (p : Prefix) : p.text.toList = p.chars := String.toList_ofList

/-- A prefix is read back from its text. -/
theorem read_text (p : Prefix) : read p.text = .ok p := by
  have hslash : '/' ∉ p.address.chars := Address.not_mem_chars (by decide) (by decide) (by decide) _
  rw [read, toList_text, chars, cut?_append hslash]
  simp only [Address.read?_chars, readLength?_write]

theorem text_inj {p q : Prefix} : p.text = q.text ↔ p = q := by
  constructor
  · intro htext
    have hread := q.read_text
    rw [← htext, p.read_text] at hread
    exact Except.ok.inj hread
  · rintro rfl
    rfl

theorem blank_not_mem_chars (p : Prefix) : ' ' ∉ p.chars := by
  rw [chars, List.mem_append, List.mem_cons, not_or, not_or]
  exact ⟨Address.not_mem_chars (by decide) (by decide) (by decide) _, by decide,
    not_mem_write (by decide) (by decide) (by decide) _⟩

end Prefix

theorem Error.toList_message_overlap (candidate existing : Prefix) :
    (overlap candidate existing).message.toList = "prefix ".toList ++
      (candidate.chars ++ ' ' :: ("overlaps configured prefix ".toList ++ existing.chars)) := by
  have hmessage : (overlap candidate existing).message =
      "prefix " ++ candidate.text ++ " overlaps configured prefix " ++ existing.text := rfl
  have hblank : " overlaps configured prefix ".toList =
      ' ' :: "overlaps configured prefix ".toList := by simp
  -- Said for any texts, so that the constant ones are not computed.
  have hparts : ∀ (a b c d : String) (rest : List Char), c.toList = ' ' :: rest →
      (a ++ b ++ c ++ d).toList = a.toList ++ (b.toList ++ ' ' :: (rest ++ d.toList)) := by
    intro a b c d rest hc
    simp [hc]
  rw [hmessage, hparts _ _ _ _ _ hblank, Prefix.toList_text, Prefix.toList_text]

theorem Error.message_overlap_inj {candidate existing other another : Prefix} :
    (overlap candidate existing).message = (overlap other another).message ↔
      candidate = other ∧ existing = another := by
  constructor
  · intro hmessage
    have hchars := congrArg String.toList hmessage
    rw [toList_message_overlap, toList_message_overlap] at hchars
    have hcut := congrArg (Text.cut? ' ') (List.append_cancel_left hchars)
    rw [Text.cut?_append candidate.blank_not_mem_chars, Text.cut?_append other.blank_not_mem_chars,
      Option.some_inj] at hcut
    obtain ⟨hcandidate, hrest⟩ := Prod.mk.inj hcut
    have hexisting := List.append_cancel_left hrest
    exact ⟨Prefix.text_inj.mp (congrArg String.ofList hcandidate),
      Prefix.text_inj.mp (congrArg String.ofList hexisting)⟩
  · rintro ⟨rfl, rfl⟩
    rfl

end RouterAdvert
