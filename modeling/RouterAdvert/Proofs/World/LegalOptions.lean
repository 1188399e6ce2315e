import RouterAdvert.Proofs.PrefixInformation.Legality

/-!
# What the sent options are

All options that a session sends are framed as the protocol asks, whatever was done before. Whether
the bits after the prefix are zero, as it asks too, is left to the caller: an address stays as it
was given last, and is sent like that.
-/

namespace RouterAdvert

open PrefixInformation

namespace World

/-- The address and length that an operation gives a prefix, if the length is allowed. -/
def assigned? (w : World) (p : PrefixId) (op : Op) : Option Prefix :=
  match w.edit? op with
  | some (id, .network value) =>
    if id = p ∧ Prefix.lengthAllowed value.length then some value else none
  | _ => none

def assignments (w : World) (p : PrefixId) : List Op → List Prefix
  | [] => []
  | op :: rest => (w.assigned? p op).toList ++ (w.step op).world.assignments p rest

/-- An operation leaves a prefix its address and length, or has given it others. -/
theorem network_step_eq_or (w : World) (op : Op) (p : PrefixId) :
    (w.step op).world.network p = w.network p ∨
      w.assigned? p op = some ((w.step op).world.network p) := by
  rcases option_step w op p with hsame | ⟨change, hedit, hchanged⟩
  · left
    rw [network, hsame, network]
  · rw [network, network, hchanged, assigned?, hedit]
    cases change with
    | network value =>
      by_cases hlength : Prefix.lengthAllowed value.length
      · right
        rw [Edit.state_apply_network _ hlength]
        exact if_pos ⟨rfl, hlength⟩
      · left
        simp [Edit.apply, hlength, Outcome.fail]
    | onLink | autonomous | validLifetime | preferredLifetime => exact .inl rfl

theorem network_run_eq_or_mem (w : World) (ops : List Op) (p : PrefixId) :
    (w.run ops).network p = w.network p ∨ (w.run ops).network p ∈ w.assignments p ops := by
  induction ops generalizing w with
  | nil => exact .inl rfl
  | cons op rest ih =>
    simp only [run, assignments, List.mem_append, Option.mem_toList]
    rcases ih (w.step op).world with hkept | hlater
    · rw [hkept]
      exact (network_step_eq_or w op p).imp_right .inl
    · exact .inr (.inr hlater)

/-- Every option that is sent has the type and sizes, the prefix length and the zeros that the
protocol asks for, and shows the present address of its member bit by bit: that of a new prefix, or
one that the prefix was given. It has the zeros after the prefix if and only if that address has. -/
theorem options_framed_and_trimmed_as_given (ops : List Op) (o : Owner) (place : Nat)
    (hplace : 32 * place < ((run {} ops).options ((run {} ops).members o)).length) :
    let w := run {} ops
    let octets := octetsAt (w.options (w.members o)) place
    Framed octets ∧ ∃ p, (w.members o)[place]? = some p ∧
      (w.network p = ⟨.unspecified, 64⟩ ∨ w.network p ∈ assignments {} p ops) ∧
      octets.getD 2 0 = (w.network p).length ∧
      (∀ i < 128, addressBit octets i = (w.network p).address.bits.getMsbD i) ∧
      (Trimmed octets ↔ (w.network p).Trimmed) := by
  intro w octets
  have hlt : place < (w.members o).length := by
    rw [length_options, size] at hplace
    exact Nat.lt_of_mul_lt_mul_left hplace
  have hmember : (w.members o)[place]? = some (w.members o)[place] := List.getElem?_eq_getElem hlt
  generalize (w.members o)[place] = p at hmember
  have hformat : (w.option p).HasFormat octets :=
    hasFormat_iff.mpr (octetsAt_flatMap_encode hmember)
  have hlength : Prefix.lengthAllowed (w.network p).length :=
    option_invariant_run (P := fun o => Prefix.lengthAllowed o.network.length)
      (fun _ change h => change.lengthAllowed_apply h) (fun _ => rfl) ops p
  exact ⟨hformat.framed hlength, p, hmember, network_run_eq_or_mem {} ops p, hformat.getD_length,
    fun _ hi => hformat.addressBit_eq hi, hformat.trimmed_iff⟩

/-- Here the first member has bits after its prefix once it is changed through another handle; the
second was given such an address with a length that is refused, and then a good one. -/
theorem options_framed_and_trimmed_as_given_through_handles :
    let ops : List Op := [.newSession "s" none, .newPrefix "p", .addPrefix "s" "p",
      .newPrefix "q", .edit "q" (.network ⟨⟨0x20010db8000100000000000000000001⟩, 2⟩),
      .edit "q" (.network ⟨⟨0x20010db8000100000000000000000000⟩, 48⟩), .addPrefix "s" "q",
      .takeMember "s" 0 "r", .edit "r" (.network ⟨⟨0x20010db8000000000000000000000001⟩, 64⟩)]
    let w := run {} ops
    let sent := w.options (w.members (.session 0))
    (Framed (octetsAt sent 0) ∧ ¬Trimmed (octetsAt sent 0)) ∧
      Framed (octetsAt sent 1) ∧ Trimmed (octetsAt sent 1) := by
  intro ops w sent
  have hmembers : w.members (.session 0) = [0, 1] := by decide
  have hlength : sent.length = 64 := by
    rw [length_options, hmembers]
    rfl
  obtain ⟨hfirst, p, hp, -, -, -, htrimmed⟩ :=
    options_framed_and_trimmed_as_given ops (.session 0) 0 (hlength ▸ by decide)
  obtain ⟨hsecond, q, hq, -, -, -, htrimmed'⟩ :=
    options_framed_and_trimmed_as_given ops (.session 0) 1 (hlength ▸ by decide)
  cases hmembers ▸ hp
  cases hmembers ▸ hq
  have hbits : w.network 0 = ⟨⟨0x20010db8000000000000000000000001⟩, 64⟩ := by decide
  have hzeros : w.network 1 = ⟨⟨0x20010db8000100000000000000000000⟩, 48⟩ := by decide
  refine ⟨⟨hfirst, ?_⟩, hsecond, ?_⟩
  · rw [htrimmed, hbits]
    intro hlast
    cases hlast 127 (by decide) (by decide)
  · rw [htrimmed', hzeros]
    decide +kernel

/-- The address 2001:db8::1 with a length of 64 is sent with its last bit. -/
theorem option_sent_with_bits_after_prefix :
    let w := run {} [.newSession "s" none, .newPrefix "p",
      .edit "p" (.network ⟨⟨0x20010db8000000000000000000000001⟩, 64⟩), .addPrefix "s" "p"]
    let octets := octetsAt (w.options (w.members (.session 0))) 0
    octets = [3, 4, 64, 0xc0, 0, 0x27, 0x8d, 0, 0, 0x09, 0x3a, 0x80, 0, 0, 0, 0,
        0x20, 0x01, 0x0d, 0xb8, 0, 0, 0, 0, 0, 0, 0, 0, 0, 0, 0, 1] ∧ ¬Trimmed octets := by
  intro w octets
  have hoctets : octets = [3, 4, 64, 0xc0, 0, 0x27, 0x8d, 0, 0, 0x09, 0x3a, 0x80, 0, 0, 0, 0,
      0x20, 0x01, 0x0d, 0xb8, 0, 0, 0, 0, 0, 0, 0, 0, 0, 0, 0, 1] := by
    decide
  refine ⟨hoctets, ?_⟩
  rw [hoctets]
  intro htrimmed
  cases htrimmed 127 (by decide) (by decide)

end World

end RouterAdvert
