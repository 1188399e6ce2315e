import RouterAdvert.Proofs.Config.Build
import RouterAdvert.Proofs.PrefixInformation.Encoding

/-!
# What is built

A session that was built is idle and held once, has the configured parameters, and its options say
what the entries of the configuration say, in the same order.
-/

namespace RouterAdvert.Config

open World PrefixInformation

/-- A session and the octets of its options are what a configuration says. -/
structure Realization (c : Config) (s : Session) (octets : List UInt8) : Prop where
  idle : s.phase = .idle
  detached : s.loop = none
  interface : s.router.interface = c.router.interface.getD (-1)
  noLinkAddress : c.router.linkAddress = none → s.router.linkAddress = none
  /-- The text of a link address was read, and the all-zero address counts as none. -/
  linkAddress : ∀ text, c.router.linkAddress = some text →
    ∃ address, LinkAddress.read? text.toList = some address ∧
      s.router.linkAddress = if address = .zero then none else some address
  mtu : s.router.mtu = c.router.mtu
  hopLimit : s.router.hopLimit = c.router.hopLimit
  lifetime : s.router.lifetime = c.router.lifetime
  flags : s.router.flags = ⟨c.router.managed, c.router.other, c.router.preference⟩
  preference : s.router.lifetime = 0 → s.router.flags.preference = .medium
  length : octets.length = size * c.prefixes.length
  option : ∀ i entry, c.prefixes[i]? = some entry → ∃ network,
    Prefix.read entry.network = .ok network ∧
      decode (octetsAt octets i) = .ok (information entry network)
  disjoint : c.prefixes.Pairwise fun e e' => ∀ p q, Prefix.read e.network = .ok p →
    Prefix.read e'.network = .ok q → ∀ a, p.Covers a → ¬q.Covers a

variable {w : World} {s : Session}

theorem parameters_linkAddress {r : RouterConfig} (h : r.Settable) {text : String}
    (htext : r.linkAddress = some text) :
    ∃ address, LinkAddress.read? text.toList = some address ∧
      r.parameters.linkAddress = if address = .zero then none else some address := by
  rcases Option.ne_none_iff_exists'.mp (h.linkAddress text htext) with ⟨address, hread⟩
  refine ⟨address, hread, ?_⟩
  rw [RouterConfig.parameters, htext, Option.bind_some, hread]
  by_cases hzero : address = .zero <;> simp [hzero]

theorem read_of_usable {entry : PrefixConfig} {network : Prefix} (h : entry.usable = .ok network) :
    Prefix.read entry.network = .ok network := by
  unfold PrefixConfig.usable at h
  cases hread : Prefix.read entry.network with
  | error cause => simp [hread] at h
  | ok value =>
    simp only [hread] at h
    split at h
    · exact congrArg Except.ok (Except.ok.inj h)
    · cases h

theorem information_of_map_usable {entry : PrefixConfig} {o : PrefixInformation}
    (h : entry.usable.map (information entry) = .ok o) :
    ∃ network, Prefix.read entry.network = .ok network ∧ o = information entry network := by
  cases husable : entry.usable with
  | error e =>
    rw [husable] at h
    cases h
  | ok network =>
    rw [husable] at h
    cases h
    exact ⟨network, read_of_usable husable, rfl⟩

section Entries

variable {entries : List PrefixConfig}
  (h : (s.members.map w.option).map .ok =
    entries.map (fun entry => entry.usable.map (information entry)))

include h

theorem length_of_options : s.members.length = entries.length := by
  simpa using congrArg List.length h

theorem option_of_entry {i : Nat} {entry : PrefixConfig} (hentry : entries[i]? = some entry) :
    ∃ p network, s.members[i]? = some p ∧ Prefix.read entry.network = .ok network ∧
      w.option p = information entry network := by
  have hplace := congrArg (·[i]?) h
  simp only [List.getElem?_map, hentry, Option.map_some] at hplace
  cases hp : s.members[i]? with
  | none => simp [hp] at hplace
  | some p =>
    rw [hp, Option.map_some, Option.map_some, Option.some.injEq] at hplace
    rcases information_of_map_usable hplace.symm with ⟨network, hread, hoption⟩
    exact ⟨p, network, rfl, hread, hoption⟩

theorem pairwise_of_separate (hseparate : PrefixSet.Separate w.network s.members) :
    entries.Pairwise fun e e' => ∀ p q, Prefix.read e.network = .ok p →
      Prefix.read e'.network = .ok q → ∀ a, p.Covers a → ¬q.Covers a := by
  rw [List.pairwise_iff_getElem]
  intro i j hi hj hlt p q hp hq a ha ha'
  obtain ⟨m, p', hm, hread, hoption⟩ := option_of_entry h (List.getElem?_eq_getElem hi)
  obtain ⟨n, q', hn, hread', hoption'⟩ := option_of_entry h (List.getElem?_eq_getElem hj)
  cases hp.symm.trans hread
  cases hq.symm.trans hread'
  obtain ⟨hi', rfl⟩ := List.getElem?_eq_some_iff.mp hm
  obtain ⟨hj', rfl⟩ := List.getElem?_eq_some_iff.mp hn
  have hapart := List.pairwise_iff_getElem.mp hseparate i j hi' hj' hlt
  rw [World.network, World.network, hoption, hoption'] at hapart
  have hoverlap := (Prefix.overlaps_iff_exists_covers p q).mpr ⟨a, ha, ha'⟩
  exact Bool.false_ne_true (hapart.symm.trans hoverlap)

end Entries

theorem Building.sessionRefs (h : Building w s) : w.sessionRefs 0 = 1 := by
  rw [World.sessionRefs, h.session?, h.sessionHandles]
  simp [heldByProvider, h.provider, Handles.count, Provider.threadDefault, Provider.offering]

theorem Building.realization {c : Config} (h : Building w s) (hsettable : c.router.Settable)
    (hrouter : s.router = c.router.parameters)
    (hoptions : (s.members.map w.option).map .ok =
      c.prefixes.map (fun entry => entry.usable.map (information entry)))
    (hseparate : PrefixSet.Separate w.network s.members) :
    Realization c s (w.options s.members) where
  idle := h.idle
  detached := h.detached
  interface := by rw [hrouter]; rfl
  noLinkAddress := by
    intro hnone
    rw [hrouter, RouterConfig.parameters, hnone]
    rfl
  linkAddress := by
    intro text htext
    rw [hrouter]
    exact parameters_linkAddress hsettable htext
  mtu := by rw [hrouter]; rfl
  hopLimit := by rw [hrouter]; rfl
  lifetime := by rw [hrouter]; rfl
  flags := by rw [hrouter]; rfl
  preference := by
    intro hzero
    rw [hrouter] at hzero ⊢
    exact Decidable.byContradiction fun hother => hsettable.preference ⟨hzero, hother⟩
  length := by rw [length_options, length_of_options hoptions]
  option := by
    intro i entry hentry
    obtain ⟨p, network, hp, hread, hoption⟩ := option_of_entry hoptions hentry
    exact ⟨network, hread, by rw [decode_options w hp, hoption]⟩
  disjoint := pairwise_of_separate hoptions hseparate

/-- A configuration that is accepted gives a session that has one handle and is what the
configuration says. -/
theorem build_realizes_configuration (c : Config) (h : c.build.result = .ok ()) :
    ∃ id s, c.build.state.sessionHandles.get? sessionName = some id ∧
      c.build.state.session? id = some s ∧ c.build.state.sessionRefs id = 1 ∧
      Realization c s (c.build.state.options s.members) := by
  have haccepts := (result_build c).mp h
  obtain ⟨hsettable, -⟩ := (acceptsAll_plan c).1.mp haccepts
  obtain ⟨s, hs, hrouter, hoptions, hseparate⟩ := run_plan haccepts
  rw [state_build haccepts]
  exact ⟨0, s, hs.get?, hs.session?, hs.sessionRefs,
    hs.realization hsettable hrouter hoptions hseparate⟩

/-- Here the link address is all zero, and the flags and lifetimes of the entries differ. -/
theorem build_realizes_configuration_of_two_entries :
    let c : Config := {
      router := { linkAddress := some "00:00:00:00:00:00", lifetime := 0, managed := true }
      prefixes := [{ network := "2001:db8::/64" },
        { network := "2001:db8:0:1::/64", onLink := false, preferredLifetime := 10,
          validLifetime := 20 }] }
    c.build.result = .ok () ∧ ∃ id s, c.build.state.session? id = some s ∧
      s.router.interface = -1 ∧ s.router.linkAddress = none ∧
      (c.build.state.options s.members).length = 64 ∧
      decode (octetsAt (c.build.state.options s.members) 1) = .ok {
        network := ⟨.ofGroups [0x2001, 0xdb8, 0, 1, 0, 0, 0, 0], 64⟩
        onLink := false
        autonomous := true
        validLifetime := 20
        preferredLifetime := 10 } := by
  intro c
  have hok : c.build.result = .ok () := by
    rw [result_build, (acceptsAll_plan c).1, ← forgives_faults_iff]
    decide
  obtain ⟨id, s, -, hlive, -, hs⟩ := build_realizes_configuration c hok
  refine ⟨hok, id, s, hlive, hs.interface, ?_, hs.length, ?_⟩
  · obtain ⟨address, hread, haddress⟩ := hs.linkAddress _ rfl
    have hzero : LinkAddress.read? "00:00:00:00:00:00".toList = some .zero := by decide
    cases hzero.symm.trans hread
    exact haddress
  · obtain ⟨network, hread, hoption⟩ := hs.option 1 _ rfl
    have hnetwork : Prefix.read "2001:db8:0:1::/64" =
      .ok ⟨.ofGroups [0x2001, 0xdb8, 0, 1, 0, 0, 0, 0], 64⟩ := rfl
    cases hnetwork.symm.trans hread
    exact hoption

end RouterAdvert.Config
