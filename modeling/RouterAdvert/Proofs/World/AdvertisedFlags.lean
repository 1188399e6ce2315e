import RouterAdvert.Proofs.Session.Since
import RouterAdvert.Proofs.World.History

/-!
# Advertised flags

The flags byte of a session never has a reserved bit or the reserved preference, and a router that
is no default router advertises the medium preference. A session may hold another preference beside
a zero lifetime, but only if the preference was set after the lifetime: the setter of the lifetime
refuses to bring the two together.
-/

namespace RouterAdvert

theorem RouterFlags.reserved_toByte (f : RouterFlags) : f.toByte &&& 0x27 = 0 := by
  obtain ⟨managed, other, preference⟩ := f
  cases managed <;> cases other <;> cases preference <;> rfl

theorem RouterFlags.preference_toByte (f : RouterFlags) :
    (f.toByte >>> 3) &&& 3 = f.preference.bits := by
  obtain ⟨managed, other, preference⟩ := f
  cases managed <;> cases other <;> cases preference <;> rfl

theorem Preference.bits_ne_reserved (p : Preference) : p.bits ≠ 2 := by
  cases p <;> decide

namespace Exchange

def Prefers (e : Exchange) : Prop := ∃ preference, e.call = .prefer preference

def SetsLifetime (e : Exchange) : Prop :=
  (∃ seconds, e.call = .set (.lifetime seconds)) ∧ e.result = .ok ()

end Exchange

namespace Session

variable {network : PrefixId → Prefix} {s t : Session} {c : Call EventLoop}
  {r : Except Error Unit} {es : List Exchange}

/-- A preference other than medium beside a zero lifetime, which is not advertised. -/
def HidesPreference (s : Session) : Prop :=
  s.router.lifetime = 0 ∧ s.router.flags.preference ≠ .medium

/-- What the flags byte of a session says, and how it may come to hide the preference. -/
structure AdvertisesFlags (s : Session) (es : List Exchange) : Prop where
  reserved : s.flagsByte &&& 0x27 = 0
  preference : (s.flagsByte >>> 3) &&& 3 ≠ 2
  read_of_zero : s.router.lifetime = 0 →
    RouterFlags.ofByte s.flagsByte = { s.router.flags with preference := .medium }
  read : s.router.lifetime ≠ 0 → RouterFlags.ofByte s.flagsByte = s.router.flags
  hidden : s.HidesPreference → Since Exchange.Prefers (¬·.SetsLifetime) es

/-- A session comes to hide its preference only when the preference is set, and is over it when a
lifetime is accepted. -/
theorem Effect.hidesPreference (h : Effect network s c t r) (ht : t.HidesPreference) :
    Exchange.Prefers ⟨c, r⟩ ∨ s.HidesPreference ∧ ¬Exchange.SetsLifetime ⟨c, r⟩ := by
  cases h with
  | preferred => exact .inl ⟨_, rfl⟩
  | @stored setting inRange idle timing =>
    cases setting with
    | lifetime seconds =>
      obtain ⟨hzero, hpreference⟩ := ht
      have hseconds : seconds = 0 := hzero
      exact absurd ⟨congrArg Setting.lifetime hseconds, hpreference⟩ timing
    | interface | linkAddress | mtu | hopLimit | managed | other =>
      exact .inr ⟨ht, by simp [Exchange.SetsLifetime]⟩
  | refused | attached | detached | started | stopped | added =>
    exact .inr ⟨ht, by simp [Exchange.SetsLifetime]⟩

theorem Evolves.advertisesFlags {provider : Option Provider} (h : Evolves { provider } es t) :
    t.AdvertisesFlags es where
  reserved := RouterFlags.reserved_toByte _
  preference := by
    rw [flagsByte, RouterFlags.preference_toByte]
    exact Preference.bits_ne_reserved _
  read_of_zero := by
    intro hzero
    rw [flagsByte, RouterFlags.ofByte_toByte, advertisedFlags, if_pos hzero]
  read := by
    intro hlifetime
    rw [flagsByte, RouterFlags.ofByte_toByte, advertisedFlags, if_neg hlifetime]
  hidden := by
    intro hhides
    rcases h.since_or HidesPreference Exchange.Prefers (¬·.SetsLifetime)
      (fun network s c => (effect_answer network s c).hidesPreference) hhides with hsince | ⟨hnew, -⟩
    · exact hsince
    · exact absurd rfl hnew.2

theorem AdvertisesFlags.not_hidesPreference {e : Exchange} (h : t.AdvertisesFlags (es ++ [e]))
    (he : e.SetsLifetime) : ¬t.HidesPreference := by
  intro hhides
  rcases since_append.mp (h.hidden hhides) with hlast | ⟨-, hkept⟩
  · rw [since_cons] at hlast
    rcases hlast with hnone | ⟨⟨preference, hprefer⟩, -⟩
    · exact since_nil hnone
    · obtain ⟨⟨seconds, hset⟩, -⟩ := he
      rw [hprefer] at hset
      cases hset
  · exact hkept e List.mem_cons_self he

end Session

namespace World

/-- After any run, and at each moment of its history, a session advertises its flags as
`AdvertisesFlags` says; in particular no lifetime that is accepted hides the preference. -/
theorem flags_byte_follows_preference_rule (ops : List Op) (id : SessionId) (s : Session)
    (hlive : (run {} ops).session? id = some s) :
    let es := history {} id ops
    s.AdvertisesFlags es ∧
      ∀ before after, es = before ++ after → ∃ provider t,
        Session.Evolves { provider } before t ∧ t.Evolves after s ∧ t.AdvertisesFlags before ∧
          ∀ earlier e, before = earlier ++ [e] → e.SetsLifetime → ¬t.HidesPreference := by
  intro es
  obtain ⟨provider, hevolves⟩ := evolves_from_new (w := {}) rfl hlive
  refine ⟨hevolves.advertisesFlags, ?_⟩
  intro before after hes
  have hsplit : Session.Evolves { provider } (before ++ after) s := hes ▸ hevolves
  obtain ⟨t, hbefore, hafter⟩ := hsplit.split
  refine ⟨provider, t, hbefore, hafter, hbefore.advertisesFlags, ?_⟩
  rintro earlier e rfl hlifetime
  exact hbefore.advertisesFlags.not_hidesPreference hlifetime

/-- Here a lifetime of zero is refused beside a high preference and accepted beside a medium one,
and then the low preference is set while the session advertises. -/
theorem flags_byte_follows_preference_rule_of_late_preference :
    let ops : List Op := [.newSession "s" none, .newLoop "e" "main", .attach "s" (some "e") 0,
      .set "s" (.interface 2), .set "s" (.managed true), .prefer "s" .high,
      .set "s" (.lifetime 1800), .set "s" (.lifetime 0), .prefer "s" .medium,
      .set "s" (.lifetime 0), .start "s", .prefer "s" .low]
    ∃ s, (run {} ops).session? 0 = some s ∧ s.HidesPreference ∧
      RouterFlags.ofByte s.flagsByte = { managed := true } ∧
      Since Exchange.Prefers (¬·.SetsLifetime) (history {} 0 ops) := by
  intro ops
  have hsession : ((run {} ops).session? 0).map (fun s => (s.router.lifetime, s.router.flags)) =
      some (0, { managed := true, preference := .low }) := by decide
  obtain ⟨s, hlive, heq⟩ := Option.map_eq_some_iff.mp hsession
  obtain ⟨hzero, hflags⟩ := Prod.mk.inj heq
  have hhides : s.HidesPreference := ⟨hzero, by rw [hflags]; decide⟩
  obtain ⟨hadvertises, -⟩ := flags_byte_follows_preference_rule ops 0 s hlive
  have hread := hadvertises.read_of_zero hzero
  rw [hflags] at hread
  exact ⟨s, hlive, hhides, hread, hadvertises.hidden hhides⟩

end World

end RouterAdvert
