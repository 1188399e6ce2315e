import Mathlib.Data.List.Nodup
import RouterAdvert.Config.Decode

/-!
# Reading records

A record is read from a table entry by entry. Each known key has a place in the record of its own,
so that neither the order of the entries nor the entries under other keys matter: a place holds what
stands under its key, or what it held before if the key is missing.
-/

namespace RouterAdvert

namespace Toml

/-- A field as a table gives it: what stands under its key has the `meaning` of the field, and the
key is missing only if the field may be `omitted`. -/
def Gives (entries : Entries) (key : String) (meaning : Value → Prop) (omitted : Prop) : Prop :=
  (∀ v, (key, v) ∈ entries → meaning v) ∧ (key ∉ entries.map (·.1) → omitted)

theorem Gives.imp {entries : Entries} {key : String} {meaning meaning' : Value → Prop}
    {omitted omitted' : Prop} (h : Gives entries key meaning omitted)
    (hmeaning : ∀ v, meaning v → meaning' v) (homitted : omitted → omitted') :
    Gives entries key meaning' omitted' :=
  ⟨fun v hv => hmeaning v (h.1 v hv), fun hmissing => homitted (h.2 hmissing)⟩

end Toml

namespace Decode

open Toml

/-- A place in a record: the key of its field, how a value is read, and what is kept of it. -/
structure Slot (σ : Type) where
  key : String
  Read : Type
  Kept : Type
  decoder : Decoder Read
  keep : Read → Kept
  get : σ → Kept
  set : σ → Read → σ

def Slot.field {σ : Type} (p : Slot σ) : String × (σ → Decoder σ) :=
  (p.key, Decode.field p.decoder p.set)

/-- A value stands for what a record holds in a place. -/
def Slot.Means {σ : Type} (p : Slot σ) (t : σ) (v : Value) : Prop :=
  ∃ a, p.decoder v = .ok a ∧ p.keep a = p.get t

/-- Places with different keys, each of which is filled without touching the others. -/
structure Lawful {σ : Type} (slots : List (Slot σ)) : Prop where
  keys : (slots.map (·.key)).Nodup
  get_set : ∀ p ∈ slots, ∀ s a, p.get (p.set s a) = p.keep a
  get_set_of_ne : ∀ p ∈ slots, ∀ q ∈ slots, p.key ≠ q.key → ∀ s a, p.get (q.set s a) = p.get s

section

variable {σ : Type} {slots : List (Slot σ)} {p : Slot σ} {s t : σ} {entries : Entries}

theorem bind_eq_ok_iff {α β : Type} {x : Except SchemaError α} {f : α → Except SchemaError β}
    {b : β} : x >>= f = .ok b ↔ ∃ a, x = .ok a ∧ f a = .ok b := by
  cases x with
  | error e => simp [bind, Except.bind]
  | ok a => simp [bind, Except.bind]

theorem field_eq_ok_iff {α : Type} {decoder : Decoder α} {store : σ → α → σ} {v : Value} :
    field decoder store s v = .ok t ↔ ∃ a, decoder v = .ok a ∧ store s a = t := by
  unfold field
  cases decoder v with
  | error e => simp [Functor.map, Except.map]
  | ok a => simp [Functor.map, Except.map]

theorem Lawful.lookup (h : Lawful slots) (hp : p ∈ slots) :
    (slots.map Slot.field).lookup p.key = some (field p.decoder p.set) := by
  obtain ⟨before, after, rfl⟩ := List.append_of_mem hp
  rw [List.lookup_eq_some_iff]
  refine ⟨before.map Slot.field, after.map Slot.field, by simp [Slot.field], ?_⟩
  have hkeys := h.keys
  rw [List.map_append, List.nodup_append] at hkeys
  intro entry hentry
  obtain ⟨q, hq, rfl⟩ := List.mem_map.mp hentry
  have hne := hkeys.2.2 q.key (List.mem_map_of_mem hq) p.key (by simp)
  simpa [Slot.field] using Ne.symm hne

theorem lookup_slots_cases (slots : List (Slot σ)) (key : String) :
    (∃ p ∈ slots, p.key = key ∧
        (slots.map Slot.field).lookup key = some (field p.decoder p.set)) ∨
      (∀ p ∈ slots, p.key ≠ key) ∧ (slots.map Slot.field).lookup key = none := by
  cases hread : (slots.map Slot.field).lookup key with
  | none =>
    right
    rw [List.lookup_eq_none_iff] at hread
    refine ⟨fun p hp heq => ?_, rfl⟩
    simpa [Slot.field, heq] using hread _ (List.mem_map_of_mem hp)
  | some read =>
    left
    obtain ⟨before, after, hsplit, -⟩ := List.lookup_eq_some_iff.mp hread
    have hmem : (key, read) ∈ slots.map Slot.field := by simp [hsplit]
    obtain ⟨p, hp, heq⟩ := List.mem_map.mp hmem
    obtain ⟨rfl, rfl⟩ := Prod.mk.inj heq
    exact ⟨p, hp, rfl, rfl⟩

theorem ofEntries_cons_of_unknown {fields : Fields σ} {key : String} (v : Value)
    (h : fields.lookup key = none) :
    ofEntries fields s ((key, v) :: entries) = ofEntries fields s entries := by
  simp only [ofEntries, List.foldlM_cons, h]
  rfl

theorem ofEntries_cons_of_known {fields : Fields σ} {key : String} {read : σ → Decoder σ}
    (v : Value) (h : fields.lookup key = some read) :
    ofEntries fields s ((key, v) :: entries) = read s v >>= (ofEntries fields · entries) := by
  simp only [ofEntries, List.foldlM_cons, h]

/-- A table from which a record is read leaves its first entry out or stores it in its place. -/
theorem ofEntries_cons_eq_ok {key : String} {v : Value}
    (h : ofEntries (slots.map Slot.field) s ((key, v) :: entries) = .ok t) :
    (∀ p ∈ slots, p.key ≠ key) ∧ ofEntries (slots.map Slot.field) s entries = .ok t ∨
      ∃ p ∈ slots, p.key = key ∧ ∃ a, p.decoder v = .ok a ∧
        ofEntries (slots.map Slot.field) (p.set s a) entries = .ok t := by
  rcases lookup_slots_cases slots key with ⟨p, hp, hkey, hread⟩ | ⟨hunknown, hread⟩
  · rw [ofEntries_cons_of_known v hread, bind_eq_ok_iff] at h
    obtain ⟨_, hfield, hrest⟩ := h
    obtain ⟨a, ha, rfl⟩ := field_eq_ok_iff.mp hfield
    exact .inr ⟨p, hp, hkey, a, ha, hrest⟩
  · rw [ofEntries_cons_of_unknown v hread] at h
    exact .inl ⟨hunknown, h⟩

/-- A record is read if what stands under its keys can be, and then it agrees with what it was to
say in all places. -/
theorem Lawful.ofEntries_ok (h : Lawful slots)
    (hgives : ∀ p ∈ slots, Gives entries p.key (p.Means t) (p.get s = p.get t)) :
    ∃ u, ofEntries (slots.map Slot.field) s entries = .ok u ∧ ∀ p ∈ slots, p.get u = p.get t := by
  induction entries generalizing s with
  | nil => exact ⟨s, rfl, fun p hp => (hgives p hp).2 (by simp)⟩
  | cons entry rest ih =>
    obtain ⟨key, v⟩ := entry
    have hlater : ∀ p ∈ slots, ∀ v, (p.key, v) ∈ rest → p.Means t v :=
      fun p hp v hv => (hgives p hp).1 v (List.mem_cons_of_mem _ hv)
    rcases lookup_slots_cases slots key with ⟨p, hp, rfl, hlookup⟩ | ⟨hunknown, hlookup⟩
    · obtain ⟨a, ha, hkeep⟩ := (hgives p hp).1 v List.mem_cons_self
      rw [ofEntries_cons_of_known v hlookup, field_eq_ok_iff.mpr ⟨a, ha, rfl⟩]
      refine ih fun q hq => ⟨hlater q hq, fun hmissing => ?_⟩
      by_cases hkey : q.key = p.key
      · obtain rfl := List.inj_on_of_nodup_map h.keys hq hp hkey
        rw [h.get_set q hq, hkeep]
      · rw [h.get_set_of_ne q hq p hp hkey]
        exact (hgives q hq).2 (by simpa [hkey] using hmissing)
    · rw [ofEntries_cons_of_unknown v hlookup]
      refine ih fun q hq => ⟨hlater q hq, fun hmissing => ?_⟩
      exact (hgives q hq).2 (by simpa [hunknown q hq] using hmissing)

theorem Lawful.get_of_missing (h : Lawful slots) (hp : p ∈ slots)
    (hmissing : p.key ∉ entries.map (·.1))
    (hok : ofEntries (slots.map Slot.field) s entries = .ok t) : p.get t = p.get s := by
  induction entries generalizing s with
  | nil =>
    cases hok
    rfl
  | cons entry rest ih =>
    obtain ⟨key, v⟩ := entry
    rw [List.map_cons, List.mem_cons, not_or] at hmissing
    rcases ofEntries_cons_eq_ok hok with ⟨-, hrest⟩ | ⟨q, hq, hkey, a, -, hrest⟩
    · exact ih hmissing.2 hrest
    · rw [ih hmissing.2 hrest]
      exact h.get_set_of_ne p hp q hq (hkey ▸ hmissing.1) s a

/-- In a table without repeated keys, what stands under a key is read and kept in its place. -/
theorem Lawful.get_of_mem (h : Lawful slots) (hp : p ∈ slots) (hkeys : (entries.map (·.1)).Nodup)
    {v : Value} (hmem : (p.key, v) ∈ entries)
    (hok : ofEntries (slots.map Slot.field) s entries = .ok t) :
    ∃ a, p.decoder v = .ok a ∧ p.get t = p.keep a := by
  induction entries generalizing s with
  | nil => cases hmem
  | cons entry rest ih =>
    obtain ⟨key, other⟩ := entry
    obtain ⟨hfirst, hnodup⟩ := List.nodup_cons.mp hkeys
    rcases List.mem_cons.mp hmem with heq | hlater
    · obtain ⟨rfl, rfl⟩ := Prod.mk.inj heq
      rcases ofEntries_cons_eq_ok hok with ⟨hunknown, -⟩ | ⟨q, hq, hkey, a, ha, hrest⟩
      · exact absurd rfl (hunknown p hp)
      · obtain rfl := List.inj_on_of_nodup_map h.keys hq hp hkey
        exact ⟨a, ha, (h.get_of_missing hq hfirst hrest).trans (h.get_set q hq s a)⟩
    · rcases ofEntries_cons_eq_ok hok with ⟨-, hrest⟩ | ⟨q, -, -, a, -, hrest⟩
      · exact ih hnodup hlater hrest
      · exact ih hnodup hlater hrest

end

def logSlots : List (Slot LogConfig) :=
  [⟨"level", _, _, text, id, (·.level), fun s level => { s with level }⟩,
    ⟨"format", _, _, format, id, (·.format), fun s format => { s with format }⟩]

def routerSlots : List (Slot RouterConfig) :=
  [⟨"ifindex", _, _, int32, some, (·.interface), fun s index => { s with interface := some index }⟩,
    ⟨"mac", _, _, text, some, (·.linkAddress),
      fun s address => { s with linkAddress := some address }⟩,
    ⟨"mtu", _, _, uint32, some, (·.mtu), fun s size => { s with mtu := some size }⟩,
    ⟨"hop_limit", _, _, uint8, id, (·.hopLimit), fun s hopLimit => { s with hopLimit }⟩,
    ⟨"lifetime", _, _, uint32, id, (·.lifetime), fun s lifetime => { s with lifetime }⟩,
    ⟨"managed", _, _, truth, id, (·.managed), fun s managed => { s with managed }⟩,
    ⟨"other", _, _, truth, id, (·.other), fun s other => { s with other }⟩,
    ⟨"preference", _, _, preference, id, (·.preference),
      fun s preference => { s with preference }⟩]

def prefixSlots : List (Slot PrefixDraft) :=
  [⟨"prefix", _, _, text, some, (·.network), fun d network => { d with network := some network }⟩,
    ⟨"on_link", _, _, truth, id, (·.settings.onLink),
      fun d onLink => { d with settings := { d.settings with onLink } }⟩,
    ⟨"autonomous", _, _, truth, id, (·.settings.autonomous),
      fun d autonomous => { d with settings := { d.settings with autonomous } }⟩,
    ⟨"preferred_lifetime", _, _, uint32, id, (·.settings.preferredLifetime),
      fun d preferredLifetime => { d with settings := { d.settings with preferredLifetime } }⟩,
    ⟨"valid_lifetime", _, _, uint32, id, (·.settings.validLifetime),
      fun d validLifetime => { d with settings := { d.settings with validLifetime } }⟩]

def configSlots : List (Slot Config) :=
  [⟨"log", _, _, log, some, (·.log), fun c section_ => { c with log := some section_ }⟩,
    ⟨"router", _, _, router, id, (·.router), fun c router => { c with router }⟩,
    ⟨"prefix", _, _, sequence prefixEntry, id, (·.prefixes), fun c prefixes => { c with prefixes }⟩]

theorem configFields_eq : configFields = configSlots.map Slot.field := rfl

theorem lawful_log : Lawful logSlots where
  keys := by decide
  get_set := by simp [logSlots]
  get_set_of_ne := by simp [logSlots]

theorem lawful_router : Lawful routerSlots where
  keys := by decide
  get_set := by simp [routerSlots]
  get_set_of_ne := by simp [routerSlots]

theorem lawful_prefix : Lawful prefixSlots where
  keys := by decide
  get_set := by simp [prefixSlots]
  get_set_of_ne := by simp [prefixSlots]

theorem lawful_config : Lawful configSlots where
  keys := by decide
  get_set := by simp [configSlots]
  get_set_of_ne := by simp [configSlots]

theorem logSlots_ext {s t : LogConfig} : (∀ p ∈ logSlots, p.get s = p.get t) ↔ s = t := by
  cases s
  cases t
  simp [logSlots]

theorem routerSlots_ext {s t : RouterConfig} : (∀ p ∈ routerSlots, p.get s = p.get t) ↔ s = t := by
  cases s
  cases t
  simp [routerSlots]

theorem configSlots_ext {s t : Config} : (∀ p ∈ configSlots, p.get s = p.get t) ↔ s = t := by
  cases s
  cases t
  simp [configSlots]

end Decode

end RouterAdvert
