import RouterAdvert.Proofs.Config.Writing

/-!
# Decoding configurations

Decoding is the inverse of writing, however a configuration was written. It never bends an integer
into the type of its field: one that does not fit there is an error, and then there is no
configuration.
-/

namespace RouterAdvert

open Toml

/-- An integer among the fields of a record: its key, the name of its type in messages, the least
and the greatest value, and what a record holds there. -/
structure IntegerField (σ : Type) where
  key : String
  kind : Kind
  least : Int
  greatest : Int
  value : σ → Option Int

namespace IntegerField

def Admits {σ : Type} (f : IntegerField σ) (n : Int) : Prop := f.least ≤ n ∧ n ≤ f.greatest

def within {σ τ : Type} (f : IntegerField τ) (part : σ → τ) : IntegerField σ :=
  { f with value := f.value ∘ part }

/-- The integers in range are read as what they are, and the others are out of range for the type of
the field. -/
def ReadBy {σ : Type} (f : IntegerField σ) (fields : Decode.Fields σ) : Prop :=
  ∃ read, fields.lookup f.key = some read ∧ ∀ s n,
    (f.Admits n → ∃ t, read s (.integer n) = .ok t ∧ f.value t = some n) ∧
      (¬f.Admits n → read s (.integer n) = .error (.outOfRange n f.kind))

end IntegerField

def RouterConfig.integerFields : List (IntegerField RouterConfig) :=
  [⟨"ifindex", .int32, -2147483648, 2147483647, (·.interface.map (·.toInt))⟩,
    ⟨"mtu", .uint32, 0, 4294967295, (·.mtu.map (·.toNat))⟩,
    ⟨"hop_limit", .uint8, 0, 255, (some ·.hopLimit.toNat)⟩,
    ⟨"lifetime", .uint32, 0, 4294967295, (some ·.lifetime.toNat)⟩]

def PrefixConfig.integerFields : List (IntegerField PrefixConfig) :=
  [⟨"preferred_lifetime", .uint32, 0, 4294967295, (some ·.preferredLifetime.toNat)⟩,
    ⟨"valid_lifetime", .uint32, 0, 4294967295, (some ·.validLifetime.toNat)⟩]

namespace Decode

variable {σ : Type} {slots : List (Slot σ)} {p : Slot σ} {f : IntegerField σ}

structure Slot.Stores (p : Slot σ) (f : IntegerField σ) : Prop where
  key : f.key = p.key
  admitted : ∀ n, f.Admits n → ∃ a, p.decoder (.integer n) = .ok a ∧
    ∀ t, p.get t = p.keep a → f.value t = some n
  refused : ∀ n, ¬f.Admits n → p.decoder (.integer n) = .error (.outOfRange n f.kind)

theorem Slot.Stores.readBy (hstores : p.Stores f) (h : Lawful slots) (hp : p ∈ slots) :
    f.ReadBy (slots.map Slot.field) := by
  refine ⟨Decode.field p.decoder p.set, hstores.key ▸ h.lookup hp, fun s n => ⟨?_, ?_⟩⟩
  · intro hadmits
    obtain ⟨a, ha, hvalue⟩ := hstores.admitted n hadmits
    exact ⟨p.set s a, field_eq_ok_iff.mpr ⟨a, ha, rfl⟩, hvalue _ (h.get_set p hp s a)⟩
  · intro hnot
    rw [Decode.field, hstores.refused n hnot]
    rfl

/-- A record that was read from a table with an integer in one of its fields holds this integer. -/
theorem Slot.Stores.value_of_ofEntries (hstores : p.Stores f) (h : Lawful slots) (hp : p ∈ slots)
    {entries : Entries} (hkeys : (entries.map (·.1)).Nodup) {n : Int}
    (hmem : (f.key, .integer n) ∈ entries) {s t : σ}
    (hok : ofEntries (slots.map Slot.field) s entries = .ok t) :
    f.Admits n ∧ f.value t = some n := by
  obtain ⟨a, ha, hget⟩ := h.get_of_mem hp hkeys (hstores.key ▸ hmem) hok
  by_cases hadmits : f.Admits n
  · obtain ⟨b, hb, hvalue⟩ := hstores.admitted n hadmits
    cases ha.symm.trans hb
    exact ⟨hadmits, hvalue t hget⟩
  · cases ha.symm.trans (hstores.refused n hadmits)

theorem Ranged.stores {toInt : p.Read → Int}
    (h : Ranged p.decoder f.kind f.least f.greatest toInt) (hkey : f.key = p.key)
    (hvalue : ∀ t a, p.get t = p.keep a → f.value t = some (toInt a)) : p.Stores f where
  key := hkey
  admitted n hn := by
    obtain ⟨a, hread, rfl⟩ := h.admitted n hn
    exact ⟨a, hread, fun t ht => hvalue t a ht⟩
  refused := h.refused

theorem stores_router : ∀ f ∈ RouterConfig.integerFields, ∃ p ∈ routerSlots, p.Stores f := by
  simp only [RouterConfig.integerFields, List.forall_mem_cons]
  refine ⟨⟨routerSlots[0], List.getElem_mem _, ranged_int32.stores rfl ?_⟩,
    ⟨routerSlots[2], List.getElem_mem _, ranged_uint32.stores rfl ?_⟩,
    ⟨routerSlots[3], List.getElem_mem _, ranged_uint8.stores rfl ?_⟩,
    ⟨routerSlots[4], List.getElem_mem _, ranged_uint32.stores rfl ?_⟩, by simp⟩
  · exact fun t a h => congrArg (Option.map Int32.toInt) h
  · exact fun t a h => congrArg (Option.map fun size : UInt32 => (size.toNat : Int)) h
  · exact fun t a h => congrArg (fun limit : UInt8 => some (limit.toNat : Int)) h
  · exact fun t a h => congrArg (fun seconds : UInt32 => some (seconds.toNat : Int)) h

theorem stores_prefix : ∀ f ∈ PrefixConfig.integerFields,
    ∃ p ∈ prefixSlots, p.Stores (f.within PrefixDraft.settings) := by
  simp only [PrefixConfig.integerFields, List.forall_mem_cons]
  refine ⟨⟨prefixSlots[3], List.getElem_mem _, ranged_uint32.stores rfl ?_⟩,
    ⟨prefixSlots[4], List.getElem_mem _, ranged_uint32.stores rfl ?_⟩, by simp⟩
  · exact fun t a h => congrArg (fun seconds : UInt32 => some (seconds.toNat : Int)) h
  · exact fun t a h => congrArg (fun seconds : UInt32 => some (seconds.toNat : Int)) h

/-- The entries are those of a configuration, whatever text they come from. -/
def Yields (entries : Entries) (c : Config) : Prop :=
  config entries = .ok c ∧ ∀ reporter text, Toml.read? text = some entries →
    Config.parse reporter text = .ok c

/-- The entries are those of no configuration. -/
def Fails (entries : Entries) : Prop :=
  ∃ e, config entries = .error e ∧
    ∀ reporter text, Toml.read? text = some entries →
      Config.parse reporter text = .error (.schema e (reporter.schema text e.message))

/-- A table has an integer under a key of its router section. No key is there twice. -/
structure InRouter (entries : Entries) (key : String) (n : Int) (section_ : Entries) : Prop where
  keys : (entries.map (·.1)).Nodup
  found : ("router", .table section_) ∈ entries
  fields : (section_.map (·.1)).Nodup
  integer : (key, .integer n) ∈ section_

/-- A table has an integer under a key of its prefix entry at a place. No key is there twice. -/
structure InPrefix (entries : Entries) (key : String) (n : Int) (place : Nat) (items : List Value)
    (section_ : Entries) : Prop where
  keys : (entries.map (·.1)).Nodup
  found : ∃ form, ("prefix", .array form items) ∈ entries
  item : items[place]? = some (.table section_)
  fields : (section_.map (·.1)).Nodup
  integer : (key, .integer n) ∈ section_

variable {entries section_ : Entries} {c : Config} {n : Int}

theorem yields_of_ok (h : config entries = .ok c) : Yields entries c := by
  refine ⟨h, fun reporter text hread => ?_⟩
  rw [Config.parse, hread]
  simp only [h]
  rfl

theorem fails_of_not_ok (h : ∀ c, config entries ≠ .ok c) : Fails entries := by
  cases hconfig : config entries with
  | ok c => exact absurd hconfig (h c)
  | error e =>
    refine ⟨e, hconfig, fun reporter text hread => ?_⟩
    rw [Config.parse, hread]
    simp only [hconfig]
    rfl

theorem InRouter.value_eq {f : IntegerField RouterConfig} (h : InRouter entries f.key n section_)
    (hf : f ∈ RouterConfig.integerFields) (hok : config entries = .ok c) :
    f.Admits n ∧ f.value c.router = some n := by
  obtain ⟨r, hread, hkept⟩ : ∃ r, ofEntries (routerSlots.map Slot.field) {} section_ = .ok r ∧
      c.router = r :=
    lawful_config.get_of_mem (p := configSlots[1]) (List.getElem_mem _) h.keys h.found hok
  obtain ⟨p, hp, hstores⟩ := stores_router f hf
  rw [hkept]
  exact hstores.value_of_ofEntries lawful_router hp h.fields h.integer hread

theorem value_with_network {f : IntegerField PrefixConfig} (hf : f ∈ PrefixConfig.integerFields)
    (p : PrefixConfig) (network : String) : f.value { p with network } = f.value p := by
  rcases List.mem_pair.mp hf with rfl | rfl <;> rfl

theorem InPrefix.value_eq {f : IntegerField PrefixConfig} {place : Nat} {items : List Value}
    (h : InPrefix entries f.key n place items section_) (hf : f ∈ PrefixConfig.integerFields)
    (hok : config entries = .ok c) : f.Admits n ∧ c.prefixes[place]?.bind f.value = some n := by
  obtain ⟨form, hfound⟩ := h.found
  obtain ⟨found, hread, hkept⟩ : ∃ found, items.mapM prefixEntry = .ok found ∧
      c.prefixes = found :=
    lawful_config.get_of_mem (p := configSlots[2]) (List.getElem_mem _) h.keys hfound hok
  have hitems := mapM_eq_ok_iff.mp hread
  obtain ⟨hlt, hitem⟩ := List.getElem?_eq_some_iff.mp h.item
  have hplace : place < found.length := hitems.length_eq ▸ hlt
  have hentry : prefixEntry items[place] = .ok found[place] := hitems.get hlt hplace
  rw [hitem, prefixEntry_eq_ok_iff] at hentry
  obtain ⟨d, network, hdraft, -, hsettings⟩ := hentry
  obtain ⟨q, hq, hstores⟩ := stores_prefix f hf
  have hrecord : ofEntries (prefixSlots.map Slot.field) {} section_ = .ok d := hdraft
  obtain ⟨hadmits, hvalue⟩ :=
    hstores.value_of_ofEntries lawful_prefix hq h.fields h.integer hrecord
  refine ⟨hadmits, ?_⟩
  rw [hkept, List.getElem?_eq_getElem hplace, Option.bind_some, ← hsettings,
    value_with_network hf]
  exact hvalue

end Decode

namespace Config

/-- Entries that write a configuration are read as this configuration. An integer under a key of a
record that takes one is what the configuration has there; if it is out of range, there is none. -/
theorem decoding_recovers_configuration (entries : Entries) :
    (∀ c : Config, c.WrittenIn c.entries ∧ (c.WrittenIn entries → Decode.Yields entries c)) ∧
      (∀ f ∈ RouterConfig.integerFields, f.ReadBy Decode.routerFields ∧
        ∀ n section_, Decode.InRouter entries f.key n section_ →
          (¬f.Admits n → Decode.Fails entries) ∧
            ∀ c, Decode.Yields entries c → f.Admits n ∧ f.value c.router = some n) ∧
      ∀ f ∈ PrefixConfig.integerFields,
        (f.within Decode.PrefixDraft.settings).ReadBy Decode.prefixFields ∧
        ∀ n place items section_, Decode.InPrefix entries f.key n place items section_ →
          (¬f.Admits n → Decode.Fails entries) ∧
            ∀ c, Decode.Yields entries c →
              f.Admits n ∧ c.prefixes[place]?.bind f.value = some n := by
  refine ⟨fun c => ⟨c.writtenIn_entries, fun h => ?_⟩, fun f hf => ⟨?_, ?_⟩, fun f hf => ⟨?_, ?_⟩⟩
  · exact Decode.yields_of_ok (Decode.config_of_writtenIn h)
  · obtain ⟨p, hp, hstores⟩ := Decode.stores_router f hf
    exact hstores.readBy Decode.lawful_router hp
  · intro n section_ hn
    exact ⟨fun hnot => Decode.fails_of_not_ok fun c hok => hnot (hn.value_eq hf hok).1,
      fun c hc => hn.value_eq hf hc.1⟩
  · obtain ⟨p, hp, hstores⟩ := Decode.stores_prefix f hf
    exact hstores.readBy Decode.lawful_prefix hp
  · intro n place items section_ hn
    exact ⟨fun hnot => Decode.fails_of_not_ok fun c hok => hnot (hn.value_eq hf hok).1,
      fun c hc => hn.value_eq hf hc.1⟩

/-- Here the sections come in another order, most fields are left out, and keys stand between them
that are no field; one more table has a hop limit that is too great, and one a lifetime. -/
theorem decoding_recovers_configuration_of_reordered_tables :
    let c : Config := {
      log := some { format := .json }
      router := { interface := some (-1), linkAddress := some "x", hopLimit := 255 }
      prefixes := [{ network := "a" }, { network := "b", onLink := false, validLifetime := 7 }] }
    let first : Entries := [("prefix", .string "a")]
    let second : Entries := [("valid_lifetime", .integer 7), ("on_link", .boolean false),
      ("route", .table []), ("prefix", .string "b")]
    let router : Entries := [("mac", .string "x"), ("Mtu", .string "jumbo"),
      ("lifetime", .integer 1800), ("hop_limit", .integer 255), ("ifindex", .integer (-1))]
    let entries : Entries := [("prefix", .array .headed [.table first, .table second]),
      ("version", .moment), ("router", .table router), ("log", .table [("format", .string "json")])]
    let far : Entries := [("router", .table [("hop_limit", .integer 256)])]
    let lasting : Entries := [("valid_lifetime", .integer 4294967296), ("prefix", .string "b")]
    let long : Entries := [("prefix", .array .bracketed [.table first, .table lasting])]
    Decode.Yields entries c ∧ Decode.Fails far ∧ Decode.Fails long := by
  intro c first second router entries far lasting long
  have hlog : LogConfig.WrittenIn { format := .json } [("format", .string "json")] := by
    constructor <;> simp [Gives, Log.Format.keyword]
  have hrouter : c.router.WrittenIn router := by
    constructor <;> simp [Gives, router, c]
  have hfirst : PrefixConfig.WrittenIn { network := "a" } first := by
    constructor <;> simp [Gives, first, PrefixInformation.defaultPreferred,
      PrefixInformation.defaultValid]
  have hsecond : PrefixConfig.WrittenIn { network := "b", onLink := false, validLifetime := 7 }
      second := by
    constructor <;> simp [Gives, second, PrefixInformation.defaultPreferred]
  have hwritten : c.WrittenIn entries := by
    refine ⟨⟨fun v hv => ?_, by simp [entries]⟩, ⟨fun v hv => ?_, by simp [entries]⟩,
      ⟨fun v hv => ?_, by simp [entries]⟩⟩
    · obtain rfl : v = .table [("format", .string "json")] := by simpa [entries] using hv
      exact ⟨{ format := .json }, rfl, _, rfl, hlog⟩
    · obtain rfl : v = .table router := by simpa [entries] using hv
      exact ⟨router, rfl, hrouter⟩
    · obtain rfl : v = .array .headed [.table first, .table second] := by simpa [entries] using hv
      exact ⟨.headed, _, rfl, .cons ⟨first, rfl, hfirst⟩ (.cons ⟨second, rfl, hsecond⟩ .nil)⟩
  obtain ⟨hentries, -, -⟩ := decoding_recovers_configuration entries
  obtain ⟨-, hfar, -⟩ := decoding_recovers_configuration far
  obtain ⟨-, -, hlong⟩ := decoding_recovers_configuration long
  refine ⟨(hentries c).2 hwritten, ?_, ?_⟩
  · obtain ⟨-, hinteger⟩ := hfar RouterConfig.integerFields[2] (List.getElem_mem _)
    have hin : Decode.InRouter far "hop_limit" 256 [("hop_limit", .integer 256)] := by
      constructor <;> simp [far]
    refine (hinteger 256 _ hin).1 ?_
    simp [IntegerField.Admits, RouterConfig.integerFields]
  · obtain ⟨-, hinteger⟩ := hlong PrefixConfig.integerFields[1] (List.getElem_mem _)
    have hin : Decode.InPrefix long "valid_lifetime" 4294967296 1 [.table first, .table lasting]
        lasting :=
      ⟨by simp [long], ⟨.bracketed, List.mem_singleton_self _⟩, rfl, by simp [lasting],
        by simp [lasting]⟩
    refine (hinteger 4294967296 1 _ lasting hin).1 ?_
    simp [IntegerField.Admits, PrefixConfig.integerFields]

end Config

end RouterAdvert
