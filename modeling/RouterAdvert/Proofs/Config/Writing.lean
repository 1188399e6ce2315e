import RouterAdvert.Config.Load
import RouterAdvert.Proofs.Config.Records

/-!
# Configurations as they are written

A configuration is written as a table with a key for each of its parts. Keys may come in any order,
fields that have their default may be left out, and keys that are no field may stand between them;
what is read is the configuration that was written. An integer is read as what it is if the type of
its field holds it, and makes the whole configuration unreadable if not.
-/

namespace RouterAdvert

open Toml

structure LogConfig.WrittenIn (l : LogConfig) (entries : Entries) : Prop where
  level : Gives entries "level" (· = .string l.level) (l.level = "info")
  format : Gives entries "format" (· = .string l.format.keyword) (l.format = .pretty)

structure RouterConfig.WrittenIn (r : RouterConfig) (entries : Entries) : Prop where
  interface : Gives entries "ifindex"
    (fun v => ∃ index, r.interface = some index ∧ .integer index.toInt = v) (r.interface = none)
  linkAddress : Gives entries "mac"
    (fun v => ∃ address, r.linkAddress = some address ∧ .string address = v) (r.linkAddress = none)
  mtu : Gives entries "mtu"
    (fun v => ∃ size, r.mtu = some size ∧ .integer size.toNat = v) (r.mtu = none)
  hopLimit : Gives entries "hop_limit" (· = .integer r.hopLimit.toNat) (r.hopLimit = 64)
  lifetime : Gives entries "lifetime" (· = .integer r.lifetime.toNat) (r.lifetime = 1800)
  managed : Gives entries "managed" (· = .boolean r.managed) (r.managed = false)
  other : Gives entries "other" (· = .boolean r.other) (r.other = false)
  preference : Gives entries "preference" (· = .string r.preference.keyword)
    (r.preference = .medium)

/-- A table that writes a prefix entry. Its text is never left out. -/
structure PrefixConfig.WrittenIn (p : PrefixConfig) (entries : Entries) : Prop where
  network : Gives entries "prefix" (· = .string p.network) False
  onLink : Gives entries "on_link" (· = .boolean p.onLink) (p.onLink = true)
  autonomous : Gives entries "autonomous" (· = .boolean p.autonomous) (p.autonomous = true)
  preferredLifetime : Gives entries "preferred_lifetime" (· = .integer p.preferredLifetime.toNat)
    (p.preferredLifetime = 604800)
  validLifetime : Gives entries "valid_lifetime" (· = .integer p.validLifetime.toNat)
    (p.validLifetime = 2592000)

/-- A table that writes a configuration. The router section may be left out if all its fields may,
and the prefixes if there are none. -/
structure Config.WrittenIn (c : Config) (entries : Entries) : Prop where
  log : Gives entries "log"
    (fun v => ∃ l, c.log = some l ∧ ∃ section_, .table section_ = v ∧ l.WrittenIn section_)
    (c.log = none)
  router : Gives entries "router" (fun v => ∃ section_, .table section_ = v ∧
    c.router.WrittenIn section_) (c.router.WrittenIn [])
  prefixes : Gives entries "prefix" (fun v => ∃ form items, .array form items = v ∧
    List.Forall₂ (fun p item => ∃ section_, .table section_ = item ∧ p.WrittenIn section_)
      c.prefixes items) (c.prefixes = [])

def LogConfig.entries (l : LogConfig) : Entries :=
  [("level", .string l.level), ("format", .string l.format.keyword)]

def RouterConfig.entries (r : RouterConfig) : Entries :=
  (r.interface.map fun index => ("ifindex", Value.integer index.toInt)).toList
    ++ (r.linkAddress.map fun address => ("mac", Value.string address)).toList
    ++ (r.mtu.map fun size => ("mtu", Value.integer size.toNat)).toList
    ++ [("hop_limit", .integer r.hopLimit.toNat), ("lifetime", .integer r.lifetime.toNat),
      ("managed", .boolean r.managed), ("other", .boolean r.other),
      ("preference", .string r.preference.keyword)]

def PrefixConfig.entries (p : PrefixConfig) : Entries :=
  [("prefix", .string p.network), ("on_link", .boolean p.onLink),
    ("autonomous", .boolean p.autonomous),
    ("preferred_lifetime", .integer p.preferredLifetime.toNat),
    ("valid_lifetime", .integer p.validLifetime.toNat)]

def Config.entries (c : Config) : Entries :=
  (c.log.map fun l => ("log", Value.table l.entries)).toList
    ++ [("router", .table c.router.entries),
      ("prefix", .array .headed (c.prefixes.map fun p => .table p.entries))]

theorem LogConfig.writtenIn_entries (l : LogConfig) : l.WrittenIn l.entries := by
  constructor <;> simp [Gives, entries]

theorem RouterConfig.writtenIn_entries (r : RouterConfig) : r.WrittenIn r.entries := by
  constructor <;> simp [Gives, entries, Option.eq_none_iff_forall_ne_some]

theorem PrefixConfig.writtenIn_entries (p : PrefixConfig) : p.WrittenIn p.entries := by
  constructor <;> simp [Gives, entries]

theorem Config.writtenIn_entries (c : Config) : c.WrittenIn c.entries := by
  have hitems : List.Forall₂ (fun p item => ∃ section_, Value.table section_ = item ∧
      p.WrittenIn section_) c.prefixes (c.prefixes.map fun p => .table p.entries) := by
    rw [List.forall₂_map_right_iff]
    exact List.forall₂_same.mpr fun p _ => ⟨p.entries, rfl, p.writtenIn_entries⟩
  constructor
  · refine ⟨?_, by simp [entries, Option.eq_none_iff_forall_ne_some]⟩
    intro v hv
    obtain ⟨l, hlog, rfl⟩ : ∃ l, c.log = some l ∧ .table l.entries = v := by
      simpa [entries] using hv
    exact ⟨l, hlog, l.entries, rfl, l.writtenIn_entries⟩
  · refine ⟨?_, by simp [entries]⟩
    intro v hv
    obtain rfl : v = .table c.router.entries := by simpa [entries] using hv
    exact ⟨c.router.entries, rfl, c.router.writtenIn_entries⟩
  · refine ⟨?_, by simp [entries]⟩
    intro v hv
    obtain rfl : v = .array .headed (c.prefixes.map fun p => .table p.entries) := by
      simpa [entries] using hv
    exact ⟨.headed, _, rfl, hitems⟩

namespace Decode

/-- A decoder reads the integers in a range as what they are, and refuses all others. -/
structure Ranged {α : Type} (decoder : Decoder α) (kind : Kind) (least greatest : Int)
    (toInt : α → Int) : Prop where
  admitted : ∀ n, least ≤ n ∧ n ≤ greatest → ∃ a, decoder (.integer n) = .ok a ∧ toInt a = n
  refused : ∀ n, ¬(least ≤ n ∧ n ≤ greatest) → decoder (.integer n) = .error (.outOfRange n kind)

theorem ranged_map_integer {α : Type} {make : Int → α} {kind : Kind} {least greatest : Int}
    {toInt : α → Int} (h : ∀ n, least ≤ n → n ≤ greatest → toInt (make n) = n) :
    Ranged (fun v => make <$> integer kind least greatest v) kind least greatest toInt where
  admitted n hn := by
    refine ⟨make n, ?_, h n hn.1 hn.2⟩
    rw [integer, if_pos hn]
    rfl
  refused n hn := by
    rw [integer, if_neg hn]
    rfl

theorem ranged_int32 : Ranged int32 .int32 (-2147483648) 2147483647 Int32.toInt := by
  refine ranged_map_integer fun n hleast hgreatest => ?_
  have hbound : Int32.maxValue.toInt = 2147483647 := rfl
  exact Int32.toInt_ofInt_of_le hleast (by omega)

theorem ranged_uint32 : Ranged uint32 .uint32 0 4294967295 (·.toNat) := by
  refine ranged_map_integer fun n hleast hgreatest => ?_
  have hbound : ((UInt32.size : Nat) : Int) = 4294967296 := rfl
  rw [UInt32.toNat_ofNat', Nat.mod_eq_of_lt (by omega), Int.toNat_of_nonneg hleast]

theorem ranged_uint8 : Ranged uint8 .uint8 0 255 (·.toNat) := by
  refine ranged_map_integer fun n hleast hgreatest => ?_
  have hbound : ((UInt8.size : Nat) : Int) = 256 := rfl
  rw [UInt8.toNat_ofNat', Nat.mod_eq_of_lt (by omega), Int.toNat_of_nonneg hleast]

theorem Ranged.read_toInt {α : Type} {decoder : Decoder α} {kind : Kind} {least greatest : Int}
    {toInt : α → Int} (h : Ranged decoder kind least greatest toInt) {a : α}
    (hinjective : ∀ b, toInt b = toInt a → b = a) (ha : least ≤ toInt a ∧ toInt a ≤ greatest) :
    decoder (.integer (toInt a)) = .ok a := by
  obtain ⟨b, hread, heq⟩ := h.admitted _ ha
  rw [hread, hinjective b heq]

theorem int32_toInt (n : Int32) : int32 (.integer n.toInt) = .ok n := by
  have hleast := n.le_toInt
  have hgreatest := n.toInt_lt
  exact ranged_int32.read_toInt (fun _ => Int32.toInt_inj.mp) (by omega)

theorem uint32_toNat (n : UInt32) : uint32 (.integer n.toNat) = .ok n := by
  have hgreatest := n.toNat_lt
  exact ranged_uint32.read_toInt (fun _ h => UInt32.toNat_inj.mp (Int.ofNat_inj.mp h)) (by omega)

theorem uint8_toNat (n : UInt8) : uint8 (.integer n.toNat) = .ok n := by
  have hgreatest := n.toNat_lt
  exact ranged_uint8.read_toInt (fun _ h => UInt8.toNat_inj.mp (Int.ofNat_inj.mp h)) (by omega)

theorem text_string (s : String) : text (.string s) = .ok s := rfl

theorem truth_boolean (b : Bool) : truth (.boolean b) = .ok b := rfl

theorem preference_keyword (p : Preference) : preference (.string p.keyword) = .ok p := by
  cases p <;> rfl

theorem format_keyword (f : Log.Format) : format (.string f.keyword) = .ok f := by
  cases f <;> rfl

theorem mapM_eq_ok_iff {α β : Type} {f : α → Except SchemaError β} {as : List α} {bs : List β} :
    as.mapM f = .ok bs ↔ List.Forall₂ (fun a b => f a = .ok b) as bs := by
  induction as generalizing bs with
  | nil =>
    rw [List.mapM_nil, List.forall₂_nil_left_iff]
    exact ⟨fun h => (Except.ok.inj h).symm, fun h => congrArg Except.ok h.symm⟩
  | cons a rest ih =>
    simp only [List.mapM_cons, bind_eq_ok_iff, ih, List.forall₂_cons_left_iff]
    constructor
    · rintro ⟨b, hb, others, hothers, heq⟩
      exact ⟨b, others, hb, hothers, (Except.ok.inj heq).symm⟩
    · rintro ⟨b, others, hb, hothers, rfl⟩
      exact ⟨b, hb, others, hothers, rfl⟩

/-- What stands under a key if a value is set is decoded as that value. -/
theorem means_some {α : Type} {decoder : Decoder α} {write : α → Value}
    (hread : ∀ a, decoder (write a) = .ok a) {kept : Option α} :
    ∀ v, (∃ a, kept = some a ∧ write a = v) → ∃ a, decoder v = .ok a ∧ some a = kept := by
  rintro _ ⟨a, hkept, rfl⟩
  exact ⟨a, hread a, hkept.symm⟩

/-- What stands under the key of a value that is always there is decoded as that value. -/
theorem means_self {α : Type} {decoder : Decoder α} {written : Value} {kept : α}
    (hread : decoder written = .ok kept) :
    ∀ v, v = written → ∃ a, decoder v = .ok a ∧ id a = kept := by
  rintro _ rfl
  exact ⟨kept, hread, rfl⟩

section

variable {entries : Entries}

theorem log_of_writtenIn {l : LogConfig} (h : l.WrittenIn entries) :
    log (.table entries) = .ok l := by
  have hgives : ∀ p ∈ logSlots, Gives entries p.key (p.Means l) (p.get {} = p.get l) := by
    rw [logSlots, List.forall_mem_cons, List.forall_mem_singleton]
    exact ⟨h.level.imp (means_self (text_string _)) Eq.symm,
      h.format.imp (means_self (format_keyword l.format)) Eq.symm⟩
  obtain ⟨u, hread, hsame⟩ := lawful_log.ofEntries_ok hgives
  rw [← logSlots_ext.mp hsame]
  exact hread

theorem router_of_writtenIn {r : RouterConfig} (h : r.WrittenIn entries) :
    router (.table entries) = .ok r := by
  have hgives : ∀ p ∈ routerSlots, Gives entries p.key (p.Means r) (p.get {} = p.get r) := by
    simp only [routerSlots, List.forall_mem_cons]
    exact ⟨h.interface.imp (means_some int32_toInt) Eq.symm,
      h.linkAddress.imp (means_some text_string) Eq.symm,
      h.mtu.imp (means_some uint32_toNat) Eq.symm,
      h.hopLimit.imp (means_self (uint8_toNat _)) Eq.symm,
      h.lifetime.imp (means_self (uint32_toNat _)) Eq.symm,
      h.managed.imp (means_self (truth_boolean _)) Eq.symm,
      h.other.imp (means_self (truth_boolean _)) Eq.symm,
      h.preference.imp (means_self (preference_keyword _)) Eq.symm, by simp⟩
  obtain ⟨u, hread, hsame⟩ := lawful_router.ofEntries_ok hgives
  rw [← routerSlots_ext.mp hsame]
  exact hread

theorem prefixEntry_eq_ok_iff {v : Value} {p : PrefixConfig} :
    prefixEntry v = .ok p ↔ ∃ d network, record "PrefixConfig" prefixFields 1 {} v = .ok d ∧
      d.network = some network ∧ { d.settings with network } = p := by
  unfold prefixEntry
  rw [bind_eq_ok_iff]
  refine exists_congr fun d => ?_
  cases hnetwork : d.network with
  | none => simp
  | some network => simp [pure, Except.pure]

theorem prefixEntry_of_writtenIn {p : PrefixConfig} (h : p.WrittenIn entries) :
    prefixEntry (.table entries) = .ok p := by
  let whole : PrefixDraft := ⟨some p.network, { p with network := "" }⟩
  have hgives : ∀ q ∈ prefixSlots,
      Gives entries q.key (q.Means whole) (q.get {} = q.get whole) := by
    simp only [prefixSlots, List.forall_mem_cons]
    exact ⟨h.network.imp (fun _ hv => ⟨p.network, hv ▸ rfl, rfl⟩) False.elim,
      h.onLink.imp (means_self (truth_boolean _)) Eq.symm,
      h.autonomous.imp (means_self (truth_boolean _)) Eq.symm,
      h.preferredLifetime.imp (means_self (uint32_toNat _)) Eq.symm,
      h.validLifetime.imp (means_self (uint32_toNat _)) Eq.symm, by simp⟩
  obtain ⟨d, hread, hsame⟩ := lawful_prefix.ofEntries_ok hgives
  obtain ⟨hnetwork, honLink, hautonomous, hpreferred, hvalid⟩ :
      d.network = some p.network ∧ d.settings.onLink = p.onLink ∧
        d.settings.autonomous = p.autonomous ∧
        d.settings.preferredLifetime = p.preferredLifetime ∧
        d.settings.validLifetime = p.validLifetime := by
    simpa [prefixSlots] using hsame
  have hrecord : record "PrefixConfig" prefixFields 1 {} (.table entries) = .ok d := hread
  have hsettings : { d.settings with network := p.network } = p := by
    cases p
    simp_all
  rw [prefixEntry_eq_ok_iff]
  exact ⟨d, p.network, hrecord, hnetwork, hsettings⟩

theorem config_of_writtenIn {c : Config} (h : c.WrittenIn entries) :
    config entries = .ok c := by
  have hgives : ∀ p ∈ configSlots, Gives entries p.key (p.Means c) (p.get {} = p.get c) := by
    simp only [configSlots, List.forall_mem_cons]
    refine ⟨h.log.imp ?_ Eq.symm, h.router.imp ?_ ?_, h.prefixes.imp ?_ Eq.symm, by simp⟩
    · rintro _ ⟨l, hl, section_, rfl, hwritten⟩
      exact ⟨l, log_of_writtenIn hwritten, hl.symm⟩
    · rintro _ ⟨section_, rfl, hwritten⟩
      exact ⟨c.router, router_of_writtenIn hwritten, rfl⟩
    · intro hdefault
      exact Except.ok.inj (router_of_writtenIn hdefault)
    · rintro _ ⟨form, items, rfl, hitems⟩
      refine ⟨c.prefixes, mapM_eq_ok_iff.mpr ?_, rfl⟩
      refine hitems.flip.imp ?_
      rintro _ p ⟨section_, rfl, hwritten⟩
      exact prefixEntry_of_writtenIn hwritten
  obtain ⟨u, hread, hsame⟩ := lawful_config.ofEntries_ok hgives
  rw [← configSlots_ext.mp hsame]
  exact hread

end

end Decode

end RouterAdvert
