import RouterAdvert.Config.Basic
import RouterAdvert.Text.Quoted
import RouterAdvert.Toml.Value

/-!
# Configurations from TOML values

Keys are looked at in the order of the text and the first error counts; keys that nothing asks for
are ignored. A record may also be written as an array with the values of its fields in order.
-/

namespace RouterAdvert

open Toml

inductive Kind
  | int32
  | uint32
  | uint8
  | truth
  | text
  | sequence
  | record (name : String)
deriving DecidableEq, Repr

def Kind.name : Kind → String
  | int32 => "i32"
  | uint32 => "u32"
  | uint8 => "u8"
  | truth => "a boolean"
  | text => "a string"
  | sequence => "a sequence"
  | record name => "struct " ++ name

/-- Why a TOML value is no configuration. -/
inductive SchemaError
  | wrongKind (found : Value) (expected : Kind)
  | outOfRange (n : Int) (expected : Kind)
  | missingField (name : String)
  | tooFewElements (found : Nat) (record : String) (fields : Nat)
  | unknownVariant (name : String) (variants : List String)
  | notVariant
  | noVariant
  | severalVariants
  | variantWithEntries
  | variantWithTables
  | variantWithValue (found : Value)

def describeValue : Value → String
  | .string text => "string " ++ Text.quoted text
  | .integer n => "integer `" ++ Numeral.signed n ++ "`"
  | .float x => "floating point `" ++ x.text ++ "`"
  | .boolean b => "boolean `" ++ (if b then "true" else "false") ++ "`"
  | .moment | .table _ => "map"
  | .array _ _ => "sequence"

def typeName : Value → String
  | .string _ => "string"
  | .integer _ => "integer"
  | .float _ => "float"
  | .boolean _ => "boolean"
  | .moment => "datetime"
  | .array _ _ => "array"
  | .table _ => "table"

def SchemaError.message : SchemaError → String
  | wrongKind found expected =>
    "invalid type: " ++ describeValue found ++ ", expected " ++ expected.name
  | outOfRange n expected =>
    "invalid value: integer `" ++ Numeral.signed n ++ "`, expected " ++ expected.name
  | missingField name => "missing field `" ++ name ++ "`"
  | tooFewElements found record fields =>
    "invalid length " ++ Numeral.decimal found ++ ", expected struct " ++ record ++ " with "
      ++ Numeral.decimal fields ++ " elements"
  | unknownVariant name variants =>
    "unknown variant `" ++ name ++ "`, expected one of "
      ++ ", ".intercalate (variants.map fun v => "`" ++ v ++ "`")
  | notVariant => "wanted string or table"
  | noVariant => "wanted exactly 1 element, found 0 elements"
  | severalVariants => "wanted exactly 1 element, more than 1 element"
  | variantWithEntries => "expected empty table"
  | variantWithTables => "expected empty array"
  | variantWithValue found => "expected table, found " ++ typeName found

namespace Decode

abbrev Decoder (α : Type) := Value → Except SchemaError α

def integer (kind : Kind) (low high : Int) : Decoder Int
  | .integer n => if low ≤ n ∧ n ≤ high then .ok n else .error (.outOfRange n kind)
  | v => .error (.wrongKind v kind)

def int32 : Decoder Int32 := fun v =>
  Int32.ofInt <$> integer .int32 Int32.minValue.toInt Int32.maxValue.toInt v

def uint32 : Decoder UInt32 := fun v =>
  (UInt32.ofNat ·.toNat) <$> integer .uint32 0 (UInt32.size - 1) v

def uint8 : Decoder UInt8 := fun v =>
  (UInt8.ofNat ·.toNat) <$> integer .uint8 0 (UInt8.size - 1) v

def truth : Decoder Bool
  | .boolean b => .ok b
  | v => .error (.wrongKind v .truth)

def text : Decoder String
  | .string s => .ok s
  | v => .error (.wrongKind v .text)

/-- What may stand for a variant under its name: an empty table or array. -/
def emptyBody : Decoder Unit
  | .table [] | .array _ [] => .ok ()
  | .table _ | .array .bracketed _ => .error .variantWithEntries
  | .array .headed _ => .error .variantWithTables
  | v => .error (.variantWithValue v)

/-- One of several variants, by name: a text, or a table with the name as its only key. -/
def variant {α : Type} (variants : List (String × α)) : Decoder α :=
  let find (name : String) : Except SchemaError α :=
    match variants.lookup name with
    | some a => .ok a
    | none => .error (.unknownVariant name (variants.map (·.1)))
  fun
  | .string name => find name
  | .table [] => .error .noVariant
  | .table [(name, body)] => do
    let a ← find name
    emptyBody body
    return a
  | .table _ => .error .severalVariants
  | _ => .error .notVariant

/-- The fields of a record: their names and what each does to the record that is being read. -/
abbrev Fields (σ : Type) := List (String × (σ → Decoder σ))

def field {σ α : Type} (decoder : Decoder α) (store : σ → α → σ) : σ → Decoder σ :=
  fun s v => store s <$> decoder v

def ofEntries {σ : Type} (fields : Fields σ) (start : σ) (entries : Entries) :
    Except SchemaError σ :=
  entries.foldlM (fun s (key, v) =>
    match fields.lookup key with
    | some read => read s v
    | none => .ok s) start

/-- Reads the items of an array into a record, in the order of its fields; items too many are
ignored. -/
def ofItems {σ : Type} (fields : Fields σ) (start : σ) (items : List Value) :
    Except SchemaError σ :=
  (fields.zip items).foldlM (fun s (field, v) => field.2 s v) start

/-- A record: a table, or an array in which the first `needed` fields are present. A date or time
counts as a table without known keys. -/
def record {σ : Type} (name : String) (fields : Fields σ) (needed : Nat) (start : σ) : Decoder σ
  | .table entries => ofEntries fields start entries
  | .moment => .ok start
  | .array _ items => do
    let s ← ofItems fields start items
    if items.length < needed then .error (.tooFewElements items.length name fields.length)
    else return s
  | v => .error (.wrongKind v (.record name))

def sequence {α : Type} (item : Decoder α) : Decoder (List α)
  | .array _ items => items.mapM item
  | v => .error (.wrongKind v .sequence)

def preference : Decoder Preference :=
  variant ([Preference.low, .medium, .high].map fun p => (p.keyword, p))

def format : Decoder Log.Format :=
  variant ([Log.Format.pretty, .compact, .json].map fun f => (f.keyword, f))

def logFields : Fields LogConfig :=
  [("level", field text fun s level => { s with level }),
    ("format", field format fun s format => { s with format })]

def routerFields : Fields RouterConfig :=
  [("ifindex", field int32 fun s index => { s with interface := some index }),
    ("mac", field text fun s address => { s with linkAddress := some address }),
    ("mtu", field uint32 fun s size => { s with mtu := some size }),
    ("hop_limit", field uint8 fun s hopLimit => { s with hopLimit }),
    ("lifetime", field uint32 fun s lifetime => { s with lifetime }),
    ("managed", field truth fun s managed => { s with managed }),
    ("other", field truth fun s other => { s with other }),
    ("preference", field preference fun s preference => { s with preference })]

/-- A prefix entry while it is read: its text may not have been found yet. -/
structure PrefixDraft where
  network : Option String := none
  settings : PrefixConfig := { network := "" }

def prefixFields : Fields PrefixDraft :=
  [("prefix", field text fun d network => { d with network := some network }),
    ("on_link", setting truth fun s onLink => { s with onLink }),
    ("autonomous", setting truth fun s autonomous => { s with autonomous }),
    ("preferred_lifetime", setting uint32 fun s preferredLifetime => { s with preferredLifetime }),
    ("valid_lifetime", setting uint32 fun s validLifetime => { s with validLifetime })]
where
  setting {α : Type} (decoder : Decoder α) (store : PrefixConfig → α → PrefixConfig) :
      PrefixDraft → Decoder PrefixDraft :=
    field decoder fun d a => { d with settings := store d.settings a }

def log : Decoder LogConfig := record "LogConfig" logFields 0 {}

def router : Decoder RouterConfig := record "RouterConfig" routerFields 3 {}

def prefixEntry : Decoder PrefixConfig := fun v => do
  let d ← record "PrefixConfig" prefixFields 1 {} v
  match d.network with
  | some network => return { d.settings with network }
  | none => .error (.missingField "prefix")

def configFields : Fields Config :=
  [("log", field log fun c section_ => { c with log := some section_ }),
    ("router", field router fun c router => { c with router }),
    ("prefix", field (sequence prefixEntry) fun c prefixes => { c with prefixes })]

def config (entries : Entries) : Except SchemaError Config := ofEntries configFields {} entries

end Decode

end RouterAdvert
