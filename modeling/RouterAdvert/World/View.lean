import RouterAdvert.World.Step
import RouterAdvert.Text.Layout
import RouterAdvert.Text.Quoted

/-!
# Looking at a world

What can be read off sessions, prefixes and sets without changing them: the options to send, the
names of members, and diagnostic texts.
-/

namespace RouterAdvert

open Text

namespace World

def options (w : World) (members : PrefixSet) : List UInt8 :=
  members.flatMap fun id => (w.option id).encode

def memberTexts (w : World) (members : PrefixSet) : List String :=
  members.map fun id => (w.network id).text

/-- The least name of an object. -/
def firstName? {α : Type} [DecidableEq α] (handles : Handles α) (object : α) : Option String :=
  (handles.namesOf object).foldl (fun least name =>
    match least with
    | none => some name
    | some best => some (if name < best then name else best)) none

def sortedNames {α : Type} [DecidableEq α] (handles : Handles α) (object : α) : List String :=
  (handles.namesOf object).mergeSort fun a b => !(b < a)

/-- The first member of a set whose range shares an address with that of a prefix. -/
def findInSet? (w : World) (members : PrefixSet) (candidate : PrefixId) : Option PrefixId :=
  members.firstOverlap? w.network (w.network candidate)

end World

def RouterFlags.layout (f : RouterFlags) : Layout :=
  .record "RouterFlags"
    [("managed", .truth f.managed), ("other", .truth f.other),
      ("preference", .word f.preference.label)]

def PrefixInformation.layout (o : PrefixInformation) : Layout :=
  .record "PrefixInformation"
    [("prefix", .word o.network.address.text),
      ("prefix_len", .word (Numeral.decimal o.network.length.toNat)),
      ("on_link", .truth o.onLink),
      ("autonomous", .truth o.autonomous),
      ("valid_lifetime", .word (Numeral.decimal o.validLifetime.toNat)),
      ("preferred_lifetime", .word (Numeral.decimal o.preferredLifetime.toNat))]

def EventLoop.layout (loop : EventLoop) : Layout :=
  .record "NamedEventLoop" [("name", .word (quoted loop.name))]

def Session.layout (s : Session) : Layout :=
  .record "Radv"
    [("state", .word s.phase.label),
      ("ifindex", .word (Numeral.signed s.router.interface.toInt)),
      ("mac_addr", .optional (fun a => .word a.text) s.router.linkAddress),
      ("mtu", .optional (fun size => .word (Numeral.decimal size.toNat)) s.router.mtu),
      ("hop_limit", .word (Numeral.decimal s.router.hopLimit.toNat)),
      ("lifetime", .word (Numeral.decimal s.router.lifetime.toNat)),
      ("flags", s.router.flags.layout),
      ("prefixes", .word (Numeral.decimal s.members.length)),
      ("event", .optional EventLoop.layout s.loop)]

namespace World

/-- The parts of a shared prefix: its option and the number of references to it. -/
def prefixLayout (w : World) (id : PrefixId) : Layout :=
  .record "RadvPrefix"
    [("opt", (w.option id).layout), ("refs", .word (Numeral.decimal (w.prefixRefs id)))]

def setLayout (w : World) (members : PrefixSet) : Layout :=
  .record "PrefixSet" [("prefixes", .list (members.map w.prefixLayout))]

end World

end RouterAdvert
