import RouterAdvert.Outcome

/-!
# Prefix sets

The prefixes of a set keep the order in which they were added, which is the order of their options
in an advertisement. Prefixes are shared and may change at any time; ranges are compared when a
prefix is added, with the values of that moment.
-/

namespace RouterAdvert

/-- The identity of a shared prefix. -/
abbrev PrefixId := Nat

abbrev PrefixSet := List PrefixId

namespace PrefixSet

def firstOverlap? (network : PrefixId → Prefix) (members : PrefixSet) (candidate : Prefix) :
    Option PrefixId :=
  members.find? fun member => (network member).overlaps candidate

/-- Adds a prefix at the end unless its range overlaps that of a member. -/
def add (network : PrefixId → Prefix) (members : PrefixSet) (candidate : PrefixId) :
    Outcome PrefixSet Log.Event :=
  match members.firstOverlap? network (network candidate) with
  | some existing => {
      state := members
      result := .error (.overlap (network candidate) (network existing))
      log := [.overlapIgnored (network existing) (network candidate)] }
  | none => {
      state := members ++ [candidate]
      log := [.added (network candidate) (members.length + 1)] }

end PrefixSet

end RouterAdvert
