import RouterAdvert.Log.Directive
import RouterAdvert.Text.Pieces

/-!
# Which events are shown

A filter is a list of directives, of which the most specific one that concerns an event decides
whether it is shown.
-/

namespace RouterAdvert.Log

abbrev Filter := List Directive

namespace Filter

/-- The filter that shows one level and all that are more important. -/
def ofVerbosity (verbosity : Nat) : Filter := [{ verbosity }]

def texts (list : String) : List (List Char) := (Text.pieces ',' list.toList).filter (· ≠ [])

/-- Reads a list of directives. Unreadable ones count as absent, and a list without any shows errors
alone. -/
def read (list : String) : Filter :=
  match (texts list).filterMap fun text => (Directive.read text).toOption with
  | [] => ofVerbosity Level.error.verbosity
  | directives => directives

def complaints (list : String) : List String :=
  (texts list).filterMap fun text =>
    match Directive.read text with
    | .ok _ => none
    | .error cause => some ("ignoring `" ++ String.ofList text ++ "`: " ++ cause.message)

def deciding? (f : Filter) (e : Event) : Option Directive :=
  f.foldl (fun best d =>
    if d.concerns e then
      match best with
      | none => some d
      | some b => if d.goesBefore b then some d else some b
    else best) none

def shows (f : Filter) (e : Event) : Bool :=
  (f.deciding? e).any (e.level.verbosity ≤ ·.verbosity)

end Filter

end RouterAdvert.Log
