import RouterAdvert.Log.Pattern.Basic
import RouterAdvert.Text.Pieces

/-!
# Classes of characters

A class lists characters, ranges of characters, named classes and other classes in brackets. Doubled
signs between its members take intersections and differences.
-/

namespace RouterAdvert.Log.Pattern

def classNames : List String :=
  ["alnum", "alpha", "ascii", "blank", "cntrl", "digit", "graph", "lower", "print", "punct",
   "space", "upper", "word", "xdigit"]

/-- Reads a named class after its opening bracket; the answer is whether it is negated. A text that
is no named class may still be a list of members. -/
def namedClass? : List Char → Option (Bool × List Char)
  | ':' :: text =>
    let negated := text.head? = some '^'
    let text := if negated then text.tail else text
    match Text.cut? ':' text with
    | some (name, ']' :: rest) =>
      if String.ofList name ∈ classNames then some (negated, rest) else none
    | _ => none
  | _ => none

def isNamedMember (m : Mode) (negated : Bool) : Bool :=
  if m.characters then !m.caseless else !negated

def classAtom (m : Mode) : List Char → Option (Atom × List Char)
  | [] => none
  | '\\' :: rest => escape m rest
  | c :: rest => some (.character c, rest)

/-- The character that decides whether a dash before it makes a range. In a spaced pattern blank
space and the sign of a comment are passed over, but not the text of the comment. -/
def afterDash (m : Mode) (text : List Char) : Option Char :=
  if m.spaced then
    let ahead := text.dropWhile Text.isWhite
    let ahead := if ahead.head? = some '#' then ahead.tail.dropWhile Text.isWhite else ahead
    ahead.head?.or text.head?
  else text.head?

def afterMember? (m : Mode) (text : List Char) : Option (List Char) := do
  let (first, rest) ← classAtom m text
  if first.isMember m then
    match m.skip rest with
    | '-' :: rest =>
      if afterDash m rest ∈ [some ']', some '-'] then return '-' :: rest
      else
        let (last, rest) ← classAtom m (m.skip rest)
        let low ← first.character?
        let high ← last.character?
        if last.isMember m ∧ low ≤ high then return rest else none
    | rest => return rest
  else none

/-- The text after the caret of a class that lists what does not belong to it. Among octets such a
class would contain octets above 127. -/
def afterCaret? (m : Mode) (text : List Char) : Option (List Char) :=
  match m.skip text with
  | '^' :: rest => if m.characters then some rest else none
  | rest => some rest

/-- How deep the members of a class nest, of which those before the last sign between sets have been
counted already. -/
def setNesting (before : Option Nat) (depths : List Nat) : Nat :=
  match before with
  | none => nesting depths
  | some depth => max depth (nesting depths) + 1

/-- Reads the members of a class up to its closing bracket; the answer is how deep the class nests.
Dashes at the beginning are members, and so is a closing bracket that comes first. -/
def members (m : Mode) : Nat → Bool → Option Nat → List Nat → List Char →
    Option (Nat × List Char)
  | 0, _, _, _, _ => none
  | fuel + 1, atStart, before, depths, text =>
    match m.skip text with
    | [] => none
    | c :: rest =>
      if atStart ∧ (c = '-' ∨ c = ']' ∧ depths = []) then
        if (Atom.character c).isMember m then
          members m fuel (c = '-') before (0 :: depths) rest
        else none
      else if c = ']' then some (setNesting before depths + 1, rest)
      else if c = '[' then
        match namedClass? rest with
        | some (negated, rest) =>
          if isNamedMember m negated then members m fuel false before (0 :: depths) rest else none
        | none => do
          let inner ← afterCaret? m rest
          let (depth, rest) ← members m fuel true none [] inner
          members m fuel false before (depth :: depths) rest
      else if c ∈ ['&', '-', '~'] ∧ rest.head? = some c then
        members m fuel false (some (setNesting before depths)) [] rest.tail
      else do
        let rest ← afterMember? m (c :: rest)
        members m fuel false before (0 :: depths) rest

/-- Reads a class after its opening bracket; the answer is how deep it nests. Each member takes at
least one character, so one step more than there are characters is enough. -/
def characterClass (m : Mode) (text : List Char) : Option (Nat × List Char) := do
  let inner ← afterCaret? m text
  members m (text.length + 1) true none [] inner

end RouterAdvert.Log.Pattern
