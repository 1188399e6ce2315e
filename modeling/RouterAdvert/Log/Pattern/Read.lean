import RouterAdvert.Log.Pattern.Class
import RouterAdvert.Text.Alphanumeric
import RouterAdvert.Text.Pieces

/-!
# Reading patterns

A pattern has alternatives, which are rows of parts: atoms, classes and groups, which may be
repeated. Only whether it can be used is of interest here. What no condition can contain is left
out: a pattern has no comma, equals sign or closing brace, since these end it, so counts of
repetitions and names in braces cannot be complete.
-/

namespace RouterAdvert.Log.Pattern

inductive Flaw
  | unreadable
  | wordEdges
deriving DecidableEq, Repr

def Flaw.message : Flaw → String
  | unreadable => "error building NFA"
  | wordEdges =>
    "unsupported regex feature for DFAs: cannot build DFAs for regexes with Unicode word "
      ++ "boundaries; switch to ASCII word boundaries, or heuristically enable Unicode word "
      ++ "boundaries or use a different regex engine"

def maxNesting : Nat := 250

/-- What matters of a pattern at some place in it. -/
structure Progress where
  mode : Mode := {}
  names : List (List Char) := []
  wordEdges : Bool := false

def isGroupName : List Char → Bool
  | [] => false
  | c :: rest =>
    (c = '_' || Text.isAlphabetic c) &&
      rest.all fun c => c ∈ ['_', '.', '[', ']'] || Text.isAlphanumeric c

/-- Whether a text is a list of flags, of which those after a dash are switched off. -/
def isFlags (flags : List Char) : Bool :=
  flags.all (· ∈ ['i', 'm', 's', 'U', 'u', 'R', 'x', '-']) && flags.Nodup &&
    flags.getLast? ≠ some '-'

def Mode.change (m : Mode) (flags : List Char) : Mode :=
  let switched (flag : Char) (before : Bool) : Bool :=
    if flag ∈ flags then flag ∈ flags.takeWhile (· ≠ '-') else before
  { spaced := switched 'x' m.spaced
    caseless := switched 'i' m.caseless
    characters := switched 'u' m.characters }

inductive Opening
  | group (inner : Progress)
  | change (after : Progress)

/-- Reads what stands between an opening parenthesis and the first part of the group. -/
def opening (p : Progress) (text : List Char) : Option (Opening × List Char) :=
  match p.mode.skip text with
  | '?' :: 'P' :: '<' :: rest | '?' :: '<' :: rest => do
    let (name, rest) ← Text.cut? '>' rest
    if isGroupName name ∧ name ∉ p.names then
      return (.group { p with names := name :: p.names }, rest)
    else none
  | '?' :: rest =>
    let flags := rest.takeWhile (· ∉ [':', ')'])
    let changed := { p with mode := p.mode.change flags }
    if isFlags flags then
      match rest.dropWhile (· ∉ [':', ')']) with
      | ':' :: rest => some (.group changed, rest)
      | ')' :: rest => if flags ≠ [] then some (.change changed, rest) else none
      | _ => none
    else none
  | rest => some (.group p, rest)

def atom (m : Mode) : List Char → Option (Atom × List Char)
  | [] => none
  | '\\' :: rest => escape m rest
  | '.' :: rest => some (.any, rest)
  | '^' :: rest | '$' :: rest => some (.edge, rest)
  | '\x7b' :: _ => none
  | c :: rest => some (.character c, rest)

/-- How deep the alternatives of a group nest, of which the last has the given parts. -/
def groupNesting (alternatives : List Nat) (parts : List (Option Nat)) : Nat :=
  nesting (nesting (parts.map (·.getD 0)) :: alternatives)

/-- Reads alternatives up to the end of the text or to a closing parenthesis; the answer is how deep
they nest. Of the parts in the present alternative it is known how deep those nest that may be
repeated; a change of the mode may not. -/
def alternatives : Nat → Progress → List Nat → List (Option Nat) → List Char →
    Option (Nat × Progress × List Char)
  | 0, _, _, _, _ => none
  | fuel + 1, p, earlier, parts, text =>
    match p.mode.skip text with
    | [] => some (groupNesting earlier parts, p, [])
    | c :: rest =>
      if c = ')' then some (groupNesting earlier parts, p, c :: rest)
      else if c = '|' then
        alternatives fuel p (nesting (parts.map (·.getD 0)) :: earlier) [] rest
      else if c = '(' then
        match opening p rest with
        | none => none
        | some (.change p, rest) => alternatives fuel p earlier (none :: parts) rest
        | some (.group inner, rest) =>
          match alternatives fuel inner [] [] rest with
          | some (depth, after, _ :: rest) =>
            alternatives fuel { after with mode := p.mode } earlier (some (depth + 1) :: parts) rest
          | _ => none
      else if c = '[' then do
        let (depth, rest) ← characterClass p.mode rest
        alternatives fuel p earlier (some depth :: parts) rest
      else if c ∈ ['?', '*', '+'] then
        match parts with
        | some depth :: parts =>
          alternatives fuel p earlier (some (depth + 1) :: parts)
            (if rest.head? = some '?' then rest.tail else rest)
        | _ => none
      else do
        let (a, rest) ← atom p.mode (c :: rest)
        if a.isMeaningful p.mode then
          alternatives fuel
            { p with wordEdges := p.wordEdges || (a = .wordEdge && p.mode.characters) }
            earlier (some 0 :: parts) rest
        else none

/-- Why a pattern cannot be used, unless it can. Each part takes at least one character, so one step
more than there are characters is enough. -/
def flaw? (text : List Char) : Option Flaw :=
  match alternatives (text.length + 1) {} [] [] text with
  | some (depth, p, []) =>
    if maxNesting < depth then some .unreadable
    else if p.wordEdges then some .wordEdges
    else none
  | _ => some .unreadable

end RouterAdvert.Log.Pattern
