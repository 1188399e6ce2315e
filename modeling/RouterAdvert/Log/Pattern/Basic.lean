import RouterAdvert.Text.Blank
import RouterAdvert.Text.Numeral

/-!
# The smallest parts of patterns

A pattern describes texts as a regular expression does. Its smallest parts stand for one character
or for a place between two. What they mean depends on a mode, which the pattern can change on its
way.

Nothing is known here of the scripts of the world: neither which letters differ only in their case,
nor which characters are digits or letters. A part that asks for this among all characters has no
meaning. Among octets it has one, but a match must consist of whole characters, so there a part must
not ask for octets above 127.
-/

namespace RouterAdvert.Log.Pattern

/-- How the parts of a pattern are understood. -/
structure Mode where
  spaced : Bool := false
  caseless : Bool := false
  characters : Bool := true
deriving DecidableEq, Repr

/-- The text after blank space and comments, where a comment may have begun already. -/
def skipBlank (inComment : Bool) : List Char → List Char
  | [] => []
  | c :: rest =>
    if inComment then skipBlank (c ≠ '\n') rest
    else if Text.isWhite c then skipBlank false rest
    else if c = '#' then skipBlank true rest
    else c :: rest

/-- The text from the next character that means something. -/
def Mode.skip (m : Mode) (text : List Char) : List Char :=
  if m.spaced then skipBlank false text else text

inductive Atom
  | character (c : Char)
  /-- A character with a code of two digits, which among octets is the octet of that code. -/
  | octet (c : Char)
  | any
  | edge
  | wordEdge
  | family (others : Bool)
deriving DecidableEq, Repr

namespace Atom

def character? : Atom → Option Char
  | character c | octet c => some c
  | any | edge | wordEdge | family _ => none

def isMeaningful (m : Mode) : Atom → Bool
  | character _ => !(m.characters && m.caseless)
  | octet c => if m.characters then !m.caseless else c.toNat ≤ 127
  | any => m.characters
  | edge | wordEdge => true
  | family others => !m.characters && !others

def isMember (m : Mode) : Atom → Bool
  | character c | octet c => if m.characters then !m.caseless else c.toNat ≤ 127
  | any | edge | wordEdge => false
  | family others => !m.characters && !others

end Atom

def digits (m : Mode) : Nat → List Char → Option (List Nat × List Char)
  | 0, text => some ([], text)
  | count + 1, text =>
    match m.skip text with
    | [] => none
    | c :: rest => do
      let d ← Numeral.digitIn? 16 c
      let (ds, rest) ← digits m count rest
      return (d :: ds, rest)

def coded (m : Mode) (count : Nat) (text : List Char) : Option (Char × List Char) := do
  let (ds, rest) ← digits m count text
  let code := Numeral.value 16 ds
  if code.isValidChar then return (Char.ofNat code, rest) else none

def control? : Char → Option Char
  | 'a' => some '\x07'
  | 't' => some '\t'
  | 'n' => some '\n'
  | 'v' => some '\x0b'
  | 'f' => some '\x0c'
  | 'r' => some '\r'
  | _ => none

/-- Reads what stands after a backslash. All letters and digits that have no meaning there are
refused, and so are characters beyond ASCII. -/
def escape (m : Mode) : List Char → Option (Atom × List Char)
  | [] => none
  | 'x' :: rest => (coded m 2 rest).map fun (c, rest) => (.octet c, rest)
  | 'u' :: rest => (coded m 4 rest).map fun (c, rest) => (.character c, rest)
  | 'U' :: rest => (coded m 8 rest).map fun (c, rest) => (.character c, rest)
  | c :: rest =>
    if c ∈ ['d', 's', 'w'] then some (.family false, rest)
    else if c ∈ ['D', 'S', 'W'] then some (.family true, rest)
    else if c ∈ ['A', 'z'] then some (.edge, rest)
    else if c ∈ ['b', 'B', '<', '>'] then some (.wordEdge, rest)
    else if c.isAlphanum then (control? c).map fun c => (.character c, rest)
    else if c.toNat ≤ 127 then some (.character c, rest)
    else none

/-- How deep a row of parts nests: the parts of a longer row are one level below it. -/
def nesting : List Nat → Nat
  | [] => 0
  | [depth] => depth
  | depths => depths.foldl max 0 + 1

end RouterAdvert.Log.Pattern
