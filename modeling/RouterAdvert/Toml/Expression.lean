import RouterAdvert.Toml.Node
import RouterAdvert.Toml.Number
import RouterAdvert.Toml.Quoted

/-!
# TOML expressions

The lines of a TOML text: headers and assignments. Arrays and inline tables nest to a limited depth,
along which the reader of values recurses, and keys have a limited number of parts.
-/

namespace RouterAdvert.Toml

def maxNesting : Nat := 79

def maxKeyParts : Nat := 79

def isBareKeyChar (c : Char) : Bool := c.isAlphanum || c = '_' || c = '-'

def keyPart (cs : List Char) : Option (String × List Char) := do
  let cs := skipBlanks cs
  let (part, rest) ←
    match cs with
    | '"' :: _ | '\x27' :: _ => lineString cs
    | _ =>
      match cs.takeWhile isBareKeyChar with
      | [] => none
      | part => some (String.ofList part, cs.dropWhile isBareKeyChar)
  return (part, skipBlanks rest)

def keyParts : Nat → List Char → Option (List String × List Char)
  | parts, cs =>
    match keyPart cs with
    | none => none
    | some (part, '.' :: rest) =>
      match parts with
      | 0 => none
      | parts + 1 => (keyParts parts rest).map fun (more, rest) => (part :: more, rest)
    | some (part, rest) => some ([part], rest)

def key (cs : List Char) : Option ((List String × String) × List Char) := do
  let (parts, rest) ← keyParts (maxKeyParts - 1) cs
  let last ← parts.getLast?
  return ((parts.dropLast, last), rest)

/-- Reads the items of an array after its opening bracket. A comma may follow the last item. -/
def arrayItems (item : Reader Value) : Nat → Reader (List Value)
  | 0, _ => none
  | fuel + 1, cs =>
    match skipLines cs with
    | ']' :: rest => some ([], rest)
    | cs => do
      let (v, rest) ← item cs
      match skipLines rest with
      | ']' :: rest => return ([v], rest)
      | ',' :: rest =>
        let (vs, rest) ← arrayItems item fuel rest
        return (v :: vs, rest)
      | _ => none

structure Assignment where
  path : List String
  key : String
  value : Value

def assignment (item : Reader Value) (cs : List Char) : Option (Assignment × List Char) := do
  let ((path, last), rest) ← key cs
  let rest ← expect? '=' rest
  let (value, rest) ← item (skipBlanks rest)
  return (⟨path, last, value⟩, rest)

/-- Reads the assignments of an inline table after the first of them has been announced. -/
def inlineAssignments (item : Reader Value) : Nat → Reader (List Assignment)
  | 0, _ => none
  | fuel + 1, cs => do
    let (first, rest) ← assignment item cs
    match skipBlanks rest with
    | '\x7d' :: rest => return ([first], rest)
    | ',' :: rest =>
      let (more, rest) ← inlineAssignments item fuel rest
      return (first :: more, rest)
    | _ => none

def inlineTable (assignments : List Assignment) : Option Value :=
  (assignments.foldlM (fun entries a => Nodes.assign a.path a.key a.value entries) []).map
    fun entries => .table (finishEntries entries)

/-- Reads a value in which arrays and inline tables nest to the given depth. -/
def valueWithin : Nat → Reader Value
  | depth, cs =>
    match cs with
    | '"' :: _ | '\x27' :: _ => (anyString cs).map fun (text, rest) => (.string text, rest)
    | '[' :: rest =>
      match depth with
      | 0 => none
      | depth + 1 =>
        (arrayItems (valueWithin depth) rest.length rest).map
          fun (items, rest) => (.array .bracketed items, rest)
    | '\x7b' :: rest =>
      match depth with
      | 0 => none
      | depth + 1 =>
        match skipBlanks rest with
        | '\x7d' :: rest => some (.table [], rest)
        | rest => do
          let (assignments, rest) ← inlineAssignments (valueWithin depth) rest.length rest
          let table ← inlineTable assignments
          return (table, rest)
    | 't' :: _ => (expectAll? ['t', 'r', 'u', 'e'] cs).map (.boolean true, ·)
    | 'f' :: _ => (expectAll? ['f', 'a', 'l', 's', 'e'] cs).map (.boolean false, ·)
    | _ => numeric cs

inductive Expression
  | table (path : List String) (key : String)
  | row (path : List String) (key : String)
  | assign (a : Assignment)

def expression (cs : List Char) : Option (Expression × List Char) :=
  match cs with
  | '[' :: '[' :: rest => do
    let ((path, last), rest) ← key rest
    let rest ← expect? ']' rest
    let rest ← expect? ']' rest
    return (.row path last, rest)
  | '[' :: rest => do
    let ((path, last), rest) ← key rest
    let rest ← expect? ']' rest
    return (.table path last, rest)
  | _ => (assignment (valueWithin maxNesting) cs).map fun (a, rest) => (.assign a, rest)

/-- Reads all expressions of a text; each takes at least one character, so one step more than there
are characters is enough. -/
def expressionsWithin : Nat → List Char → Option (List Expression)
  | 0, _ => none
  | fuel + 1, cs =>
    match skipLines cs with
    | [] => some []
    | cs => do
      let (e, rest) ← expression cs
      let rest ← afterLine? rest
      let es ← expressionsWithin fuel rest
      return e :: es

def expressions (text : List Char) : Option (List Expression) :=
  match text with
  | '\ufeff' :: rest => expressionsWithin (rest.length + 1) rest
  | _ => expressionsWithin (text.length + 1) text

end RouterAdvert.Toml
