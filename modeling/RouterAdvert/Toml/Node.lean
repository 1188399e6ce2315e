import RouterAdvert.Toml.Value

/-!
# Tables under construction

While a TOML text is read, a table remembers how it came about, because that decides what may still
be added to it: a table under its own header is closed to dotted keys, one that dotted keys made is
closed to headers, and one that only stands above another in a header may still get a header of its
own.
-/

namespace RouterAdvert.Toml

inductive Origin
  | header
  | above
  | dotted
deriving DecidableEq, Repr

/-- A value or table under construction; the tables under repeated headers are kept last to
first. -/
inductive Node
  | value (v : Value)
  | table (origin : Origin) (entries : List (String × Node))
  | tables (rows : List (List (String × Node)))

/-- The entries of a table under construction, in the order in which they were added. -/
abbrev Nodes := List (String × Node)

namespace Nodes

def put (entries : Nodes) (key : String) (node : Node) : Nodes :=
  match entries with
  | [] => [(key, node)]
  | (k, n) :: rest => if k = key then (k, node) :: rest else (k, n) :: put rest key node

def erase (entries : Nodes) (key : String) : Nodes := entries.filter (·.1 ≠ key)

/-- Changes the table at the end of a path, making the tables on the way that are missing. Dotted
keys do not lead into a table that has its own header. -/
def alter (made : Origin) (change : Origin → Nodes → Option Nodes) :
    List String → Origin → Nodes → Option Nodes
  | [], origin, entries => change origin entries
  | key :: path, _, entries =>
    match entries.lookup key with
    | none => (alter made change path made []).map fun sub => entries ++ [(key, .table made sub)]
    | some (.value _) => none
    | some (.table origin sub) =>
      if made = .dotted ∧ origin = .header then none
      else (alter made change path origin sub).map fun sub => entries.put key (.table origin sub)
    | some (.tables []) => none
    | some (.tables (row :: rows)) =>
      (alter made change path .header row).map fun row => entries.put key (.tables (row :: rows))

/-- Adds a value under a dotted key. A key of several parts ends in a table that dotted keys made, a
key of one part in a table that they did not make. -/
def assign (path : List String) (key : String) (v : Value) (entries : Nodes) : Option Nodes :=
  alter .dotted (fun origin table =>
    if origin = .dotted ↔ path = [] then none
    else if (table.lookup key).isSome then none
    else some (table ++ [(key, .value v)])) path .header entries

end Nodes

mutual

def Node.finish : Node → Value
  | .value v => v
  | .table _ entries => .table (finishEntries entries)
  | .tables rows => .array .headed (finishRows rows).reverse

def finishEntries : List (String × Node) → List (String × Value)
  | [] => []
  | (key, node) :: rest => (key, node.finish) :: finishEntries rest

def finishRows : List (List (String × Node)) → List Value
  | [] => []
  | row :: rest => .table (finishEntries row) :: finishRows rest

end

end RouterAdvert.Toml
