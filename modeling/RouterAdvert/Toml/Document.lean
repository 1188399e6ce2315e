import RouterAdvert.Toml.Expression

/-!
# TOML documents

A document is the table that its expressions build up. Headers open a table, which takes the
assignments that follow and is put into its place when the next header comes; a table that gets its
header after tables below it were opened moves to the end of the table it is in.
-/

namespace RouterAdvert.Toml

inductive Place
  | root
  | table (path : List String) (key : String)
  | row (path : List String) (key : String)

/-- A document under construction. -/
structure Draft where
  root : Nodes := []
  place : Place := .root
  current : Nodes := []

namespace Draft

def close (d : Draft) : Option Nodes :=
  match d.place with
  | .root => some d.current
  | .table path key =>
    Nodes.alter .above (fun _ parent =>
      match parent.lookup key with
      | none => some (parent ++ [(key, .table .header d.current)])
      | some _ => none) path .header d.root
  | .row path key =>
    Nodes.alter .above (fun _ parent =>
      match parent.lookup key with
      | none => some (parent ++ [(key, .tables [d.current])])
      | some (.tables rows) => some (parent.put key (.tables (d.current :: rows)))
      | some _ => none) path .header d.root

/-- What a table header finds in its place: nothing, or a table that so far only stands above
others, which it then goes on with. -/
def reopened? (parent : Nodes) (key : String) : Option Nodes :=
  match parent.lookup key with
  | none => some []
  | some (.table .above entries) => some entries
  | some _ => none

def tableAt? : List String → Nodes → Option Nodes
  | [], entries => some entries
  | key :: path, entries =>
    match entries.lookup key with
    | none => some []
    | some (.table _ sub) => tableAt? path sub
    | some (.tables (row :: _)) => tableAt? path row
    | some _ => none

/-- Opens the table of a header, which leaves its place until it is closed. -/
def openTable (root : Nodes) (path : List String) (key : String) : Option Draft := do
  let parent ← tableAt? path root
  let current ← reopened? parent key
  let root ← Nodes.alter .above (fun _ parent => some (parent.erase key)) path .header root
  return { root, place := .table path key, current }

def openRow (root : Nodes) (path : List String) (key : String) : Option Draft := do
  let root ← Nodes.alter .above (fun _ parent =>
    match parent.lookup key with
    | none => some (parent ++ [(key, .tables [])])
    | some (.tables _) => some parent
    | some _ => none) path .header root
  return { root, place := .row path key, current := [] }

/-- Goes on with an expression. -/
def add (d : Draft) : Expression → Option Draft
  | .assign a => do
    let current ← d.current.assign a.path a.key a.value
    return { d with current }
  | .table path key => do
    let root ← d.close
    openTable root path key
  | .row path key => do
    let root ← d.close
    openRow root path key

end Draft

def read? (text : String) : Option Entries := do
  let expressions ← expressions text.toList
  let draft ← expressions.foldlM Draft.add {}
  let root ← draft.close
  return finishEntries root

end RouterAdvert.Toml
