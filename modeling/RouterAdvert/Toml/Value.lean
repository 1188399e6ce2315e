import RouterAdvert.Binary64

/-!
# TOML values

What a TOML text says once it has been read: tables keep their entries in the order of the text.
-/

namespace RouterAdvert.Toml

/-- How an array was written: as a value in brackets, or as tables under repeated headers. -/
inductive ArrayForm
  | bracketed
  | headed
deriving DecidableEq, Repr

/-- A TOML value. A date or time is kept without its parts, which nothing looks at. -/
inductive Value
  | string (text : String)
  | integer (n : Int)
  | float (x : Binary64)
  | boolean (b : Bool)
  | moment
  | array (form : ArrayForm) (items : List Value)
  | table (entries : List (String × Value))

abbrev Entries := List (String × Value)

end RouterAdvert.Toml
