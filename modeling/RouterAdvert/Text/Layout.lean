/-!
# Laying out structured values

A value is shown as a record of named fields, a wrapped value, a list or a word. `line` writes it on
one line; `block` gives each part a line of its own, indented by four spaces and ended by a comma.
-/

namespace RouterAdvert.Text

inductive Layout
  | word (text : String)
  | wrapped (name : String) (inner : Layout)
  | record (name : String) (fields : List (String × Layout))
  | list (items : List Layout)

namespace Layout

mutual

def line : Layout → String
  | word text => text
  | wrapped name inner => name ++ "(" ++ line inner ++ ")"
  | record name fields => name ++ " \x7b " ++ ", ".intercalate (fieldLines fields) ++ " \x7d"
  | list items => "[" ++ ", ".intercalate (itemLines items) ++ "]"

def fieldLines : List (String × Layout) → List String
  | [] => []
  | (name, value) :: rest => (name ++ ": " ++ line value) :: fieldLines rest

def itemLines : List Layout → List String
  | [] => []
  | item :: rest => line item :: itemLines rest

end

def indentation (depth : Nat) : String := String.ofList (List.replicate (4 * depth) ' ')

mutual

/-- A value over several lines, the first of which is not indented. -/
def indented (depth : Nat) : Layout → String
  | word text => text
  | wrapped name inner =>
    name ++ "(\n" ++ indentation (depth + 1) ++ indented (depth + 1) inner ++ ",\n"
      ++ indentation depth ++ ")"
  | record name fields =>
    name ++ " \x7b\n" ++ indentedFields (depth + 1) fields ++ indentation depth ++ "\x7d"
  | list [] => "[]"
  | list items => "[\n" ++ indentedItems (depth + 1) items ++ indentation depth ++ "]"

def indentedFields (depth : Nat) : List (String × Layout) → String
  | [] => ""
  | (name, value) :: rest =>
    indentation depth ++ name ++ ": " ++ indented depth value ++ ",\n" ++ indentedFields depth rest

def indentedItems (depth : Nat) : List Layout → String
  | [] => ""
  | item :: rest => indentation depth ++ indented depth item ++ ",\n" ++ indentedItems depth rest

end

def block (value : Layout) : String := indented 0 value

def optional {α : Type} (layout : α → Layout) : Option α → Layout
  | none => word "None"
  | some value => wrapped "Some" (layout value)

def truth (b : Bool) : Layout := word (if b then "true" else "false")

end Layout

end RouterAdvert.Text
