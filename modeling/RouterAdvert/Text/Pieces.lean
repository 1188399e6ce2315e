/-!
# Cutting text at separators

`pieces` cuts at every separator and `join` puts the pieces together again; `cut?` cuts once, at the
first place.
-/

namespace RouterAdvert.Text

/-- The parts of a text between the separators; their number is one more than that of the
separators. -/
def pieces (sep : Char) : List Char → List (List Char)
  | [] => [[]]
  | c :: rest =>
    if c = sep then [] :: pieces sep rest
    else
      match pieces sep rest with
      | [] => [[c]]
      | first :: others => (c :: first) :: others

def join (sep : Char) : List (List Char) → List Char
  | [] => []
  | [last] => last
  | part :: rest => part ++ sep :: join sep rest

def cut? (sep : Char) : List Char → Option (List Char × List Char)
  | [] => none
  | c :: rest =>
    if c = sep then some ([], rest)
    else (cut? sep rest).map fun (before, after) => (c :: before, after)

/-- The text before and after the first two adjacent separators. -/
def cutDouble? (sep : Char) : List Char → Option (List Char × List Char)
  | [] => none
  | c :: rest =>
    if c = sep ∧ rest.head? = some sep then some ([], rest.tail)
    else (cutDouble? sep rest).map fun (before, after) => (c :: before, after)

theorem pieces_ne_nil (sep : Char) (cs : List Char) : pieces sep cs ≠ [] := by
  cases cs with
  | nil => simp [pieces]
  | cons c rest =>
    unfold pieces
    split
    · simp
    · split <;> simp

theorem join_pieces (sep : Char) (cs : List Char) : join sep (pieces sep cs) = cs := by
  induction cs with
  | nil => rfl
  | cons c rest ih =>
    unfold pieces
    split
    case isTrue h =>
      subst h
      cases hp : pieces c rest with
      | nil => exact absurd hp (pieces_ne_nil c rest)
      | cons first others => rw [hp] at ih; simp [join, ih]
    case isFalse =>
      cases hp : pieces sep rest with
      | nil => exact absurd hp (pieces_ne_nil sep rest)
      | cons first others =>
        rw [hp] at ih
        cases others with
        | nil => simpa [join] using ih
        | cons second more => simpa [join] using ih

end RouterAdvert.Text
