import RouterAdvert.Text.Pieces

/-!
# Directory trees

The files of a directory and what reading a path in it gives. A path is followed part by part; an
empty part or a single dot stays where it is, and two dots lead up, also out of the directory.
-/

namespace RouterAdvert

/-- What stands in a directory under a name. -/
inductive FileEntry
  | file (content : ByteArray)
  | directory

/-- The entries of a directory. A name may be a path, whose directories are then there too. -/
abbrev Files := List (String × FileEntry)

inductive ReadFailure
  | notFound
  | notDirectory
  | isDirectory
  | nameTooLong
  | nulInName
  | notText
  | other (reason : String)
deriving DecidableEq, Repr

def ReadFailure.message : ReadFailure → String
  | notFound => "No such file or directory (os error 2)"
  | notDirectory => "Not a directory (os error 20)"
  | isDirectory => "Is a directory (os error 21)"
  | nameTooLong => "File name too long (os error 36)"
  | nulInName => "file name contained an unexpected NUL byte"
  | notText => "stream did not contain valid UTF-8"
  | other reason => reason

def readText (content : ByteArray) : Except ReadFailure String :=
  match String.fromUTF8? content with
  | some text => .ok text
  | none => .error .notText

namespace Files

/-- The number of octets that a path has to stay below. -/
def maxPathSize : Nat := 4096

def maxNameSize : Nat := 255

def parts (path : String) : List String := (Text.pieces '/' path.toList).map String.ofList

/-- Whether a part of a path leads nowhere else. -/
def stays (part : String) : Bool := part = "" || part = "."

/-- A place: below the directory under the given names, or somewhere above it. -/
inductive Place
  | below (names : List String)
  | above
deriving DecidableEq

namespace Place

def ofName (name : String) : List String := (parts name).filter fun part => !stays part

def parent : Place → Place
  | below [] | above => above
  | below names => below names.dropLast

end Place

/-- What stands at a place. Above the directory there are directories alone. -/
def entryAt? (files : Files) : Place → Option FileEntry
  | .above | .below [] => some .directory
  | .below names =>
    match files.find? fun (name, _) => Place.ofName name = names with
    | some (_, entry) => some entry
    | none =>
      if files.any fun (name, _) => names.isPrefixOf (Place.ofName name) then some .directory
      else none

/-- Follows the parts of a path from a place. Of what is above the directory no name is known. -/
def follow (files : Files) (place : Place) : List String → Except ReadFailure ByteArray
  | [] =>
    match files.entryAt? place with
    | some (.file content) => .ok content
    | some .directory => .error .isDirectory
    | none => .error .notFound
  | part :: rest =>
    match files.entryAt? place with
    | some (.file _) => .error .notDirectory
    | none => .error .notFound
    | some .directory =>
      if stays part then follow files place rest
      else if part = ".." then follow files place.parent rest
      else if maxNameSize < part.utf8ByteSize then .error .nameTooLong
      else
        match place with
        | .above => .error .notFound
        | .below names => follow files (.below (names ++ [part])) rest

/-- Reads the text file at a path in the directory. An absolute path begins above it. -/
def read (files : Files) (path : String) : Except ReadFailure String :=
  if '\x00' ∈ path.toList then .error .nulInName
  else if maxPathSize ≤ path.utf8ByteSize then .error .nameTooLong
  else
    let start := if path.toList.head? = some '/' then Place.above else .below []
    files.follow start (parts path) >>= readText

end Files

end RouterAdvert
