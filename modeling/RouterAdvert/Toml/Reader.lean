/-!
# Reading the parts of a TOML line

A reader takes characters from the front of a text and gives what it read and the rest, or nothing
if the text does not begin with what it reads.
-/

namespace RouterAdvert.Toml

abbrev Reader (α : Type) := List Char → Option (α × List Char)

def isBlank (c : Char) : Bool := c = ' ' || c = '\t'

def isCommentChar (c : Char) : Bool := c = '\t' || (' ' ≤ c && c ≠ '\x7f')

def skipBlanks (cs : List Char) : List Char := cs.dropWhile isBlank

/-- The text after a line break, which is a line feed with or without a carriage return before
it. -/
def afterBreak? : List Char → Option (List Char)
  | '\n' :: rest => some rest
  | '\r' :: '\n' :: rest => some rest
  | _ => none

def skipComment : List Char → List Char
  | '#' :: rest => rest.dropWhile isCommentChar
  | cs => cs

def afterLine? (cs : List Char) : Option (List Char) :=
  match skipComment (skipBlanks cs) with
  | [] => some []
  | rest => afterBreak? rest

/-- The text after blank space, comments and line breaks, where a comment may have begun already. -/
def skipLinesFrom (inComment : Bool) : List Char → List Char
  | [] => []
  | '\n' :: rest => skipLinesFrom false rest
  | '\r' :: '\n' :: rest => skipLinesFrom false rest
  | c :: rest =>
    if inComment then if isCommentChar c then skipLinesFrom true rest else c :: rest
    else if c = '#' then skipLinesFrom true rest
    else if isBlank c then skipLinesFrom false rest
    else c :: rest

def skipLines (cs : List Char) : List Char := skipLinesFrom false cs

def expect? (c : Char) : List Char → Option (List Char)
  | [] => none
  | d :: rest => if d = c then some rest else none

def expectAll? (word cs : List Char) : Option (List Char) :=
  if word.isPrefixOf cs then some (cs.drop word.length) else none

end RouterAdvert.Toml
