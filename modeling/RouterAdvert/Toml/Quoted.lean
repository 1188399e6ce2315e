import RouterAdvert.Text.Numeral
import RouterAdvert.Toml.Reader

/-!
# TOML strings

The four kinds of strings: basic ones with escapes and literal ones without, each on one line or
over several.
-/

namespace RouterAdvert.Toml

/-- The character that a code point stands for. Surrogates and numbers beyond Unicode stand for
none. -/
def charOfCode? (n : Nat) : Option Char :=
  if n.isValidChar then some (Char.ofNat n) else none

def charOfHex? (digits : List Char) : Option Char :=
  (Numeral.read? 16 digits).bind charOfCode?

def simpleEscape? (c : Char) : Option Char :=
  match c with
  | 'b' => some '\x08'
  | 'f' => some '\x0c'
  | 'n' => some '\n'
  | 'r' => some '\r'
  | 't' => some '\t'
  | '"' => some '"'
  | '\\' => some '\\'
  | _ => none

def isBasicChar (c : Char) : Bool := isCommentChar c && c ≠ '"' && c ≠ '\\'

def isLiteralChar (c : Char) : Bool := isCommentChar c && c ≠ '\x27'

def consChar (c : Char) (r : Option (List Char × List Char)) : Option (List Char × List Char) :=
  r.map fun (text, rest) => (c :: text, rest)

def basicBody : Reader (List Char)
  | [] => none
  | '"' :: rest => some ([], rest)
  | '\\' :: 'u' :: a :: b :: c :: d :: rest =>
    (charOfHex? [a, b, c, d]).bind fun ch => consChar ch (basicBody rest)
  | '\\' :: 'U' :: a :: b :: c :: d :: e :: f :: g :: h :: rest =>
    (charOfHex? [a, b, c, d, e, f, g, h]).bind fun ch => consChar ch (basicBody rest)
  | '\\' :: c :: rest => (simpleEscape? c).bind fun ch => consChar ch (basicBody rest)
  | c :: rest => if isBasicChar c then consChar c (basicBody rest) else none

def literalBody : Reader (List Char)
  | [] => none
  | c :: rest =>
    if c = '\x27' then some ([], rest)
    else if isLiteralChar c then consChar c (literalBody rest)
    else none

/-- The end of a string over several lines, at a run of three or more quotes: up to two quotes more
than the closing three belong to the text. -/
def closing (quote : Char) (rest : List Char) : List Char × List Char :=
  let extra := ((rest.takeWhile (· = quote)).take 2).length
  (List.replicate extra quote, rest.drop extra)

def breakFollows (cs : List Char) : Bool := (afterBreak? (skipBlanks cs)).isSome

/-- The rest of a basic string over several lines after its opening quotes and their line break.
With `trimming`, after a backslash at the end of a line, blank space and line breaks are dropped. -/
def basicBlockBody (trimming : Bool) : Reader (List Char)
  | [] => none
  | '\r' :: '\n' :: rest =>
    if trimming then basicBlockBody true rest else consChar '\n' (basicBlockBody false rest)
  | '"' :: '"' :: '"' :: rest => some (closing '"' rest)
  | '\\' :: 'u' :: a :: b :: c :: d :: rest =>
    (charOfHex? [a, b, c, d]).bind fun ch => consChar ch (basicBlockBody false rest)
  | '\\' :: 'U' :: a :: b :: c :: d :: e :: f :: g :: h :: rest =>
    (charOfHex? [a, b, c, d, e, f, g, h]).bind fun ch => consChar ch (basicBlockBody false rest)
  | '\\' :: c :: rest =>
    if breakFollows (c :: rest) then basicBlockBody true (c :: rest)
    else (simpleEscape? c).bind fun ch => consChar ch (basicBlockBody false rest)
  | c :: rest =>
    if trimming && (isBlank c || c = '\n') then basicBlockBody true rest
    else if isBasicChar c || c = '"' || c = '\n' then consChar c (basicBlockBody false rest)
    else none

def literalBlockBody : Reader (List Char)
  | [] => none
  | '\r' :: '\n' :: rest => consChar '\n' (literalBlockBody rest)
  | '\x27' :: '\x27' :: '\x27' :: rest => some (closing '\x27' rest)
  | c :: rest =>
    if isLiteralChar c || c = '\x27' || c = '\n' then consChar c (literalBlockBody rest) else none

/-- A line break right after the opening quotes is no part of the text. -/
def dropBreak (cs : List Char) : List Char := (afterBreak? cs).getD cs

def lineString : Reader String
  | [] => none
  | c :: rest =>
    if c = '"' then (basicBody rest).map fun (text, rest) => (String.ofList text, rest)
    else if c = '\x27' then (literalBody rest).map fun (text, rest) => (String.ofList text, rest)
    else none

def anyString (cs : List Char) : Option (String × List Char) :=
  match cs with
  | '"' :: '"' :: '"' :: rest =>
    (basicBlockBody false (dropBreak rest)).map fun (text, rest) => (String.ofList text, rest)
  | '\x27' :: '\x27' :: '\x27' :: rest =>
    (literalBlockBody (dropBreak rest)).map fun (text, rest) => (String.ofList text, rest)
  | _ => lineString cs

end RouterAdvert.Toml
