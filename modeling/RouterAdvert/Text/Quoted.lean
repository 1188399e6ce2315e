import RouterAdvert.Text.Numeral
import RouterAdvert.Text.Visible

/-!
# Quoted text

A text between double quotes, in which quotes, backslashes and characters that cannot be seen are
escaped, so that it takes one line and shows where it ends.
-/

namespace RouterAdvert.Text

def codePointEscape (c : Char) : List Char :=
  ['\\', 'u', '\x7b'] ++ Numeral.write 16 c.toNat ++ ['\x7d']

def quotedChar (c : Char) : List Char :=
  if c = '\x00' then ['\\', '0']
  else if c = '\t' then ['\\', 't']
  else if c = '\n' then ['\\', 'n']
  else if c = '\r' then ['\\', 'r']
  else if c = '"' then ['\\', '"']
  else if c = '\\' then ['\\', '\\']
  else if isVisible c then [c]
  else codePointEscape c

def quoted (text : String) : String :=
  String.ofList (['"'] ++ text.toList.flatMap quotedChar ++ ['"'])

end RouterAdvert.Text
