import RouterAdvert.Log.Event
import RouterAdvert.Text.Quoted

/-!
# Log lines

An event as a line of text: plain, with the values after the message, or as a JSON object.
-/

namespace RouterAdvert.Log

open Text

/-- The form of log lines. The first two write the same plain lines. -/
inductive Format
  | pretty
  | compact
  | json
deriving DecidableEq, Repr, Inhabited

namespace Format

def keyword : Format → String
  | pretty => "pretty"
  | compact => "compact"
  | json => "json"

end Format

def Value.plain : Value → String
  | .number n => Numeral.signed n
  | .label t => quoted t
  | .text t => t

def Event.plain (e : Event) : String :=
  e.target ++ ": " ++ e.message ++ String.join (e.values.map fun (name, value) =>
    " " ++ name ++ "=" ++ value.plain)

def Event.plainLine (e : Event) : String := e.level.name ++ " " ++ e.plain

def jsonChar (c : Char) : List Char :=
  if c = '"' then ['\\', '"']
  else if c = '\\' then ['\\', '\\']
  else if c = '\x08' then ['\\', 'b']
  else if c = '\x0c' then ['\\', 'f']
  else if c = '\n' then ['\\', 'n']
  else if c = '\r' then ['\\', 'r']
  else if c = '\t' then ['\\', 't']
  else if c.toNat < 32 then
    ['\\', 'u'] ++ (Numeral.fixed 16 4 c.toNat).map Numeral.digitChar
  else [c]

def jsonString (text : String) : String :=
  String.ofList (['"'] ++ text.toList.flatMap jsonChar ++ ['"'])

def jsonObject (members : List (String × String)) : String :=
  "\x7b" ++ ",".intercalate (members.map fun (name, value) => jsonString name ++ ":" ++ value)
    ++ "\x7d"

def Value.json : Value → String
  | .number n => Numeral.signed n
  | .label t | .text t => jsonString t

def Event.json (e : Event) (time : String) : String :=
  jsonObject
    [("timestamp", jsonString time), ("level", jsonString e.level.name),
      ("fields", jsonObject (("message", jsonString e.message)
        :: e.values.map fun (name, value) => (name, value.json))),
      ("target", jsonString e.target)]

/-- The line of an event in a format; levels are aligned on the right. -/
def Event.line (e : Event) (format : Format) (time : String) : String :=
  match format with
  | .json => e.json time
  | .pretty | .compact =>
    let level := e.level.name
    time ++ " " ++ String.ofList (List.replicate (5 - level.length) ' ') ++ e.plainLine

end RouterAdvert.Log
