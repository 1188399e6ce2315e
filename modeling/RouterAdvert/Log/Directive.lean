import RouterAdvert.Log.Event
import RouterAdvert.Log.Pattern.Read
import RouterAdvert.Text.Alphanumeric
import RouterAdvert.Text.Blank
import RouterAdvert.Text.Pieces

/-!
# Log directives

A directive says how much to show of the events that it concerns. It is a level alone, a target
alone, or a target, a condition in brackets or both, after which a level may follow an equals sign.
-/

namespace RouterAdvert.Log

/-- What a directive demands of the values of an event. -/
structure Condition where
  name : String
  pattern : Option (List Char) := none
deriving DecidableEq, Repr

/-- The verbosity for some events; 0 shows nothing and 5 everything. -/
structure Directive where
  target : List Char := []
  span : Option (List Char) := none
  condition : Option Condition := none
  verbosity : Nat := Level.trace.verbosity
deriving DecidableEq, Repr

namespace Directive

inductive Unreadable
  | malformed
  | badLevel
  | badPattern (flaw : Pattern.Flaw)
deriving DecidableEq, Repr

def Unreadable.message : Unreadable → String
  | malformed => "invalid filter directive"
  | badLevel =>
    "error parsing level filter: expected one of \"off\", \"error\", \"warn\", \"info\", "
      ++ "\"debug\", \"trace\", or a number 0-5"
  | badPattern flaw => "invalid field filter: " ++ flaw.message

def ofName? (cs : List Char) : Option Nat :=
  match String.ofList (cs.map Char.toLower) with
  | "off" => some 0
  | "error" => some Level.error.verbosity
  | "warn" => some Level.warn.verbosity
  | "info" => some Level.info.verbosity
  | "debug" => some Level.debug.verbosity
  | "trace" => some Level.trace.verbosity
  | _ => none

def readVerbosity? (cs : List Char) : Option Nat :=
  ((Numeral.readUnsigned? cs).filter (· ≤ Level.trace.verbosity)).or (ofName? cs)

def startsTarget (c : Char) : Bool :=
  c = '-' || c = ':' || c = '_' || Text.isAlphanumeric c

/-- A text by whose first components it is divided, while the parts are made of the second ones. -/
abbrev Marked := List (Char × Char)

def Marked.kept (part : Marked) : List Char := part.map (·.2)

/-- The parts before and from the first of the given marks. -/
def Marked.cutAt (marks : List Char) (text : Marked) : Marked × Marked :=
  (text.takeWhile (·.1 ∉ marks), text.dropWhile (·.1 ∉ marks))

def readLevel (d : Directive) (text : List Char) : Except Unreadable Directive :=
  if text = [] then .ok d
  else
    match readVerbosity? text with
    | some verbosity => .ok { d with verbosity }
    | none => .error .badLevel

def readAfterBracket (d : Directive) (tail : List Char) : Marked → Except Unreadable Directive
  | [] => .ok d
  | ('=', _) :: rest => d.readLevel (Marked.kept rest ++ tail)
  | _ => .error .malformed

/-- Reads a condition: the name of a value and, between equals signs, its pattern, which may also be
a number. -/
def Condition.read (cs : List Char) : Except Unreadable Condition :=
  match Text.pieces '=' cs with
  | name :: pattern :: _ =>
    match if Numeral.isDecimal pattern then none else Pattern.flaw? pattern with
    | none => .ok ⟨String.ofList name, some pattern⟩
    | some flaw => .error (.badPattern flaw)
  | _ => .ok ⟨String.ofList cs, none⟩

/-- Reads from an opening brace on. What is wrong within the braces counts before what is wrong
after them. -/
def readCondition (d : Directive) (tail : List Char) (text : Marked) :
    Except Unreadable Directive :=
  match text.cutAt ['\x7d'] with
  | ([], _) | (_, []) => .error .malformed
  | (body, _ :: rest) =>
    match Condition.read body.kept, rest with
    | .error cause, _ => .error cause
    | .ok c, (']', _) :: rest => { d with condition := some c }.readAfterBracket tail rest
    | .ok _, _ => .error .malformed

/-- Reads from an opening bracket on: the name of a span, which may be missing before a
condition. -/
def readBracket (d : Directive) (tail : List Char) (text : Marked) :
    Except Unreadable Directive :=
  match text.cutAt [']', '\x7b'] with
  | (_, []) => .error .malformed
  | ([], ('\x7b', _) :: rest) => d.readCondition tail rest
  | (name, ('\x7b', _) :: rest) => { d with span := some name.kept }.readCondition tail rest
  | (name, _ :: rest) => { d with span := some name.kept }.readAfterBracket tail rest

/-- Reads a directive. Where its parts begin and end is found out without the blank space around it,
but they are taken from the same places of the whole text, so that a level after blank space, or
before it, is not recognised. -/
def read (text : List Char) : Except Unreadable Directive :=
  let inner := Text.trim text
  let tail := text.drop inner.length
  match inner.zip text with
  | [] => .error .malformed
  | ('[', _) :: rest => readBracket {} tail rest
  | (first, kept) :: others =>
    if startsTarget first then
      match Marked.cutAt ['=', '['] ((first, kept) :: others) with
      | (_, []) =>
        match readVerbosity? text with
        | some verbosity => .ok { verbosity }
        | none => .ok { target := text }
      | (target, ('=', _) :: rest) => readLevel { target := target.kept } (Marked.kept rest ++ tail)
      | (target, _ :: rest) => readBracket { target := target.kept } tail rest
    else .error .malformed

/-- Whether a directive concerns an event. No event happens within a span, and patterns are for the
values of spans, so a directive with a span or a pattern concerns none. -/
def concerns (d : Directive) (e : Event) : Bool :=
  d.span.isNone && d.target.isPrefixOf e.target.toList &&
    match d.condition with
    | none => true
    | some c => c.pattern.isNone && e.valueNames.contains c.name

/-- Whether a directive goes before another one that concerns the same event: the longer target
counts, then a condition, then the order of the names in the conditions, and then the place. -/
def goesBefore (later earlier : Directive) : Bool :=
  if later.target.length ≠ earlier.target.length then earlier.target.length < later.target.length
  else
    match earlier.condition, later.condition with
    | none, _ => true
    | some _, none => false
    | some a, some b => !(b.name < a.name)

end Directive

end RouterAdvert.Log
