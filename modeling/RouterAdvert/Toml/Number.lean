import RouterAdvert.Toml.Reader
import RouterAdvert.Toml.Value

/-!
# TOML numbers, dates and times

Integers in four bases, floating-point numbers, and dates and times, which are only checked.
-/

namespace RouterAdvert.Toml

def digit (base : Nat) : Reader Nat
  | [] => none
  | c :: rest => (Numeral.digitIn? base c).map (·, rest)

def moreDigits (base : Nat) : List Char → Option (List Nat × List Char)
  | '_' :: c :: rest => do
    let d ← Numeral.digitIn? base c
    let (ds, rest) ← moreDigits base rest
    return (d :: ds, rest)
  | ['_'] => none
  | [] => some ([], [])
  | c :: rest =>
    match Numeral.digitIn? base c with
    | none => some ([], c :: rest)
    | some d => (moreDigits base rest).map fun (ds, rest) => (d :: ds, rest)

def digits (base : Nat) (cs : List Char) : Option (List Nat × List Char) := do
  let (d, rest) ← digit base cs
  let (ds, rest) ← moreDigits base rest
  return (d :: ds, rest)

def sign : List Char → Bool × List Char
  | '+' :: rest => (false, rest)
  | '-' :: rest => (true, rest)
  | cs => (false, cs)

/-- Reads a decimal whole number without sign. A leading zero stands alone. -/
def whole (cs : List Char) : Option (List Nat × List Char) :=
  match cs with
  | '0' :: rest => some ([0], rest)
  | _ => digits 10 cs

def inRange? (n : Int) : Option Int :=
  if Int64.minValue.toInt ≤ n ∧ n ≤ Int64.maxValue.toInt then some n else none

/-- Reads an integer. Only decimal ones have a sign. -/
def integer (cs : List Char) : Option (Int × List Char) :=
  match cs with
  | '0' :: 'x' :: rest => based 16 rest
  | '0' :: 'o' :: rest => based 8 rest
  | '0' :: 'b' :: rest => based 2 rest
  | _ => do
    let (negative, rest) := sign cs
    let (ds, rest) ← whole rest
    let n : Int := Numeral.value 10 ds
    let n ← inRange? (if negative then -n else n)
    return (n, rest)
where
  based (base : Nat) (cs : List Char) : Option (Int × List Char) := do
    let (ds, rest) ← digits base cs
    let n ← inRange? (Numeral.value base ds)
    return (n, rest)

def fraction (cs : List Char) : Option (List Nat × List Char) :=
  match cs with
  | '.' :: rest => digits 10 rest
  | _ => some ([], cs)

def exponent (cs : List Char) : Option (Option Int × List Char) :=
  match cs with
  | 'e' :: rest | 'E' :: rest => do
    let (negative, rest) := sign rest
    let (ds, rest) ← digits 10 rest
    let n : Int := Numeral.value 10 ds
    return (some (if negative then -n else n), rest)
  | _ => some (none, cs)

def specialFloat (cs : List Char) : Option (Binary64 × List Char) :=
  let (negative, rest) := sign cs
  match rest with
  | 'i' :: 'n' :: 'f' :: rest => some (.infinite negative, rest)
  | 'n' :: 'a' :: 'n' :: rest => some (.nan, rest)
  | _ => none

inductive FloatStart
  | absent
  | malformed
  | found (x : Binary64) (rest : List Char)

/-- Reads a decimal floating-point number: a whole number with a fraction, an exponent or both. One
too great for the format is malformed; one too far below zero is minus infinity. -/
def decimalFloat (cs : List Char) : FloatStart :=
  let (negative, unsigned) := sign cs
  match whole unsigned with
  | none => .absent
  | some (wholeDigits, afterWhole) =>
    match fraction afterWhole with
    | none => .malformed
    | some (fractionDigits, afterFraction) =>
      match exponent afterFraction with
      | none => .malformed
      | some (exponent?, rest) =>
        if fractionDigits = [] ∧ exponent?.isNone then .absent
        else
          let significand := Numeral.value 10 (wholeDigits ++ fractionDigits)
          let scale := exponent?.getD 0 - fractionDigits.length
          let x := Binary64.ofDecimal negative significand scale
          if x = .infinite false then .malformed else .found x rest

def fixedNumber (count : Nat) (cs : List Char) : Option (Nat × List Char) := do
  let ds ← (cs.take count).mapM (Numeral.digitIn? 10)
  if ds.length = count then return (Numeral.value 10 ds, cs.drop count) else none

def twoDigits (low high : Nat) (cs : List Char) : Option (Nat × List Char) :=
  (fixedNumber 2 cs).filter fun (n, _) => low ≤ n && n ≤ high

def daysIn (year month : Nat) : Nat :=
  if month = 2 then if year % 4 = 0 ∧ (year % 100 ≠ 0 ∨ year % 400 = 0) then 29 else 28
  else if month ∈ [4, 6, 9, 11] then 30
  else 31

def afterDate? (cs : List Char) : Option (List Char) := do
  let (year, rest) ← fixedNumber 4 cs
  let rest ← expect? '-' rest
  let (month, rest) ← twoDigits 1 12 rest
  let rest ← expect? '-' rest
  let (_, rest) ← twoDigits 1 (daysIn year month) rest
  return rest

def afterSecondFraction (cs : List Char) : List Char :=
  match cs with
  | '.' :: c :: rest =>
    if c.isDigit then rest.dropWhile (·.isDigit) else cs
  | _ => cs

def afterTime? (cs : List Char) : Option (List Char) := do
  let (_, rest) ← twoDigits 0 23 cs
  let rest ← expect? ':' rest
  let (_, rest) ← twoDigits 0 59 rest
  let rest ← expect? ':' rest
  let (_, rest) ← twoDigits 0 60 rest
  return afterSecondFraction rest

def afterOffset? (cs : List Char) : Option (List Char) :=
  match cs with
  | 'Z' :: rest | 'z' :: rest => some rest
  | '+' :: rest | '-' :: rest => do
    let (_, rest) ← twoDigits 0 23 rest
    let rest ← expect? ':' rest
    let (_, rest) ← twoDigits 0 59 rest
    return rest
  | _ => some cs

def afterMoment? (cs : List Char) : Option (List Char) :=
  match afterDate? cs with
  | none => afterTime? cs
  | some rest =>
    match rest with
    | c :: time =>
      if c = 'T' ∨ c = 't' ∨ c = ' ' then
        match afterTime? time with
        | some rest => afterOffset? rest
        | none => some rest
      else some rest
    | [] => some []

def numeric (cs : List Char) : Option (Value × List Char) :=
  match afterMoment? cs with
  | some rest => some (.moment, rest)
  | none =>
    match decimalFloat cs with
    | .malformed => none
    | .found x rest => some (.float x, rest)
    | .absent =>
      match specialFloat cs with
      | some (x, rest) => some (.float x, rest)
      | none => (integer cs).map fun (n, rest) => (.integer n, rest)

end RouterAdvert.Toml
