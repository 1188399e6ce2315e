import RouterAdvert.Text.Numeral

/-!
# Binary floating-point numbers

Numbers of the 64-bit binary format as sign, significand and exponent. A decimal is rounded to the
nearest of them, ties to the even significand, and a number is written with the fewest digits that
read back to it. All arithmetic is exact, on natural numbers.
-/

namespace RouterAdvert

/-- A number of the 64-bit format; a finite one is `significand * 2 ^ exponent` with its sign. -/
inductive Binary64
  | nan
  | infinite (negative : Bool)
  | finite (negative : Bool) (significand : Nat) (exponent : Int)
deriving DecidableEq, Repr

namespace Binary64

def minExponent : Int := -1074

def maxExponent : Int := 971

/-- A quotient rounded to the nearest natural number, ties to the even one. -/
def divNearest (num den : Nat) : Nat :=
  let q := num / den
  let twice := 2 * (num % den)
  if twice < den then q
  else if den < twice then q + 1
  else if q % 2 = 0 then q else q + 1

def leastNormal : Nat := 4503599627370496

def powAbove (base : Nat) (e : Int) : Nat := Nat.pow base e.toNat

/-- The exponent that gives a positive quotient a significand of 53 bits, unless it is subnormal. -/
def exponentFor (num den : Nat) : Int :=
  let low : Int := (num.log2 : Int) - den.log2 - 53
  let fits := num * powAbove 2 (-low) < 2 * leastNormal * den * powAbove 2 low
  max minExponent (if fits then low else low + 1)

def ofQuotient (negative : Bool) (num den : Nat) : Binary64 :=
  if num = 0 then .finite negative 0 minExponent
  else
    let e := exponentFor num den
    let m := divNearest (num * powAbove 2 (-e)) (den * powAbove 2 e)
    let (m, e) := if m = 2 * leastNormal then (leastNormal, e + 1) else (m, e)
    if maxExponent < e then .infinite negative else .finite negative m e

/-- The number nearest to `significand * 10 ^ exponent`, with a sign. Decimals far out of range are
decided by their count of digits. -/
def ofDecimal (negative : Bool) (significand : Nat) (exponent : Int) : Binary64 :=
  let magnitude := (Numeral.minimal 10 significand).length + exponent
  if significand = 0 then .finite negative 0 minExponent
  else if 310 < magnitude then .infinite negative
  else if magnitude < -330 then .finite negative 0 minExponent
  else ofQuotient negative (significand * powAbove 10 exponent) (powAbove 10 (-exponent))

/-- The numbers between which everything rounds to a given number, all three in units of
`2 ^ (exponent - 2)`; the ends belong to the interval if the significand is even. -/
structure Interval where
  low : Nat
  middle : Nat
  high : Nat
  exponent : Int
  closed : Bool

/-- The interval of a positive number. Below a power of two the numbers lie twice as dense. -/
def intervalOf (significand : Nat) (exponent : Int) : Interval where
  low := 4 * significand - (if significand = leastNormal ∧ minExponent < exponent then 1 else 2)
  middle := 4 * significand
  high := 4 * significand + 2
  exponent := exponent - 2
  closed := significand % 2 = 0

namespace Interval

def scaled (i : Interval) (digits : Nat) (shift : Int) : Nat × Nat × Nat × Nat :=
  let unit := powAbove 2 i.exponent * powAbove 10 (-shift)
  (i.low * unit, i.middle * unit, i.high * unit,
    digits * powAbove 10 shift * powAbove 2 (-i.exponent))

def contains (i : Interval) (digits : Nat) (shift : Int) : Bool :=
  let (low, _, high, x) := i.scaled digits shift
  if i.closed then low ≤ x && x ≤ high else low < x && x < high

def floorAt (i : Interval) (shift : Int) : Nat :=
  (i.middle * powAbove 2 i.exponent * powAbove 10 (-shift))
    / (powAbove 10 shift * powAbove 2 (-i.exponent))

def nearerBelow (i : Interval) (digits : Nat) (shift : Int) : Bool :=
  let (_, middle, _, below) := i.scaled digits shift
  let (_, _, _, above) := i.scaled (digits + 1) shift
  middle - below < above - middle

/-- The decimal in the interval with the given last place: of the two around the middle the nearer
one, the upper one if both are equally near. -/
def decimalAt? (i : Interval) (shift : Int) : Option Nat :=
  let below := i.floorAt shift
  if i.contains below shift ∧ (i.nearerBelow below shift ∨ ¬i.contains (below + 1) shift) then
    some below
  else if i.contains (below + 1) shift then some (below + 1)
  else none

/-- The decimal in the interval whose last place is as high as possible, among the `places` highest
places from `shift` down. -/
def shortest (i : Interval) : Nat → Int → Nat × Int
  | 0, shift => (i.floorAt shift, shift)
  | places + 1, shift =>
    match i.decimalAt? shift with
    | some digits => (digits, shift)
    | none => i.shortest places (shift - 1)

end Interval

def leadingPlace (significand : Nat) (exponent : Int) : Int :=
  let scaled := significand * powAbove 2 exponent * powAbove 10 400 / powAbove 2 (-exponent)
  ((Numeral.minimal 10 scaled).length : Int) - 400

/-- The fewest decimal digits that read back to a positive number, and the place of the last of
them. The search begins one place above the leading digit, where the number may round up to a power
of ten; seventeen digits are always enough. -/
def shortestDecimal (significand : Nat) (exponent : Int) : Nat × Int :=
  (intervalOf significand exponent).shortest 18 (leadingPlace significand exponent)

/-- `digits * 10 ^ shift` in positional notation with at least one digit after the point. -/
def positional (digits : Nat) (shift : Int) : List Char :=
  let text := Numeral.write 10 digits
  let zeros (n : Nat) := List.replicate n '0'
  if 0 ≤ shift then text ++ zeros shift.toNat ++ ['.', '0']
  else
    let places := (-shift).toNat
    if places < text.length then
      text.take (text.length - places) ++ '.' :: text.drop (text.length - places)
    else ['0', '.'] ++ zeros (places - text.length) ++ text

def text : Binary64 → String
  | nan => "NaN"
  | infinite negative => if negative then "-inf" else "inf"
  | finite negative significand exponent =>
    let magnitude :=
      if significand = 0 then ['0', '.', '0']
      else
        let (digits, shift) := shortestDecimal significand exponent
        positional digits shift
    String.ofList (if negative then '-' :: magnitude else magnitude)

end Binary64

end RouterAdvert
