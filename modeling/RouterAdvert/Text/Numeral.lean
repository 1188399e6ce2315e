/-!
# Positional numerals

Numbers as digit lists, most significant digit first. `fixed` writes a number with a given count of
digits, `minimal` with no leading zero, and `value` reads both back. On top of the digits stand
their characters: `write` and `read?` for text in a base up to sixteen.
-/

namespace RouterAdvert.Numeral

def fixed (base : Nat) : Nat → Nat → List Nat
  | 0, _ => []
  | width + 1, n => fixed base width (n / base) ++ [n % base]

/-- The digits of `n` without leading zeros; zero itself is one digit. -/
def minimal (base n : Nat) : List Nat :=
  if _h : 2 ≤ base ∧ base ≤ n then minimal base (n / base) ++ [n % base] else [n]
termination_by n
decreasing_by exact Nat.div_lt_self (by omega) _h.1

def value (base : Nat) (digits : List Nat) : Nat :=
  digits.foldl (fun n digit => n * base + digit) 0

@[simp] theorem length_fixed (base width n : Nat) : (fixed base width n).length = width := by
  induction width generalizing n with
  | zero => rfl
  | succ width ih => simp [fixed, ih]

theorem fixed_lt {base : Nat} (h : 0 < base) (width n : Nat) : ∀ d ∈ fixed base width n, d < base := by
  induction width generalizing n with
  | zero => simp [fixed]
  | succ width ih =>
    intro d hd
    rcases List.mem_append.1 hd with hd | hd
    · exact ih _ d hd
    · rw [List.mem_singleton.1 hd]
      exact Nat.mod_lt _ h

theorem value_append_singleton (base : Nat) (digits : List Nat) (digit : Nat) :
    value base (digits ++ [digit]) = value base digits * base + digit := by
  simp [value, List.foldl_append]

/-- Reading a fixed-width numeral gives the number back, up to the digits that were dropped. -/
theorem value_fixed (base width n : Nat) :
    value base (fixed base width n) = n % Nat.pow base width := by
  induction width generalizing n with
  | zero => simp [fixed, value, Nat.mod_one]
  | succ width ih =>
    change _ = n % (Nat.pow base width * base)
    rw [fixed, value_append_singleton, ih, Nat.mul_comm (Nat.pow base width), Nat.mod_mul,
      Nat.mul_comm base, Nat.add_comm]

theorem value_minimal (base n : Nat) : value base (minimal base n) = n := by
  induction n using Nat.strongRecOn with
  | ind n ih =>
    unfold minimal
    split
    case isTrue h =>
      rw [value_append_singleton, ih _ (Nat.div_lt_self (by omega) h.1), Nat.mul_comm,
        Nat.div_add_mod]
    case isFalse => simp [value]

theorem minimal_ne_nil (base n : Nat) : minimal base n ≠ [] := by
  unfold minimal
  split <;> simp

def digitChar (digit : Nat) : Char :=
  if digit < 10 then Char.ofNat (48 + digit) else Char.ofNat (87 + digit)

def digitValue? (c : Char) : Option Nat :=
  if 48 ≤ c.toNat ∧ c.toNat ≤ 57 then some (c.toNat - 48)
  else if 97 ≤ c.toNat ∧ c.toNat ≤ 102 then some (c.toNat - 87)
  else if 65 ≤ c.toNat ∧ c.toNat ≤ 70 then some (c.toNat - 55)
  else none

def digitIn? (base : Nat) (c : Char) : Option Nat :=
  (digitValue? c).filter (· < base)

def write (base n : Nat) : List Char :=
  (minimal base n).map digitChar

def read? (base : Nat) : List Char → Option Nat
  | [] => none
  | c :: rest => (value base) <$> (c :: rest).mapM (digitIn? base)

def readUnsigned? (cs : List Char) : Option Nat :=
  read? 10 (if cs.head? = some '+' then cs.tail else cs)

def unsigned (cs : List Char) : List Char :=
  if cs.head? = some '+' ∨ cs.head? = some '-' then cs.tail else cs

def isExponent : List Char → Bool
  | [] => true
  | c :: rest => (c = 'e' || c = 'E') && unsigned rest ≠ [] && (unsigned rest).all Char.isDigit

/-- Whether a text is a decimal number: after a sign, digits with a point before, among or after
them and an exponent, or a word for infinity or for no number. -/
def isDecimal (cs : List Char) : Bool :=
  let magnitude := unsigned cs
  let whole := magnitude.takeWhile Char.isDigit
  let rest := magnitude.dropWhile Char.isDigit
  let fraction := if rest.head? = some '.' then rest.tail.takeWhile Char.isDigit else []
  let rest := if rest.head? = some '.' then rest.tail.dropWhile Char.isDigit else rest
  (whole ++ fraction ≠ [] && isExponent rest) ||
    String.ofList (magnitude.map Char.toLower) ∈ ["inf", "infinity", "nan"]

def decimal (n : Nat) : String :=
  String.ofList (write 10 n)

def signed : Int → String
  | .ofNat n => decimal n
  | .negSucc n => "-" ++ decimal (n + 1)

end RouterAdvert.Numeral
