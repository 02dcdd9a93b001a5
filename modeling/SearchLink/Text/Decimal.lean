import SearchLink.Text.Basic

/-!
# `SearchLink.Text.Decimal`: decimal numerals

Reading and writing of integers in decimal. A signed numeral is an optional sign followed
by at least one ASCII digit; `int64?` reads one whose value fits 64 bits.
-/

set_option autoImplicit false

namespace SearchLink.Text

/-- The value of an ASCII decimal digit. -/
def digitValue? (c : Char) : Option Nat :=
  if '0' ≤ c ∧ c ≤ '9' then some (c.toNat - 48) else none

/-- Continues a numeral: `n` is the value of the digits read so far. -/
def naturalFrom (n : Nat) : Text → Option Nat
  | [] => some n
  | c :: r => (digitValue? c).bind fun d => naturalFrom (10 * n + d) r

/-- Reads a text of at least one digit, and nothing but digits. -/
def natural? : Text → Option Nat
  | [] => none
  | t => naturalFrom 0 t

/-- Reads an integer with an optional sign. -/
def integer? : Text → Option Int
  | '-' :: r => (natural? r).map fun n => -(n : Int)
  | '+' :: r => (natural? r).map fun n => (n : Int)
  | t => (natural? t).map fun n => (n : Int)

/-- Reads a signed integer that fits 64 bits. -/
def int64? (t : Text) : Option Int64 :=
  (integer? t).bind fun i =>
    if -0x8000000000000000 ≤ i ∧ i < 0x8000000000000000 then some (Int64.ofInt i) else none

/-- The decimal digits of a natural number. -/
def ofNatural (n : Nat) : Text := Nat.toDigits 10 n

/-- An integer in decimal, with a sign only when it is negative. -/
def ofInteger (i : Int) : Text :=
  if i < 0 then '-' :: ofNatural i.natAbs else ofNatural i.natAbs

end SearchLink.Text
