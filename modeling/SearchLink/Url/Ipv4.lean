import SearchLink.Text.Decimal
import SearchLink.Text.Percent

/-!
# `SearchLink.Url.Ipv4`: addresses of four bytes

An address is written as up to four numbers with full stops between them. All but the last
stand for one byte each, and the last for all bytes that are left. A number is decimal, octal
after `0` or hexadecimal after `0x`. A name whose last label looks like a number is meant as
an address, and is then either a valid one or an error.
-/

set_option autoImplicit false

namespace SearchLink

/-- An address of four bytes. -/
structure Ipv4 where
  /-- The address as one number. -/
  address : UInt32
  deriving Repr, DecidableEq

namespace Ipv4

/-- Continues a number in some base: `n` is the value of the digits read so far. -/
def numberFrom (base n : Nat) : Text → Option Nat
  | [] => some n
  | c :: r => (Text.hexValue? c).bind fun d =>
    if d < base then numberFrom base (base * n + d) r else none

/-- Reads a number. A base without digits stands for zero. -/
def number? : Text → Option Nat
  | [] => none
  | '0' :: 'x' :: r => numberFrom 16 0 r
  | '0' :: 'X' :: r => numberFrom 16 0 r
  | '0' :: r => numberFrom 8 0 r
  | t => numberFrom 10 0 t

/-- The labels of a name, without an empty one at the end. -/
def parts (name : Text) : List Text :=
  let labels := name.splitOn '.'
  if labels.getLast? = some [] then labels.dropLast else labels

/-- Whether a name is meant as an address. -/
def isMeant (name : Text) : Bool :=
  match (parts name).getLast? with
  | none => false
  | some label => (!label.isEmpty && label.all Char.isDigit) || (number? label).isSome

/-- The address of numbers: bytes from the left, and the last number for what is left. -/
def ofNumbers? (numbers : List Nat) : Option Ipv4 :=
  match numbers.reverse with
  | [] => none
  | last :: front =>
    if 3 < front.length || front.any (255 < ·) || Nat.pow 256 (4 - front.length) ≤ last then none
    else
      let high := front.reverse.foldl (fun n b => 256 * n + b) 0
      some ⟨UInt32.ofNat (high * Nat.pow 256 (4 - front.length) + last)⟩

/-- Reads an address. -/
def parse? (name : Text) : Option Ipv4 := (parts name).mapM number? >>= ofNumbers?

/-- The four bytes of an address. -/
def bytes (a : Ipv4) : List Nat :=
  let n := a.address.toNat
  [n / 0x1000000, n / 0x10000 % 256, n / 0x100 % 256, n % 256]

/-- An address as four decimal numbers. -/
def write (a : Ipv4) : Text := ['.'].intercalate (a.bytes.map Text.ofNatural)

end Ipv4

end SearchLink
