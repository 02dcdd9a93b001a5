import SearchLink.Text.Percent
import SearchLink.Url.Ipv4

/-!
# `SearchLink.Url.Ipv6`: addresses of eight pieces

An address is written as eight pieces of up to four hexadecimal digits with colons between
them. One gap `::` may stand for a row of zero pieces, and the last two pieces may be written
as four decimal bytes. An address is written back with its longest row of zeros as a gap.
-/

set_option autoImplicit false

namespace SearchLink

/-- An address of eight pieces of 16 bits. -/
structure Ipv6 where
  /-- The pieces. -/
  pieces : List UInt16
  /-- There are eight. -/
  length_eq : pieces.length = 8
  deriving Repr, DecidableEq

namespace Ipv6

/-! ### Reading -/

/-- Reads a piece: one to four hexadecimal digits. -/
def piece? (t : Text) : Option UInt16 :=
  if t.isEmpty || 4 < t.length then none else (Ipv4.numberFrom 16 0 t).map UInt16.ofNat

/-- Reads a decimal byte: no more than it needs of digits. -/
def byte? (t : Text) : Option Nat :=
  if t.head? = some '0' && 1 < t.length then none
  else (Text.natural? t).bind fun n => if n < 256 then some n else none

/-- Reads four decimal bytes as two pieces. -/
def embedded? (t : Text) : Option (List UInt16) := do
  match ← (t.splitOn '.').mapM byte? with
  | [a, b, c, d] => some [UInt16.ofNat (256 * a + b), UInt16.ofNat (256 * c + d)]
  | _ => none

/-- Reads pieces with colons between them, the last of which may be four bytes. -/
def groups? (mayEmbed : Bool) : List Text → Option (List UInt16)
  | [] => some []
  | [t] =>
    match piece? t with
    | some p => some [p]
    | none => if mayEmbed then embedded? t else none
  | t :: ts => do return (← piece? t) :: (← groups? mayEmbed ts)

/-- Reads one side of a gap, or an address without one. -/
def side? (mayEmbed : Bool) (t : Text) : Option (List UInt16) :=
  if t.isEmpty then some [] else groups? mayEmbed (t.splitOn ':')

/-- What stands on the two sides of the first gap. -/
def splitGap? : Text → Option (Text × Text)
  | ':' :: ':' :: r => some ([], r)
  | c :: r => (splitGap? r).map fun s => (c :: s.1, s.2)
  | [] => none

/-- The pieces of an address; a gap stands for one zero at least. -/
def pieces? (t : Text) : Option (List UInt16) :=
  match splitGap? t with
  | none => side? true t
  | some (left, right) => do
    let before ← side? false left
    let after ← side? true right
    let given := before.length + after.length
    if given < 8 then some (before ++ List.replicate (8 - given) 0 ++ after) else none

/-- Reads an address. -/
def parse? (t : Text) : Option Ipv6 :=
  (pieces? t).bind fun pieces =>
    if eight : pieces.length = 8 then some ⟨pieces, eight⟩ else none

/-! ### Writing -/

/-- The lengths of the rows of zeros that begin at each place. -/
def zeroRows (pieces : List UInt16) : List Nat :=
  match pieces with
  | [] => []
  | p :: ps =>
    let rest := zeroRows ps
    (if p = 0 then rest.headD 0 + 1 else 0) :: rest

/-- Where the gap goes: the first of the longest rows of zeros, and its length, if that is
more than one. -/
def gap? (pieces : List UInt16) : Option (Nat × Nat) :=
  let rows := zeroRows pieces
  let longest := rows.foldl max 0
  if longest < 2 then none else some (rows.idxOf longest, longest)

/-- Pieces in hexadecimal, with colons between them. -/
def writePieces (pieces : List UInt16) : Text :=
  [':'].intercalate (pieces.map fun p => Nat.toDigits 16 p.toNat)

/-- An address, with a gap for its longest row of zeros. -/
def write (a : Ipv6) : Text :=
  match gap? a.pieces with
  | none => writePieces a.pieces
  | some (start, length) =>
    writePieces (a.pieces.take start) ++ ':' :: ':' :: writePieces (a.pieces.drop (start + length))

end Ipv6

end SearchLink
