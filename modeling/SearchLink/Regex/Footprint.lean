import SearchLink.Regex.Expr

/-!
# `SearchLink.Regex.Footprint`: how large a pattern's program may grow

Counted repetitions multiply, so a short pattern can ask for a huge program. The footprint
of an expression is an estimate of the size in bytes of an automaton over UTF-8 for it, worked
out from the expression without building anything. A pattern above `maxFootprint` is refused.

Each state counts 32 bytes, each transition on a range of bytes 8, each further branch of a
choice 4, and the frame around every pattern 256.

The limit is that of an engine which builds the automaton and measures it, the estimate is
this library's own. For single characters and for sets within ASCII it counts what is built.
Elsewhere it leans upwards: ranges whose bytes end alike share states once they are built,
and so do branches that begin alike. The second automaton, with which an engine searches
backwards, is not counted. So a pattern close to the limit may be refused here and accepted
there, or the other way round.
-/

set_option autoImplicit false

namespace SearchLink.Regex

open SearchLink.Unicode (CodeSet)

/-- The largest automaton a pattern may need: 10 MiB. -/
def maxFootprint : Nat := 10 * 1024 * 1024

/-- How many bytes the UTF-8 form of a code point has. -/
def utf8Length (n : Nat) : Nat :=
  if n ≤ 0x7F then 1 else if n ≤ 0x7FF then 2 else if n ≤ 0xFFFF then 3 else 4

/-- The ranges of bytes that a range of code points needs, one row for each length of
UTF-8 form in it. -/
def byteRanges (lo hi : Nat) : Nat :=
  ([(0, 0x7F), (0x80, 0x7FF), (0x800, 0xFFFF), (0x10000, CodeSet.maxCode)].map fun row =>
    if max lo row.1 ≤ min hi row.2 then utf8Length row.1 else 0).foldl (· + ·) 0

/-- The size of an automaton that takes a character of some ranges. Within ASCII all ranges
are transitions of one state, beyond it each range of bytes has a state of its own. -/
def rangesFootprint (s : CodeSet) : Nat :=
  if s.all fun r => r.2 ≤ 0x7F then 64 + 8 * s.length
  else 64 + 40 * (s.map fun r => byteRanges r.1 r.2).foldl (· + ·) 0

/-- The size of the automaton of a set of characters. A set of one character is a word of
bytes. -/
def setFootprint (s : CodeSet) : Nat :=
  match s with
  | [(lo, hi)] => if lo = hi then 32 * utf8Length lo else rangesFootprint s
  | _ => rangesFootprint s

/-- The size of the automaton of an expression. -/
def Expr.footprint : Expr → Nat
  | empty => 32
  | set s => setFootprint s
  | look _ => 32
  | seq a b => a.footprint + b.footprint
  | alt a b => 68 + a.footprint + b.footprint
  | loop least most _ body =>
    match most with
    | none =>
      if least = 0 then (if body.alwaysConsumes then 40 else 112) + body.footprint
      else 40 + least * body.footprint
    | some most =>
      if least = most then least * body.footprint
      else 32 + least * body.footprint + (most - least) * (40 + body.footprint)
  | group _ _ body => 64 + body.footprint

/-- Whether an expression's automaton, with the frame around it, stays within bounds. -/
def Expr.fits (e : Expr) : Bool := e.footprint + 256 ≤ maxFootprint

end SearchLink.Regex
