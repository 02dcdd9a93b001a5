import SearchLink.Regex.Expr
import SearchLink.Regex.Property
import SearchLink.Text.Blank
import SearchLink.Unicode.Casing

/-!
# `SearchLink.Regex.Flags`: the flags of a pattern and what they do to characters

Flags decide how a literal, a class and a class's complement read. Without the flag
`unicode` a pattern may only name ASCII characters, since anything else would take a
character apart; the functions below give `none` where a pattern breaks that rule.
-/

set_option autoImplicit false

namespace SearchLink.Regex

open SearchLink.Unicode (CodeSet)

/-- The flags under which a part of a pattern is read. -/
structure Flags where
  /-- Letters match in either case. -/
  caseInsensitive : Bool := false
  /-- `^` and `$` also hold at the ends of lines. -/
  multiLine : Bool := false
  /-- The dot also takes a line feed. -/
  dotAll : Bool := false
  /-- Repetitions are lazy, and greedy with `?` behind them. -/
  swapGreed : Bool := false
  /-- Classes and boundaries know all scripts. -/
  unicode : Bool := true
  /-- CR and CRLF end a line too. -/
  crlf : Bool := false
  /-- Blanks and comments in the pattern are passed over. -/
  verbose : Bool := false
  deriving Repr, DecidableEq

/-- Passes over blanks and comments; `inComment` tells whether a comment is open. -/
def skipBlanks (inComment : Bool) : Text → Text
  | [] => []
  | c :: r =>
    if inComment then skipBlanks (c ≠ '\n') r
    else if Text.isWhiteSpace c then skipBlanks false r
    else if c = '#' then skipBlanks true r
    else c :: r

namespace Flags

/-- Passes over blanks and comments if the flags say so. -/
def skip (flags : Flags) (t : Text) : Text := if flags.verbose then skipBlanks false t else t

/-- Both cases of the ASCII letters of a set. -/
def asciiFold (s : CodeSet) : CodeSet :=
  let upper := s.inter [(65, 90)]
  let lower := s.inter [(97, 122)]
  (s.union (upper.map fun r => (r.1 + 32, r.2 + 32))).union
    (lower.map fun r => (r.1 - 32, r.2 - 32))

/-- A set closed under letter case if the flags say so. -/
def fold (flags : Flags) (s : CodeSet) : CodeSet :=
  if flags.caseInsensitive then
    if flags.unicode then Unicode.foldClosure s else asciiFold s
  else s

/-- A class as it finally reads: closed under case, and then complemented. -/
def finish? (flags : Flags) (negated : Bool) (s : CodeSet) : Option CodeSet :=
  let folded := flags.fold s
  if negated then if flags.unicode then some folded.complement else none
  else some folded

/-- What one character matches. `byte` marks a character written as the two hexadecimal
digits of a byte. -/
def literal? (flags : Flags) (c : Char) (byte : Bool) : Option Expr :=
  if !flags.unicode && byte && 0x7F < c.toNat then none
  else some (.set (flags.fold (CodeSet.single c.toNat)))

/-- The code point of a character that stands in a class. -/
def member? (flags : Flags) (c : Char) : Option Nat :=
  if !flags.unicode && 0x7F < c.toNat then none else some c.toNat

/-- What the dot matches. -/
def dot? (flags : Flags) : Option Expr :=
  if !flags.unicode then none
  else if flags.dotAll then some (.set [(0, CodeSet.maxCode)])
  else if flags.crlf then
    some (.set (CodeSet.complement [(10, 10), (13, 13)]))
  else some (.set (CodeSet.complement [(10, 10)]))

/-- What `^` asserts. -/
def caret (flags : Flags) : Assertion :=
  if flags.multiLine then if flags.crlf then .crlfStart else .lineStart else .start

/-- What `$` asserts. -/
def dollar (flags : Flags) : Assertion :=
  if flags.multiLine then if flags.crlf then .crlfStop else .lineStop else .stop

/-- The class of one of the letters `d`, `s` and `w`. -/
def shorthand? (flags : Flags) (letter : Char) (negated : Bool) : Option CodeSet :=
  let set :=
    if letter = 'd' then if flags.unicode then digitSet else [(48, 57)]
    else if letter = 's' then if flags.unicode then spaceSet else [(9, 13), (32, 32)]
    else if flags.unicode then wordSet else [(48, 57), (65, 90), (95, 95), (97, 122)]
  if negated then if flags.unicode then some set.complement else none else some set

/-- The class of a named property. -/
def property? (flags : Flags) (name : PropertyName) (negated : Bool) : Option CodeSet :=
  if flags.unicode then name.resolve?.bind (flags.finish? negated) else none

end Flags

/-- The class of an ASCII name such as `alpha`. -/
def asciiClass? (name : Text) : Option CodeSet :=
  if name = "alnum".toList then some [(48, 57), (65, 90), (97, 122)]
  else if name = "alpha".toList then some [(65, 90), (97, 122)]
  else if name = "ascii".toList then some [(0, 127)]
  else if name = "blank".toList then some [(9, 9), (32, 32)]
  else if name = "cntrl".toList then some [(0, 31), (127, 127)]
  else if name = "digit".toList then some [(48, 57)]
  else if name = "graph".toList then some [(33, 126)]
  else if name = "lower".toList then some [(97, 122)]
  else if name = "print".toList then some [(32, 126)]
  else if name = "punct".toList then some [(33, 47), (58, 64), (91, 96), (123, 126)]
  else if name = "space".toList then some [(9, 13), (32, 32)]
  else if name = "upper".toList then some [(65, 90)]
  else if name = "word".toList then some [(48, 57), (65, 90), (95, 95), (97, 122)]
  else if name = "xdigit".toList then some [(48, 57), (65, 70), (97, 102)]
  else none

end SearchLink.Regex
