import SearchLink.Text.Basic
import SearchLink.Unicode.CodeSet

/-!
# `SearchLink.Unicode.Mapping`: tables that replace characters

A rule of a table replaces every `step`-th code point of a range. Rules are written in
hexadecimal as `source>target`. A source is a code point `a`, a range `a-b`, or every second
code point `a/b` of one; the target belongs to the first of them, and the others follow it.
A target of several code points joins them with `+`; an empty one drops the source.
-/

set_option autoImplicit false

namespace SearchLink.Unicode

/-- A rule that replaces code points. -/
structure Mapping where
  /-- The first code point that is replaced. -/
  first : Nat
  /-- The last one. -/
  last : Nat
  /-- The distance between neighbours among them: 1 or 2. -/
  step : Nat
  /-- What replaces the first. -/
  target : List Nat
  deriving Repr, DecidableEq

namespace Mapping

/-- What replaces a code point, if the rule covers it. -/
def image? (r : Mapping) (n : Nat) : Option (List Nat) :=
  if r.first ≤ n && n ≤ r.last && (n - r.first) % r.step == 0 then
    some (r.target.map (· + (n - r.first)))
  else none

/-- Reads the source of a rule: its first and last code point and its step. -/
def sourceOfHex (source : String) : Nat × Nat × Nat :=
  match source.splitOn "/" with
  | [a, b] => (CodeSet.hexNumeral a.toList, CodeSet.hexNumeral b.toList, 2)
  | _ =>
    let range := CodeSet.rangeOfHex source.toList
    (range.1, range.2, 1)

/-- Reads the target of a rule. -/
def targetOfHex (target : String) : List Nat :=
  if target.isEmpty then [] else (target.splitOn "+").map fun t => CodeSet.hexNumeral t.toList

/-- Reads one rule. -/
def ofHex (rule : String) : Mapping :=
  let (source, target) :=
    match rule.splitOn ">" with
    | [source, target] => (source, target)
    | _ => (rule, rule)
  let (first, last, step) := sourceOfHex source
  ⟨first, last, step, targetOfHex target⟩

/-- Reads a table: lines of rules separated by blanks. -/
def tableOfHex (lines : List String) : List Mapping :=
  lines.flatMap fun line => (line.splitOn " ").map ofHex

/-- What the first rule that covers a code point replaces it with. -/
def lookup? (table : List Mapping) (n : Nat) : Option (List Nat) :=
  table.findSome? (·.image? n)

end Mapping

end SearchLink.Unicode
