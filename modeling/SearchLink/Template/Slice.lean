import SearchLink.Text.Basic

/-!
# `SearchLink.Template.Slice`: slices of a text

A slice counts characters. A negative bound counts from the end, a bound outside the text
is moved to its nearer end, and a range that ends before it starts is empty.
-/

set_option autoImplicit false

namespace SearchLink.Template

/-- The place in a text of `n` characters that a bound stands for. -/
def resolveBound (n : Nat) (bound : Int64) : Nat :=
  if bound.toInt < 0 then (n + bound.toInt).toNat else min bound.toInt.toNat n

/-- The characters of a text between two bounds; an absent bound is the text's end. -/
def slice (t : Text) (start stop : Option Int64) : Text :=
  let first := (start.map (resolveBound t.length)).getD 0
  let last := (stop.map (resolveBound t.length)).getD t.length
  (t.drop first).take (last - first)

end SearchLink.Template
