import SearchLink.Proofs.Regex.WordMatch
import SearchLink.Regex.Expansion

/-!
# `SearchLink.Proofs.Regex.SetMatch`: patterns that take one character of a set

A pattern may be no more than a set of characters. It is a word of one set, so its matches cut a
text at each member, and no two of them overlap.

* `wholes_segments_ofSet`: each match is one member, in order.
* `keepMatches_ofSet`: keeping the matches keeps the members, or the whole text if it has none.
-/

set_option autoImplicit false

namespace SearchLink.Regex

open SearchLink.Unicode (CodeSet)

variable (S : CodeSet)

/-- A text that is cut at the members of a set has one match for each. -/
theorem wholes_cutWord (gap t : Text) :
    (cutWord [S] gap t).1.map Segment.whole = (t.filter S.contains).map fun c => [c] := by
  induction t generalizing gap with
  | nil => rw [cutWord]; rfl
  | cons c r ih =>
    have hbegins : beginsWith [S] (c :: r) = S.contains c := Bool.and_true _
    rw [cutWord, hbegins]
    by_cases h : S.contains c = true
    · rw [if_pos h, List.filter_cons_of_pos h]
      exact congrArg ([c] :: ·) (ih [])
    · rw [if_neg h, List.filter_cons_of_neg h, ih]

/-- A compiled pattern that takes one character of a set. -/
def ofSet : Regex := ⟨.set S, (Expr.set S).program⟩

/-- Each match in a text is one of its members, in order. -/
theorem wholes_segments_ofSet (t : Text) :
    ((ofSet S).segments t).1.map Segment.whole = (t.filter S.contains).map fun c => [c] := by
  have hword : (ofSet S).segments t = cutWord [S] [] t := segments_ofWord (w := [S]) (by simp) t
  rw [hword, wholes_cutWord]

/-- The characters of a text that have a property, or the whole text if none has. -/
def keepWhere (p : Char → Bool) (t : Text) : Text := if t.any p then t.filter p else t

theorem keepWhere_congr {p q : Char → Bool} {t : Text} (h : ∀ c ∈ t, p c = q c) :
    keepWhere p t = keepWhere q t := by
  have hany : t.any p = t.any q := by
    rw [Bool.eq_iff_iff, List.any_eq_true, List.any_eq_true]
    exact exists_congr fun c => and_congr_right fun hc => by rw [h c hc]
  rw [keepWhere, keepWhere, List.filter_congr h, hany]

/-- Keeping the matches keeps the members. -/
theorem keepMatches_ofSet (t : Text) : keepMatches (ofSet S) t = keepWhere S.contains t := by
  have hwholes := wholes_segments_ofSet S t
  have hempty : ((ofSet S).segments t).1.isEmpty = !t.any S.contains := by
    rw [Bool.eq_iff_iff, List.isEmpty_iff, ← List.map_eq_nil_iff (f := Segment.whole), hwholes]
    simp
  have hflat : ((ofSet S).segments t).1.flatMap Segment.whole = t.filter S.contains := by
    rw [List.flatMap_def, hwholes, ← List.flatMap_def, List.flatMap_singleton']
  simp only [keepMatches, hempty, hflat, keepWhere]
  cases t.any S.contains <;> rfl

/-- A pattern that is read as a set compiles, if the set is not too large. -/
theorem compile?_of_set {flags : Flags} {pattern : Text} {S : CodeSet}
    (hparse : parse? flags pattern = some (.set S)) (hfits : (Expr.set S).fits = true) :
    compile? flags pattern = some (ofSet S) := by
  rw [compile?, hparse, Option.bind_some, if_pos hfits]
  rfl

end SearchLink.Regex
