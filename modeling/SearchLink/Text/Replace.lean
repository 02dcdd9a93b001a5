import SearchLink.Text.Basic

/-!
# `SearchLink.Text.Replace`: replacing a literal text

`replaceAll source target` replaces every occurrence of `source`, from left to right and
without overlaps. An empty source replaces nothing.
-/

set_option autoImplicit false

namespace SearchLink.Text

/-- A text with every occurrence of `source` replaced by `target`. -/
def replaceAll (source target : Text) : Text → Text
  | [] => []
  | c :: r =>
    match stripStart? source (c :: r) with
    | some rest =>
      if _shorter : rest.length < (c :: r).length then target ++ replaceAll source target rest
      else c :: replaceAll source target r
    | none => c :: replaceAll source target r
termination_by t => t.length
decreasing_by
  · exact _shorter
  · exact Nat.lt_succ_self r.length
  · exact Nat.lt_succ_self r.length

end SearchLink.Text
