import SearchLink.Regex.Parser
import SearchLink.Regex.Search

/-!
# `SearchLink.Regex.Compile`: compiled patterns and their matches in a text

`compile?` turns a pattern into a program, or refuses it. A text then falls into segments:
each match with the gap in front of it, and the tail behind the last one.
-/

set_option autoImplicit false

namespace SearchLink

/-- A compiled pattern. -/
structure Regex where
  /-- The expression that the pattern stands for. -/
  expr : Regex.Expr
  /-- The program of the expression. -/
  program : Regex.Program
  deriving Repr

namespace Regex

/-- Compiles a pattern, unless it is malformed or too large. -/
def compile? (flags : Flags) (pattern : Text) : Option Regex :=
  (parse? flags pattern).bind fun e => if e.fits then some ⟨e, e.program⟩ else none

/-- How many groups a pattern has, counting the whole match as group 0. -/
def groupCount (re : Regex) : Nat := re.expr.groupCount

/-- Whether a pattern has a group with a name. -/
def hasNamedGroup (re : Regex) : Bool := re.expr.groups.any fun g => g.2.isSome

/-- The number of the group with a name. -/
def groupIndex? (re : Regex) (name : Text) : Option Nat :=
  (re.expr.groups.find? fun g => g.2 = some name).map fun g => g.1

/-- A match in a text: the text in front of it, back to the match before, and the text of
each of its groups that took part, the whole match first. -/
structure Segment where
  /-- The text between the match before and this one. -/
  gap : Text
  /-- The texts of the groups. -/
  groups : List (Option Text)
  deriving Repr, DecidableEq

/-- The whole text of a match. -/
def Segment.whole (s : Segment) : Text := (s.groups.head?.bind id).getD []

/-- The text of a group of a match; nothing for a group that took no part. -/
def Segment.group (s : Segment) (index : Nat) : Text := (s.groups.getD index none).getD []

/-- The part of a text between two places. -/
def between (t : Text) (start stop : Nat) : Text := (t.drop start).take (stop - start)

/-- The texts of the groups whose places are noted in slots. -/
def groupTexts (t : Text) : Slots → List (Option Text)
  | some start :: some stop :: slots => some (between t start stop) :: groupTexts t slots
  | _ :: _ :: slots => none :: groupTexts t slots
  | _ => []

/-- The segments of a text with the given matches, the first gap beginning at `start`. -/
def segmentsFrom (t : Text) (start : Nat) : List Slots → List Segment × Text
  | [] => ([], t.drop start)
  | slots :: more =>
    let (segments, tail) := segmentsFrom t slots.stop more
    (⟨between t start slots.start, groupTexts t slots⟩ :: segments, tail)

/-- The segments of a text, and what stands behind the last match. -/
def segments (re : Regex) (t : Text) : List Segment × Text :=
  segmentsFrom t 0 (re.program.matches t)

end Regex

end SearchLink
