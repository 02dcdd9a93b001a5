import SearchLink.Regex.Compile
import SearchLink.Text.Decimal

/-!
# `SearchLink.Regex.Expansion`: what is put in the place of a match

An expansion is a text with references to groups. `${n}` and `$n` stand for the group with
that number or that name, `$$` for a dollar sign. A name without braces is as long as it
can be. A dollar sign that begins nothing of this kind stands for itself, and a group that
is missing or took no part stands for nothing.
-/

set_option autoImplicit false

namespace SearchLink.Regex

/-- A reference to a group. -/
inductive Reference where
  /-- By number. -/
  | number (n : Nat)
  /-- By name. -/
  | named (name : Text)
  deriving Repr, DecidableEq

/-- A reference as it is written: digits are a number, as long as they fit 64 bits. -/
def Reference.ofText (t : Text) : Reference :=
  match Text.natural? t with
  | some n => if n < UInt64.size then .number n else .named t
  | none => .named t

/-- The text that a reference stands for in a match. -/
def Reference.resolve (re : Regex) (s : Segment) : Reference → Text
  | .number n => s.group n
  | .named name => ((re.groupIndex? name).map s.group).getD []

/-- Whether a character may stand in a reference without braces. -/
def isReferenceChar (c : Char) : Bool := c.isAlphanum || c = '_'

/-- Reads the reference behind a dollar sign. -/
def readReference (t : Text) : Option (Reference × Text) :=
  match t with
  | '{' :: r =>
    match r.dropWhile (· ≠ '}') with
    | _ :: rest => some (.ofText (r.takeWhile (· ≠ '}')), rest)
    | [] => none
  | _ =>
    let name := t.takeWhile isReferenceChar
    if name.isEmpty then none else some (.ofText name, t.dropWhile isReferenceChar)

theorem readReference_length {t r : Text} {ref : Reference}
    (h : readReference t = some (ref, r)) : r.length ≤ t.length := by
  unfold readReference at h
  split at h
  · rename_i r₀
    split at h
    · rename_i c rest hrest
      simp only [Option.some.injEq, Prod.mk.injEq] at h
      obtain ⟨-, rfl⟩ := h
      have := (List.dropWhile_suffix (· ≠ '}') (l := r₀)).length_le
      rw [hrest] at this
      simp only [List.length_cons] at *
      omega
    · simp at h
  · dsimp only at h
    split at h
    · simp at h
    · simp only [Option.some.injEq, Prod.mk.injEq] at h
      obtain ⟨-, rfl⟩ := h
      exact (List.dropWhile_suffix isReferenceChar (l := t)).length_le

/-- The text that an expansion gives for a match. -/
def expand (re : Regex) (s : Segment) : (expansion : Text) → Text
  | [] => []
  | '$' :: '$' :: r => '$' :: expand re s r
  | '$' :: r =>
    match _read : readReference r with
    | some (ref, rest) => ref.resolve re s ++ expand re s rest
    | none => '$' :: expand re s r
  | c :: r => c :: expand re s r
termination_by t => t.length
decreasing_by
  all_goals first
    | (have h := readReference_length _read
       simp only [List.length_cons]
       omega)
    | (simp only [List.length_cons]; omega)

/-- A text with every match replaced by its expansion. -/
def replaceMatches (re : Regex) (expansion t : Text) : Text :=
  let (segments, tail) := re.segments t
  (segments.flatMap fun s => s.gap ++ expand re s expansion) ++ tail

/-- The matches in a text, one behind the other; a text without a match stays as it is. -/
def keepMatches (re : Regex) (t : Text) : Text :=
  let segments := (re.segments t).1
  if segments.isEmpty then t else segments.flatMap Segment.whole

end SearchLink.Regex
