/-!
# `SearchLink.Text.Basic`: texts and their UTF-8 offsets

A text is the list of its Unicode scalar values. All of this library works on texts, so
that every function can follow the list; `String` appears only where a program reads or
writes.

Places in a text are byte offsets into its UTF-8 form. `Text.dropBytes?` is the one way
from an offset to the text behind it, and refuses an offset past the end or inside a
character.
-/

set_option autoImplicit false

namespace SearchLink

/-- A text: its Unicode scalar values in order. -/
abbrev Text := List Char

namespace Text

/-- The number of bytes in the UTF-8 form of a text. -/
def utf8Size : Text → Nat
  | [] => 0
  | c :: r => c.utf8Size + utf8Size r

/-- What stands behind the first `n` bytes of a text. `none` when the text is shorter, or
when the offset falls inside a character. -/
def dropBytes? : Text → Nat → Option Text
  | t, 0 => some t
  | [], _ + 1 => none
  | c :: r, n + 1 => if c.utf8Size ≤ n + 1 then dropBytes? r (n + 1 - c.utf8Size) else none

/-- The text behind a given beginning, if it begins that way. -/
def stripStart? : (start t : Text) → Option Text
  | [], t => some t
  | _ :: _, [] => none
  | s :: ss, c :: cs => if s = c then stripStart? ss cs else none

/-- Whether a text begins with another. -/
def startsWith (start t : Text) : Bool := (stripStart? start t).isSome

/-- Whether a text occurs anywhere in another. -/
def occursIn (part : Text) : Text → Bool
  | [] => part.isEmpty
  | c :: r => startsWith part (c :: r) || occursIn part r

/-- A text without its longest beginning and its longest end of characters in a class. -/
def trimWhere (p : Char → Bool) (t : Text) : Text :=
  ((t.dropWhile p).reverse.dropWhile p).reverse

theorem utf8Size_append (a b : Text) : utf8Size (a ++ b) = utf8Size a + utf8Size b := by
  induction a with
  | nil => simp [utf8Size]
  | cons c r ih => simp [utf8Size, ih, Nat.add_assoc]

theorem stripStart?_eq_some_iff {start t rest : Text} :
    stripStart? start t = some rest ↔ t = start ++ rest := by
  induction start generalizing t with
  | nil => simp [stripStart?]
  | cons s ss ih =>
    cases t with
    | nil => simp [stripStart?]
    | cons c cs =>
      by_cases h : s = c
      · simp [stripStart?, h, ih]
      · simp [stripStart?, h, Ne.symm h]

theorem startsWith_iff {start t : Text} : startsWith start t = true ↔ start <+: t := by
  rw [startsWith, Option.isSome_iff_exists]
  simp only [stripStart?_eq_some_iff]
  exact exists_congr fun _ => eq_comm

theorem occursIn_iff {part t : Text} : occursIn part t = true ↔ part <:+: t := by
  induction t with
  | nil => rw [occursIn, List.isEmpty_iff, List.infix_nil]
  | cons c r ih => rw [occursIn, Bool.or_eq_true, startsWith_iff, ih, List.infix_cons_iff]

theorem dropBytes?_append (a b : Text) : dropBytes? (a ++ b) (utf8Size a) = some b := by
  induction a with
  | nil => cases b <;> rfl
  | cons c r ih =>
    have hc : 0 < c.utf8Size := c.utf8Size_pos
    obtain ⟨n, hn⟩ : ∃ n, c.utf8Size + utf8Size r = n + 1 :=
      ⟨c.utf8Size + utf8Size r - 1, by omega⟩
    simp only [List.cons_append, utf8Size, hn, dropBytes?]
    rw [if_pos (by omega), ← hn, Nat.add_sub_cancel_left]
    exact ih

end Text

end SearchLink
