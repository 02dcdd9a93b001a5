import Mathlib.Data.List.DropRight
import SearchLink.Regex.Property
import SearchLink.Text.Blank

/-!
# `SearchLink.Proofs.Text.Trimming`: what is taken off the ends of a text

`Trimmed` says what it is to trim a text of a class of blanks, without saying how: what is
taken off in front and behind is blank, and what is left neither begins nor ends with a blank.
There is exactly one such text (`trimmed_iff`).

A browser has a class of its own, which `isBrowserBlank` spells out: some control characters,
the byte order mark, the ends of lines and of paragraphs, and the category of space separators,
which is read from the table of categories. `isSelectionBlank_eq` compares it with the class
that selections are trimmed of. They differ in one character, the control character for the
next line. `selection_trimmed` says when that shows: exactly where the browser's result begins
or ends with this character, as in `selection_trimmed_nextLine`.
-/

set_option autoImplicit false

namespace SearchLink.Text

open SearchLink.Unicode (CodeSet)

/-! ### Trimming -/

/-- A text is what is left of another one without its longest front and its longest back of
blanks. -/
structure Trimmed (blank : Char → Bool) (t r : Text) : Prop where
  /-- What is taken off is blank. -/
  cut : ∃ front back, t = front ++ r ++ back ∧
    (∀ c ∈ front, blank c = true) ∧ ∀ c ∈ back, blank c = true
  /-- No blank is left in front. -/
  head : ∀ c ∈ r.head?, blank c = false
  /-- No blank is left behind. -/
  last : ∀ c ∈ r.getLast?, blank c = false

section
variable {blank : Char → Bool} {t r : Text}

/-- Behind a longest front of blanks there is none. -/
theorem not_blank_of_mem_head?_dropWhile {c : Char} (h : c ∈ (t.dropWhile blank).head?) :
    blank c = false := by
  have hnot := List.head?_dropWhile_not blank t
  rw [Option.mem_def.1 h] at hnot
  exact hnot

/-- Taking off first the front and then the back trims a text. -/
theorem trimmed_trimWhere (blank : Char → Bool) (t : Text) :
    Trimmed blank t (trimWhere blank t) := by
  have hback : t.dropWhile blank = trimWhere blank t ++ (t.dropWhile blank).rtakeWhile blank :=
    List.rdropWhile_append_rtakeWhile.symm
  refine ⟨⟨t.takeWhile blank, (t.dropWhile blank).rtakeWhile blank, ?_,
    fun _ => List.mem_takeWhile_imp, fun _ => List.mem_rtakeWhile_imp⟩, fun c hc => ?_,
    fun c hc => ?_⟩
  · rw [List.append_assoc, ← hback, List.takeWhile_append_dropWhile]
  -- What is left begins as it did before the back was taken off.
  · refine not_blank_of_mem_head?_dropWhile (t := t) ?_
    rw [hback, List.head?_append, Option.mem_def.1 hc]
    rfl
  · rw [trimWhere, List.getLast?_reverse] at hc
    exact not_blank_of_mem_head?_dropWhile hc

/-- There is one way to trim a text. -/
theorem trimmed_iff : Trimmed blank t r ↔ r = trimWhere blank t := by
  constructor
  · rintro ⟨⟨front, back, rfl, hfront, hback⟩, hhead, hlast⟩
    rw [trimWhere, List.append_assoc, List.dropWhile_append_of_pos hfront]
    cases r with
    | nil => rw [List.nil_append, List.dropWhile_eq_nil_iff.2 hback]; rfl
    | cons c r =>
      have hback' : ∀ c ∈ back.reverse, blank c = true :=
        fun c hc => hback c (List.mem_reverse.1 hc)
      have hbegin : (c :: r ++ back).dropWhile blank = c :: r ++ back :=
        List.dropWhile_eq_self_iff.2 fun _ => by simp [hhead c rfl]
      have hend : (c :: r).rdropWhile blank = c :: r :=
        List.rdropWhile_eq_self_iff.2 fun hne => by
          simp only [hlast _ (List.getLast?_eq_some_getLast hne), Bool.false_eq_true, not_false_iff]
      rw [hbegin, List.reverse_append, List.dropWhile_append_of_pos hback']
      exact hend.symm
  · rintro rfl
    exact trimmed_trimWhere blank t

end

/-! ### The blanks of a browser -/

/-- The characters of the category of space separators. -/
def spaceSeparators : CodeSet := Regex.categorySet "Zs"

/-- The control character for the next line. -/
def nextLine : Char := '\u0085'

/-- What a browser takes off both ends of a text: the control characters from the tabulator to
the carriage return, the blank, the blank at which no line breaks, the byte order mark, all
space separators, and the separators of lines and of paragraphs. -/
def isBrowserBlank (c : Char) : Bool :=
  (0x09 ≤ c.toNat && c.toNat ≤ 0x0D) || c.toNat = 0x20 || c.toNat = 0xA0 || c.toNat = 0xFEFF ||
    spaceSeparators.contains c || c.toNat = 0x2028 || c.toNat = 0x2029

/-- The ranges of the table. -/
theorem spaceSeparators_eq :
    spaceSeparators = [(0x20, 0x20), (0xA0, 0xA0), (0x1680, 0x1680), (0x2000, 0x200A),
      (0x202F, 0x202F), (0x205F, 0x205F), (0x3000, 0x3000)] := by
  decide +kernel

/-- The space separators by their code points. -/
theorem contains_spaceSeparators_iff {c : Char} :
    spaceSeparators.contains c = true ↔
      c.toNat = 0x20 ∨ c.toNat = 0xA0 ∨ c.toNat = 0x1680 ∨
        (0x2000 ≤ c.toNat ∧ c.toNat ≤ 0x200A) ∨ c.toNat = 0x202F ∨ c.toNat = 0x205F ∨
        c.toNat = 0x3000 := by
  rw [spaceSeparators_eq]
  simp only [CodeSet.contains, CodeSet.mem, List.any_cons, List.any_nil, Bool.or_false,
    Bool.or_eq_true, Bool.and_eq_true, decide_eq_true_eq]
  omega

/-- Selections are trimmed of what a browser takes off, and of one character more. -/
theorem isSelectionBlank_eq (c : Char) :
    isSelectionBlank c = (isBrowserBlank c || c = nextLine) := by
  have hnext : c = nextLine ↔ c.toNat = 0x85 := Char.toNat_inj.symm
  rw [Bool.eq_iff_iff]
  simp only [isSelectionBlank, isWhiteSpace, isBrowserBlank, Bool.or_eq_true, Bool.and_eq_true,
    decide_eq_true_eq, contains_spaceSeparators_iff, hnext]
  omega

/-! ### Selections -/

/-- A selection trimmed of a browser's blanks is the trimmed selection unless it begins or ends
with the character for the next line. -/
theorem Trimmed.trimSelection_eq_iff {t r : Text} (h : Trimmed isBrowserBlank t r) :
    trimSelection t = r ↔ r.head? ≠ some nextLine ∧ r.getLast? ≠ some nextLine := by
  have hnext : isSelectionBlank nextLine = true := by decide
  constructor
  · intro heq
    have htrimmed : Trimmed isSelectionBlank t r := trimmed_iff.2 heq.symm
    constructor
    · intro hfirst
      rw [htrimmed.head nextLine hfirst] at hnext
      simp at hnext
    · intro hfinal
      rw [htrimmed.last nextLine hfinal] at hnext
      simp at hnext
  · rintro ⟨hfirst, hfinal⟩
    obtain ⟨⟨front, back, hcut, hfront, hback⟩, hhead, hlast⟩ := h
    -- At the ends of `r` the two classes agree.
    have hkept (c : Char) (hc : isBrowserBlank c = false) (hne : c ≠ nextLine) :
        isSelectionBlank c = false := by
      simp [isSelectionBlank_eq, hc, hne]
    have htrimmed : Trimmed isSelectionBlank t r := by
      refine ⟨⟨front, back, hcut, fun c hc => ?_, fun c hc => ?_⟩, fun c hc => ?_, fun c hc => ?_⟩
      · simp [isSelectionBlank_eq, hfront c hc]
      · simp [isSelectionBlank_eq, hback c hc]
      · refine hkept c (hhead c hc) ?_
        rintro rfl
        exact hfirst hc
      · refine hkept c (hlast c hc) ?_
        rintro rfl
        exact hfinal hc
    exact (trimmed_iff.1 htrimmed).symm

/-- **What is taken off a selection.** These are the blanks of a browser and the character for
the next line, as many as stand at the two ends, and nothing else. So the result is that of a
browser exactly if the browser's neither begins nor ends with that character. -/
theorem selection_trimmed (t : Text) :
    (∀ r, Trimmed (fun c => isBrowserBlank c || c = nextLine) t r ↔ r = trimSelection t) ∧
      ∃ r, Trimmed isBrowserBlank t r ∧ (∀ r', Trimmed isBrowserBlank t r' → r' = r) ∧
        (trimSelection t = r ↔ r.head? ≠ some nextLine ∧ r.getLast? ≠ some nextLine) := by
  have hclass : (fun c => isBrowserBlank c || decide (c = nextLine)) = isSelectionBlank :=
    funext fun c => (isSelectionBlank_eq c).symm
  have htrimmed := trimmed_trimWhere isBrowserBlank t
  refine ⟨fun r => ?_, _, htrimmed, fun r' => trimmed_iff.1, htrimmed.trimSelection_eq_iff⟩
  rw [hclass]
  exact trimmed_iff

/-- Inside of a selection the character for the next line stays, and does not matter. -/
theorem selection_trimmed_inside :
    Trimmed isBrowserBlank "\ufeff a\u0085b\u3000\t".toList "a\u0085b".toList ∧
      trimSelection "\ufeff a\u0085b\u3000\t".toList = "a\u0085b".toList := by
  have hbrowser : Trimmed isBrowserBlank "\ufeff a\u0085b\u3000\t".toList "a\u0085b".toList :=
    trimmed_iff.2 (by decide +kernel)
  obtain ⟨-, r, -, hunique, hiff⟩ := selection_trimmed "\ufeff a\u0085b\u3000\t".toList
  obtain rfl := hunique _ hbrowser
  exact ⟨hbrowser, hiff.2 (by decide)⟩

/-- At the start of a selection the character for the next line is taken off, where a browser
leaves it. -/
theorem selection_trimmed_nextLine :
    Trimmed isBrowserBlank "\u0085a".toList "\u0085a".toList ∧
      trimSelection "\u0085a".toList = "a".toList :=
  ⟨trimmed_iff.2 (by decide +kernel), by decide⟩

end SearchLink.Text
