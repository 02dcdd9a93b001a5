import Mathlib.Data.List.Basic
import SearchLink.Proofs.Regex.SetMatch
import SearchLink.Proofs.Template.PatternFlags
import SearchLink.Proofs.Text.Percent
import SearchLink.Proofs.Unicode.CodeSet
import SearchLink.Template.Apply

/-!
# `SearchLink.Proofs.Template.ShorthandClass`: a shorthand as a whole pattern

`\d`, `\D`, `\w` and `\W` are written out as ASCII classes before the pattern is read. The reader
still closes each class under letter case where the flag `i` is set, and it knows the cases of all
scripts. `foldClosure_asciiWord` shows what that comes to: two characters outside of ASCII are
letters of a word then, the long s and the Kelvin sign, and `\W` leaves them out.

`regexMatch_shorthand` says for every set of flags what a match with a shorthand keeps: the
characters of the ASCII class, up to these two. `regexMatch_shorthand_differs` is a text in which
they stand.
-/

set_option autoImplicit false

namespace SearchLink.Template

open SearchLink.Regex (parse? isWordChar keepWhere)
open SearchLink.Unicode (CodeSet)
open SearchLink.Unicode.CodeSet (Proper contains_complement)

/-! ### The classes and their cases -/

/-- The digits of ASCII. -/
def asciiDigits : CodeSet := [(48, 57)]

/-- The word characters of ASCII. -/
def asciiWord : CodeSet := [(48, 57), (65, 90), (95, 95), (97, 122)]

/-- Whether a character outside of ASCII is a letter of ASCII in another case: the long s and the
Kelvin sign. -/
def isStrayLetter (c : Char) : Bool := c = 'ſ' || c = '\u212a'

theorem contains_asciiDigits (c : Char) : asciiDigits.contains c = c.isDigit := by
  rw [Bool.eq_iff_iff, Char.isDigit_iff_toNat]
  simp [asciiDigits, CodeSet.contains, CodeSet.mem]

theorem contains_asciiWord (c : Char) : asciiWord.contains c = isWordChar false c := by
  have hunderscore : c = '_' ↔ c.toNat = 95 :=
    ⟨fun h => by rw [h]; rfl, fun h => Char.toNat_inj.1 h⟩
  rw [Bool.eq_iff_iff]
  simp only [isWordChar, Bool.false_eq_true, if_false, Bool.or_eq_true, decide_eq_true_eq,
    Text.isAlphanum_iff_toNat, hunderscore]
  simp only [asciiWord, CodeSet.contains, CodeSet.mem, List.any_cons, List.any_nil, Bool.or_false,
    Bool.or_eq_true, Bool.and_eq_true, decide_eq_true_eq]
  omega

/-- No digit has another case. -/
theorem foldClosure_asciiDigits : Unicode.foldClosure asciiDigits = asciiDigits := by
  decide +kernel

/-- Two characters outside of ASCII have a letter of ASCII as another case. -/
theorem foldClosure_asciiWord :
    Unicode.foldClosure asciiWord
      = asciiWord ++ (CodeSet.single 'ſ'.toNat ++ CodeSet.single '\u212a'.toNat) := by
  decide +kernel

/-! ### Shorthands -/

/-- Characters that are neither a backslash nor a bracket are copied. -/
theorem narrowShorthands_cons {c : Char} (hc : c ∉ ['\\', '[', ']']) (inClass : Bool) (r : Text) :
    narrowShorthands inClass (c :: r) = c :: narrowShorthands inClass r := by
  simp only [List.mem_cons, List.not_mem_nil, or_false, not_or] at hc
  obtain ⟨hescape, hopen, hclose⟩ := hc
  rw [narrowShorthands]
  · rintro rfl
    exact absurd rfl hescape
  · rintro d r rfl
    exact absurd rfl hescape
  · exact hopen
  · exact hclose

/-- One of the shorthands for digits and word characters. -/
structure Shorthand where
  /-- Whether it stands for word characters rather than for digits. -/
  word : Bool
  /-- Whether it stands for all other characters instead. -/
  negated : Bool
  deriving Repr, DecidableEq

namespace Shorthand

/-- A shorthand as a pattern: `\d`, `\D`, `\w` or `\W`. -/
def source : Shorthand → Text
  | ⟨false, false⟩ => ['\\', 'd']
  | ⟨false, true⟩ => ['\\', 'D']
  | ⟨true, false⟩ => ['\\', 'w']
  | ⟨true, true⟩ => ['\\', 'W']

/-- Whether a character belongs to the ASCII class of a shorthand. -/
def has (s : Shorthand) (c : Char) : Bool :=
  s.negated != if s.word then isWordChar false c else c.isDigit

/-- What the reader makes of the class of a shorthand, before it complements it. -/
def base (s : Shorthand) (ignoreCase : Bool) : CodeSet :=
  let written := if s.word then asciiWord else asciiDigits
  if ignoreCase then Unicode.foldClosure written else written

/-- What the reader makes of a shorthand. -/
def set (s : Shorthand) (ignoreCase : Bool) : CodeSet :=
  if s.negated then (s.base ignoreCase).complement else s.base ignoreCase

/-- The ASCII class is kept, but for the letters that case brings into words. -/
theorem contains_base (s : Shorthand) (ignoreCase : Bool) (c : Char) :
    (s.base ignoreCase).contains c
      = if s.word then isWordChar false c || (ignoreCase && isStrayLetter c) else c.isDigit := by
  obtain ⟨word, negated⟩ := s
  cases word with
  | false => simp [base, foldClosure_asciiDigits, contains_asciiDigits]
  | true =>
    cases ignoreCase with
    | false => simp [base, contains_asciiWord]
    | true =>
      simp only [base, if_true, foldClosure_asciiWord, CodeSet.contains_append,
        CodeSet.contains_single, contains_asciiWord, isStrayLetter, Bool.true_and]

theorem contains_set (s : Shorthand) (ignoreCase : Bool) (c : Char) :
    (s.set ignoreCase).contains c
      = (s.negated !=
          if s.word then isWordChar false c || (ignoreCase && isStrayLetter c) else c.isDigit) := by
  -- The ranges of both classes rise, whether letter case has added some or not.
  have hproper : Proper (s.base ignoreCase) := by
    obtain ⟨word, negated⟩ := s
    revert word negated ignoreCase
    decide +kernel
  rw [← contains_base, set]
  cases s.negated with
  | false => simp
  | true => simp [contains_complement hproper]

/-- A shorthand is written out as a class, and the class is read as its set. Of the flags only
`ignoreCase` enters. -/
theorem parse?_source (s : Shorthand) (ignoreCase lines dots : Bool) :
    parse? { caseInsensitive := ignoreCase, multiLine := lines, dotAll := dots }
        (narrowShorthands false s.source)
      = some (.set (s.set ignoreCase)) := by
  obtain ⟨word, negated⟩ := s
  cases word <;> cases negated <;> rfl

theorem fits_set (s : Shorthand) (ignoreCase : Bool) :
    (Regex.Expr.set (s.set ignoreCase)).fits = true := by
  obtain ⟨word, negated⟩ := s
  revert word negated ignoreCase
  decide +kernel

end Shorthand

/-! ### A shorthand as a pattern -/

section
variable {flags : Text} (hnodup : flags.Nodup) (hflags : ∀ f ∈ flags, f ∈ ['g', 'i', 'm', 's', 'd'])
include hnodup hflags

/-- The flags without `u` and `v` are read. -/
theorem readFlags?_of_plain :
    readFlags? flags
      = some
          { caseInsensitive := flags.contains 'i'
            multiLine := flags.contains 'm'
            dotAll := flags.contains 's' } := by
  have hplain : (['g', 'i', 'm', 's', 'd'] : Text) ⊆ flagLetters := by simp [flagLetters]
  have hknown : ∀ f ∈ flags, f ∈ flagLetters := fun f hf => hplain (hflags f hf)
  simpa [addLetters] using readFlags?_of_known hnodup hknown

/-- A match with a shorthand keeps the members of its set. -/
theorem matchPattern_source (s : Shorthand) (t : Text) :
    matchPattern s.source flags t = keepWhere (s.set (flags.contains 'i')).contains t := by
  rw [matchPattern, compilePattern?, readFlags?_of_plain hnodup hflags, Option.bind_some,
    Regex.compile?_of_set (s.parse?_source _ _ _) (s.fits_set _)]
  exact Regex.keepMatches_ofSet _ t

/-- **Shorthands and flags.** Take flags among `g`, `i`, `m`, `s` and `d` without repetition. A
match with a shorthand keeps the characters of its ASCII class, or the whole text if it has none of
them, as long as digits are asked for, the flag `i` is not set, or the text has neither a long s
nor a Kelvin sign. Under the flag `i` these two count as word characters. -/
theorem regexMatch_shorthand (s : Shorthand) (registry : Registry) (t : Text) :
    (s.word = false ∨ 'i' ∉ flags ∨ (∀ c ∈ t, isStrayLetter c = false) →
      Modification.apply registry t (.regexMatch s.source flags) = keepWhere s.has t) ∧
    (s.word = true → 'i' ∈ flags →
      Modification.apply registry t (.regexMatch s.source flags)
        = keepWhere (fun c => s.negated != (isWordChar false c || isStrayLetter c)) t) := by
  have happly : Modification.apply registry t (.regexMatch s.source flags)
      = keepWhere (s.set (flags.contains 'i')).contains t := matchPattern_source hnodup hflags s t
  rw [happly]
  constructor
  · intro hplain
    refine Regex.keepWhere_congr fun c hc => ?_
    rw [Shorthand.contains_set, Shorthand.has]
    obtain hword | hi | hstray := hplain
    · simp [hword]
    · simp [hi]
    · simp [hstray c hc]
  · intro hword hi
    refine Regex.keepWhere_congr fun c _ => ?_
    simp [Shorthand.contains_set, hword, hi]

end

/-- Flags other than `i` leave `\w` as it is written, and the flag `i` lets a long s in. -/
theorem regexMatch_shorthand_word :
    Modification.apply Registry.standard "a-ſ1".toList (.regexMatch "\\w".toList ['g', 's', 'd'])
        = "a1".toList ∧
      Modification.apply Registry.standard "a-ſ1".toList (.regexMatch "\\w".toList ['m', 'i'])
        = "aſ1".toList := by
  have hplain : ∀ f ∈ ['g', 's', 'd'], f ∈ ['g', 'i', 'm', 's', 'd'] := by simp
  have hcase : ∀ f ∈ ['m', 'i'], f ∈ ['g', 'i', 'm', 's', 'd'] := by simp
  have hi : 'i' ∉ ['g', 's', 'd'] := by decide
  have hkept := (regexMatch_shorthand (by decide) hplain ⟨true, false⟩ Registry.standard
    "a-ſ1".toList).1 (.inr (.inl hi))
  have hadded := (regexMatch_shorthand (by decide) hcase ⟨true, false⟩ Registry.standard
    "a-ſ1".toList).2 rfl (by decide)
  exact ⟨hkept.trans (by decide), hadded.trans (by decide)⟩

/-- Under the flag `i` a match with `\w` keeps a long s and a Kelvin sign, which are not in its
class, and a match with `\W` drops them. -/
theorem regexMatch_shorthand_differs :
    (Modification.apply Registry.standard "aſ\u212a1".toList (.regexMatch "\\w".toList ['i'])
        = "aſ\u212a1".toList ∧
      keepWhere (Shorthand.has ⟨true, false⟩) "aſ\u212a1".toList = "a1".toList) ∧
    Modification.apply Registry.standard "a ſ".toList (.regexMatch "\\W".toList ['i'])
        = " ".toList ∧
      keepWhere (Shorthand.has ⟨true, true⟩) "a ſ".toList = " ſ".toList := by
  decide +kernel

end SearchLink.Template
