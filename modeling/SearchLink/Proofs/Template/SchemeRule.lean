import Mathlib
import SearchLink.Proofs.Text.Percent
import SearchLink.Proofs.Unicode.LowerCase
import SearchLink.Template.Lint
import SearchLink.Url.Parser

/-!
# `SearchLink.Proofs.Template.SchemeRule`: which templates have an unsafe scheme

A text names a scheme when it begins with a letter and goes on with letters, digits, `+`, `-` and
`.` up to a colon (`NamesScheme`). That is how a URL is read, too (`namesScheme_iff_cutScheme?`).
`hasSafeScheme` does not read a scheme. It looks for `://` anywhere in the lower-case form of a
template and compares the beginning with five words.

* `hasSafeScheme_eq`: for all that, the lower-case forms of letters outside of ASCII do not matter.
* `hasSafeScheme_eq_false_iff`: what the comparisons come to, said with schemes.
* `schemeRule`: templates in which `://` stands behind the scheme are judged by their scheme.
* `schemeRule_fails`: others are not. A scheme without slashes passes unless it is one of three,
  and a template without any scheme is refused for a `://` in its query.
-/

set_option autoImplicit false

namespace SearchLink.Template

open SearchLink.Url (isSchemeChar cutScheme?)
open SearchLink.Unicode (asciiLower)

/-! ### The check without other scripts -/

/-- Two slashes have no other spelling. -/
theorem startsWith_slashes_asciiLower (t : Text) :
    Text.startsWith ['/', '/'] (asciiLower t) = Text.startsWith ['/', '/'] t := by
  have hslash : ∀ c : Char, (c.toLower = '/') = (c = '/') := fun c =>
    propext ⟨Unicode.eq_of_toLower_eq (by decide), fun h => by rw [h]; rfl⟩
  match t with
  | [] => rfl
  | [c] => simp [asciiLower, Text.startsWith, Text.stripStart?, eq_comm (a := '/'), hslash]
  | c :: d :: r =>
    simp [asciiLower, Text.startsWith, Text.stripStart?, eq_comm (a := '/'), hslash, apply_ite]

/-- The marks `://` are in the lower-case form of a text if and only if they are in the text. -/
theorem occursIn_lowerText (t : Text) :
    Text.occursIn "://".toList (Unicode.lowerText t) = Text.occursIn "://".toList t := by
  have hmarks : Unicode.isOwnLower ':' = true ∧ Unicode.spelledInAscii ['/', '/'] = true := by
    decide +kernel
  rw [Bool.eq_iff_iff, Text.occursIn_iff, Text.occursIn_iff]
  constructor
  · rintro ⟨a, b, hab⟩
    -- The colon is one of the text, and the slashes behind it are found like any word.
    have hcolon : Unicode.lowerText t = a ++ ':' :: (['/', '/'] ++ b) := by
      rw [← hab, List.append_assoc]
      rfl
    obtain ⟨front, rest, rfl, hrest⟩ := Unicode.exists_of_lowerFrom_eq_append hmarks.1 hcolon
    have hslashes : Text.startsWith ['/', '/'] rest = true := by
      rw [← startsWith_slashes_asciiLower, ← Unicode.startsWith_lowerFrom hmarks.2, ← hrest]
      exact Text.startsWith_iff.2 (List.prefix_append _ _)
    obtain ⟨rest', rfl⟩ := Text.startsWith_iff.1 hslashes
    exact ⟨front, rest', by simp⟩
  · rintro ⟨a, b, rfl⟩
    obtain ⟨front, hfront⟩ := Unicode.exists_lowerFrom_append [] a ("://".toList ++ b)
    rw [Unicode.lowerFrom_append_of_ascii b (by decide), ← List.append_assoc,
      ← List.append_assoc] at hfront
    rw [Unicode.lowerText, hfront]
    exact List.infix_append _ _ _

/-- The check, said with the letters of ASCII alone. -/
theorem hasSafeScheme_eq (t : Text) :
    hasSafeScheme t =
      if Text.occursIn "://".toList t || Text.startsWith "javascript:".toList (asciiLower t) ||
          Text.startsWith "data:".toList (asciiLower t) ||
          Text.startsWith "file:".toList (asciiLower t) then
        Text.startsWith "http://".toList (asciiLower t) ||
          Text.startsWith "https://".toList (asciiLower t)
      else true := by
  have hwords : (["javascript:", "data:", "file:", "http://", "https://"].all fun word =>
      Unicode.spelledInAscii word.toList) = true := by
    decide +kernel
  simp only [List.all_cons, List.all_nil, Bool.and_eq_true, Bool.and_true] at hwords
  obtain ⟨hjavascript, hdata, hfile, hhttp, hhttps⟩ := hwords
  rw [hasSafeScheme, occursIn_lowerText]
  simp only [Unicode.lowerText, Unicode.startsWith_lowerFrom hjavascript,
    Unicode.startsWith_lowerFrom hdata, Unicode.startsWith_lowerFrom hfile,
    Unicode.startsWith_lowerFrom hhttp, Unicode.startsWith_lowerFrom hhttps]

/-! ### Schemes -/

/-- A text begins with a letter, goes on with letters, digits, `+`, `-` and `.`, and has a rest
behind a colon. The scheme that it names is given in lower case. -/
def NamesScheme (t scheme rest : Text) : Prop :=
  ∃ first more, t = first :: more ++ ':' :: rest ∧ first.isAlpha = true ∧
    more.all isSchemeChar = true ∧ asciiLower (first :: more) = scheme

/-- A letter may stand in a scheme. -/
theorem isSchemeChar_of_isAlpha {c : Char} (h : c.isAlpha = true) : isSchemeChar c = true := by
  simp [isSchemeChar, Char.isAlphanum, h]

/-- A character may stand in a scheme whether it is a capital or not. -/
theorem isSchemeChar_toLower (c : Char) : isSchemeChar c.toLower = isSchemeChar c := by
  by_cases hcapital : c.isUpper = true
  · have hletter : c.isAlpha = true := by simp [Char.isAlpha, hcapital]
    have hsmall : c.toLower.isAlpha = true := by rwa [Char.isAlpha_toLower_eq_isAlpha]
    rw [isSchemeChar_of_isAlpha hletter, isSchemeChar_of_isAlpha hsmall]
  · rw [Char.toLower_eq_of_not_isUpper hcapital]

/-- A URL has the scheme that its text names. -/
theorem namesScheme_iff_cutScheme? {t scheme rest : Text} :
    NamesScheme t scheme rest ↔ cutScheme? t = some (scheme, rest) := by
  constructor
  · rintro ⟨first, more, rfl, hfirst, hmore, rfl⟩
    have hword : ∀ c ∈ first :: more, isSchemeChar c = true :=
      List.forall_mem_cons.2 ⟨isSchemeChar_of_isAlpha hfirst, List.all_eq_true.1 hmore⟩
    have hcolon : isSchemeChar ':' = false := by decide
    have hdrop : (first :: more ++ ':' :: rest).dropWhile isSchemeChar = ':' :: rest := by
      rw [List.dropWhile_append_of_pos hword, List.dropWhile_cons_of_neg (by simp [hcolon])]
    have htake : (first :: more ++ ':' :: rest).takeWhile isSchemeChar = first :: more := by
      rw [List.takeWhile_append_of_pos hword, List.takeWhile_cons_of_neg (by simp [hcolon]),
        List.append_nil]
    rw [List.cons_append] at hdrop htake ⊢
    simp only [cutScheme?, hdrop, htake, hfirst, if_true]
    rfl
  · intro h
    unfold cutScheme? at h
    split at h
    · rename_i first more rest' hdrop
      split at h
      · rename_i hfirst
        simp only [Option.some.injEq, Prod.mk.injEq] at h
        obtain ⟨rfl, rfl⟩ := h
        have hsplit := List.takeWhile_append_dropWhile (p := isSchemeChar) (l := first :: more)
        rw [hdrop] at hsplit
        rw [List.takeWhile_cons_of_pos (isSchemeChar_of_isAlpha hfirst)] at hsplit ⊢
        exact ⟨first, _, hsplit.symm, hfirst, List.all_takeWhile, rfl⟩
      · simp at h
    · simp at h

/-- A text names one scheme. -/
theorem NamesScheme.unique {t scheme scheme' rest rest' : Text} (h : NamesScheme t scheme rest)
    (h' : NamesScheme t scheme' rest') : scheme = scheme' ∧ rest = rest' := by
  have heq := (namesScheme_iff_cutScheme?.1 h).symm.trans (namesScheme_iff_cutScheme?.1 h')
  simpa using heq

/-- Whether a word can be a scheme. -/
def isSchemeWord : Text → Bool
  | [] => false
  | first :: more => first.isAlpha && more.all isSchemeChar

/-- A word with a colon and a tail begins the text in some case if and only if the text names the
word as its scheme, with the tail behind it. -/
theorem startsWith_asciiLower_iff {word : Text} (hword : isSchemeWord word = true)
    (tail t : Text) :
    Text.startsWith (word ++ ':' :: tail) (asciiLower t) = true ↔
      ∃ rest, NamesScheme t word rest ∧ Text.startsWith tail (asciiLower rest) = true := by
  rw [Text.startsWith_iff]
  constructor
  · rintro ⟨s, hs⟩
    have hcut : asciiLower t = word ++ ':' :: (tail ++ s) := by
      rw [← hs, List.append_assoc]
      rfl
    obtain ⟨written, behind, rfl, hwritten, hbehind⟩ := List.map_eq_append_iff.1 hcut
    obtain ⟨c, rest, rfl, hc, hrest⟩ := List.map_eq_cons_iff.1 hbehind
    -- The colon has no other spelling, and what stands in front of it is the word in some case.
    obtain rfl : c = ':' := Unicode.eq_of_toLower_eq (by decide) hc
    refine ⟨rest, ?_, Text.startsWith_iff.2 ⟨s, hrest.symm⟩⟩
    subst hwritten
    cases written with
    | nil => simp [isSchemeWord] at hword
    | cons first more =>
      simp only [List.map_cons, isSchemeWord, Bool.and_eq_true, Char.isAlpha_toLower_eq_isAlpha,
        List.all_map, Function.comp_def, isSchemeChar_toLower] at hword
      exact ⟨first, more, rfl, hword.1, hword.2, rfl⟩
  · rintro ⟨rest, ⟨first, more, rfl, -, -, rfl⟩, htail⟩
    obtain ⟨s, hs⟩ := Text.startsWith_iff.1 htail
    refine ⟨s, ?_⟩
    simp only [asciiLower, List.map_append, List.map_cons] at hs ⊢
    rw [← hs]
    simp

/-! ### The rule -/

/-- The schemes that are allowed. -/
def webSchemes : List Text := ["http", "https"].map String.toList

/-- The schemes that are refused even without slashes behind them. -/
def refusedSchemes : List Text := ["javascript", "data", "file"].map String.toList

/-- No scheme is both. -/
theorem not_mem_webSchemes : ∀ scheme ∈ refusedSchemes, scheme ∉ webSchemes := by
  decide

/-- A text names a scheme other than `http` and `https`. -/
def NamesOtherScheme (t : Text) : Prop :=
  ∃ scheme rest, NamesScheme t scheme rest ∧ scheme ∉ webSchemes

/-- Another scheme is named if what is cut off is another one. -/
theorem namesOtherScheme_iff {t : Text} :
    NamesOtherScheme t ↔
      ((cutScheme? t).any fun cut => !webSchemes.contains cut.1) = true := by
  simp only [NamesOtherScheme, namesScheme_iff_cutScheme?, Option.any_eq_true, Prod.exists,
    Bool.not_eq_true', List.contains_eq_mem, decide_eq_false_iff_not]

instance (t : Text) : Decidable (NamesOtherScheme t) :=
  decidable_of_iff _ namesOtherScheme_iff.symm

/-- The comparisons with words that end in a colon look for three schemes. -/
theorem startsWith_refused_iff (t : Text) :
    (Text.startsWith "javascript:".toList (asciiLower t) ||
        Text.startsWith "data:".toList (asciiLower t) ||
        Text.startsWith "file:".toList (asciiLower t)) = true ↔
      ∃ scheme ∈ refusedSchemes, ∃ rest, NamesScheme t scheme rest := by
  have hword : ∀ written word : Text, written = word ++ [':'] →
      isSchemeWord word = true →
      (Text.startsWith written (asciiLower t) = true ↔ ∃ rest, NamesScheme t word rest) := by
    rintro _ word rfl h
    rw [startsWith_asciiLower_iff h]
    simp [Text.startsWith, Text.stripStart?]
  rw [Bool.or_eq_true, Bool.or_eq_true,
    hword "javascript:".toList "javascript".toList rfl (by decide),
    hword "data:".toList "data".toList rfl (by decide),
    hword "file:".toList "file".toList rfl (by decide)]
  simp [refusedSchemes, or_assoc]

/-- The comparisons with words that end in slashes look for the allowed schemes and slashes. -/
theorem startsWith_web_iff (t : Text) :
    (Text.startsWith "http://".toList (asciiLower t) ||
        Text.startsWith "https://".toList (asciiLower t)) = true ↔
      ∃ scheme ∈ webSchemes, ∃ rest, NamesScheme t scheme ('/' :: '/' :: rest) := by
  have hword : ∀ written word : Text, written = word ++ ':' :: ['/', '/'] →
      isSchemeWord word = true → (Text.startsWith written (asciiLower t) = true ↔
        ∃ rest, NamesScheme t word ('/' :: '/' :: rest)) := by
    rintro _ word rfl h
    rw [startsWith_asciiLower_iff h]
    simp only [startsWith_slashes_asciiLower, Text.startsWith_iff]
    constructor
    · rintro ⟨_, hnames, rest, rfl⟩
      exact ⟨rest, hnames⟩
    · rintro ⟨rest, hnames⟩
      exact ⟨_, hnames, rest, rfl⟩
  rw [Bool.or_eq_true, hword "http://".toList "http".toList rfl (by decide),
    hword "https://".toList "https".toList rfl (by decide)]
  simp [webSchemes]

/-- What the comparisons come to: a template is unsafe if it names one of three schemes, or if it
holds `://` anywhere and does not begin with `http://` or `https://`. -/
theorem hasSafeScheme_eq_false_iff (t : Text) :
    hasSafeScheme t = false ↔
      (∃ scheme ∈ refusedSchemes, ∃ rest, NamesScheme t scheme rest) ∨
      (Text.occursIn "://".toList t = true ∧
        ¬ ∃ scheme ∈ webSchemes, ∃ rest, NamesScheme t scheme ('/' :: '/' :: rest)) := by
  rw [← startsWith_refused_iff, ← startsWith_web_iff]
  -- No refused scheme is an allowed one, so a text that begins with one has no way out.
  have hapart : ¬ (∃ scheme ∈ refusedSchemes, ∃ rest, NamesScheme t scheme rest) ∨
      ¬ ∃ scheme ∈ webSchemes, ∃ rest, NamesScheme t scheme ('/' :: '/' :: rest) := by
    rw [← not_and_or]
    rintro ⟨⟨refused, hrefused, _, hnames⟩, web, hweb, _, hnames'⟩
    obtain ⟨rfl, -⟩ := hnames.unique hnames'
    exact not_mem_webSchemes refused hrefused hweb
  rw [← startsWith_refused_iff, ← startsWith_web_iff] at hapart
  rw [hasSafeScheme_eq, Bool.or_assoc, Bool.or_assoc,
    ← Bool.or_assoc (Text.startsWith "javascript:".toList (asciiLower t))]
  generalize (Text.startsWith "javascript:".toList (asciiLower t) || _ || _) = refused at *
  generalize (Text.startsWith "http://".toList (asciiLower t) || _) = web at *
  cases refused with
  | true =>
    have hweb : web = false := by simpa using hapart
    simp [hweb]
  | false =>
    -- Only the marks can get such a text refused, and only an allowed scheme gets it off.
    cases Text.occursIn "://".toList t <;> simp

/-- The marks `://` stand behind a scheme if they occur, and no scheme goes without them but the
allowed ones and those that are refused in any case. -/
structure SlashesInPlace (t : Text) : Prop where
  /-- A text that holds the marks has them behind its scheme. -/
  behind : Text.occursIn "://".toList t = true →
    ∃ scheme rest, NamesScheme t scheme ('/' :: '/' :: rest)
  /-- Another scheme has slashes behind its colon. -/
  followed : ∀ scheme rest, NamesScheme t scheme rest →
    scheme ∈ webSchemes ∨ scheme ∈ refusedSchemes ∨ ∃ rest', rest = '/' :: '/' :: rest'

/-- Slashes behind a colon are found. -/
theorem NamesScheme.occursIn {t scheme rest : Text}
    (h : NamesScheme t scheme ('/' :: '/' :: rest)) : Text.occursIn "://".toList t = true := by
  obtain ⟨first, more, rfl, -⟩ := h
  exact Text.occursIn_iff.2 ⟨first :: more, rest, by simp⟩

/-- With the marks in place the scheme decides. -/
theorem SlashesInPlace.hasSafeScheme_eq_false_iff {t : Text} (h : SlashesInPlace t) :
    hasSafeScheme t = false ↔ NamesOtherScheme t := by
  rw [Template.hasSafeScheme_eq_false_iff]
  constructor
  · rintro (⟨scheme, hscheme, rest, hnames⟩ | ⟨hoccurs, hweb⟩)
    · exact ⟨scheme, rest, hnames, not_mem_webSchemes scheme hscheme⟩
    · obtain ⟨scheme, rest, hnames⟩ := h.behind hoccurs
      exact ⟨scheme, _, hnames, fun hmem => hweb ⟨scheme, hmem, rest, hnames⟩⟩
  · rintro ⟨scheme, rest, hnames, hother⟩
    obtain hmem | hrefused | ⟨rest', rfl⟩ := h.followed scheme rest hnames
    · exact absurd hmem hother
    · exact .inl ⟨scheme, hrefused, rest, hnames⟩
    · refine .inr ⟨hnames.occursIn, ?_⟩
      rintro ⟨web, hweb, _, hnames'⟩
      obtain ⟨rfl, -⟩ := hnames.unique hnames'
      exact hother hweb

/-- The linter reports what the check refuses. -/
theorem unsafeScheme_mem_lint_iff (t : Text) :
    Issue.unsafeScheme ∈ lint t ↔ hasSafeScheme t = false := by
  cases h : hasSafeScheme t <;> simp [lint, h]

/-- **The scheme rule.** A template is refused, and reported, if and only if it names `javascript`,
`data` or `file`, or holds `://` anywhere without beginning with `http://` or `https://`. Where the
marks `://` stand behind the scheme, and every other scheme has them, these are the templates that
name a scheme other than `http` and `https`. -/
theorem schemeRule (t : Text) :
    (Issue.unsafeScheme ∈ lint t ↔ hasSafeScheme t = false) ∧
    (hasSafeScheme t = false ↔
      (∃ scheme ∈ refusedSchemes, ∃ rest, NamesScheme t scheme rest) ∨
      (Text.occursIn "://".toList t = true ∧
        ¬ ∃ scheme ∈ webSchemes, ∃ rest, NamesScheme t scheme ('/' :: '/' :: rest))) ∧
    (SlashesInPlace t → (hasSafeScheme t = false ↔ NamesOtherScheme t)) :=
  ⟨unsafeScheme_mem_lint_iff t, hasSafeScheme_eq_false_iff t,
    fun h => h.hasSafeScheme_eq_false_iff⟩

/-- The scheme `FTP` is refused, in capitals and with another `://` in its query. -/
theorem schemeRule_capitals :
    SlashesInPlace "FTP://a.com/?u=http://\x7bsearchTerms\x7d".toList ∧
      Issue.unsafeScheme ∈ lint "FTP://a.com/?u=http://\x7bsearchTerms\x7d".toList := by
  have hnames : NamesScheme "FTP://a.com/?u=http://\x7bsearchTerms\x7d".toList "ftp".toList
      "//a.com/?u=http://\x7bsearchTerms\x7d".toList :=
    namesScheme_iff_cutScheme?.2 (by decide)
  have hplace : SlashesInPlace "FTP://a.com/?u=http://\x7bsearchTerms\x7d".toList :=
    ⟨fun _ => ⟨_, _, hnames⟩, fun _ _ h => .inr (.inr ⟨_, (h.unique hnames).2⟩)⟩
  obtain ⟨hlint, -, hrule⟩ := schemeRule "FTP://a.com/?u=http://\x7bsearchTerms\x7d".toList
  exact ⟨hplace, hlint.2 ((hrule hplace).2 (by decide))⟩

/-- A template that names the scheme `mailto` is not refused, and one that names no scheme is
refused for the `://` in its query. -/
theorem schemeRule_fails :
    (NamesOtherScheme "mailto:\x7bsearchTerms\x7d".toList ∧
      hasSafeScheme "mailto:\x7bsearchTerms\x7d".toList = true ∧
      Issue.unsafeScheme ∉ lint "mailto:\x7bsearchTerms\x7d".toList) ∧
    ¬ NamesOtherScheme "/go?u=ftp://x/\x7bsearchTerms\x7d".toList ∧
      hasSafeScheme "/go?u=ftp://x/\x7bsearchTerms\x7d".toList = false ∧
      Issue.unsafeScheme ∈ lint "/go?u=ftp://x/\x7bsearchTerms\x7d".toList := by
  have hmailto : hasSafeScheme "mailto:\x7bsearchTerms\x7d".toList = true := by
    decide +kernel
  have hquery : hasSafeScheme "/go?u=ftp://x/\x7bsearchTerms\x7d".toList = false := by
    decide +kernel
  refine ⟨⟨by decide, hmailto, ?_⟩, by decide, hquery, (unsafeScheme_mem_lint_iff _).2 hquery⟩
  rw [unsafeScheme_mem_lint_iff, hmailto]
  decide

end SearchLink.Template
