import SearchLink.Engine
import SearchLink.Proofs.Template.KnownNames
import SearchLink.Proofs.Template.Scanner
import SearchLink.Proofs.Template.SchemeRule

/-!
# `SearchLink.Proofs.Template.SchemeKept`: a safe scheme stays in front

`hasSafeScheme` looks at the lower-case form of a template, and substitution works on the
template itself. This module shows that what was checked is what comes out.

* `exists_httpScheme_of_hasSafeScheme`: a template that holds `://` and is safe begins with
  `http://` or `https://` in some spelling of ASCII letters. No other characters have a
  lower-case form that begins like that (`hasSafeScheme_eq`).
* `substituteAll_append_of_no_brace`: a beginning without braces comes out as it stands,
  whatever is filled in behind it.
* `HttpScheme.hasSafeScheme_append`: every text that begins with such a spelling is safe.
-/

set_option autoImplicit false

namespace SearchLink.Template

/-! ### What the check has seen -/

/-- The spellings of `http://` and `https://`. -/
def HttpScheme (scheme : Text) : Prop :=
  Unicode.asciiLower scheme = "http://".toList ∨ Unicode.asciiLower scheme = "https://".toList

instance (scheme : Text) : Decidable (HttpScheme scheme) :=
  inferInstanceAs (Decidable (_ ∨ _))

/-- A text whose letters of ASCII are such a spelling at the beginning begins with one. -/
theorem exists_httpScheme_of_startsWith {word t : Text}
    (hword : word = "http://".toList ∨ word = "https://".toList)
    (h : Text.startsWith word (Unicode.asciiLower t) = true) :
    ∃ scheme rest, t = scheme ++ rest ∧ HttpScheme scheme := by
  obtain ⟨s, hs⟩ := Text.startsWith_iff.1 h
  obtain ⟨scheme, rest, hsplit, hscheme, -⟩ := List.map_eq_append_iff.1 hs.symm
  refine ⟨scheme, rest, hsplit, ?_⟩
  rw [HttpScheme, Unicode.asciiLower, hscheme]
  exact hword

/-- Every text that begins with such a spelling is safe. -/
theorem HttpScheme.hasSafeScheme_append {scheme : Text} (h : HttpScheme scheme) (rest : Text) :
    hasSafeScheme (scheme ++ rest) = true := by
  have hsplit : Unicode.asciiLower (scheme ++ rest)
      = Unicode.asciiLower scheme ++ Unicode.asciiLower rest := List.map_append
  have hstarts : Text.startsWith "http://".toList (Unicode.asciiLower (scheme ++ rest)) = true ∨
      Text.startsWith "https://".toList (Unicode.asciiLower (scheme ++ rest)) = true := by
    rw [Text.startsWith_iff, Text.startsWith_iff, hsplit]
    rcases h with h | h
    · exact .inl (h ▸ List.prefix_append _ _)
    · exact .inr (h ▸ List.prefix_append _ _)
  rw [hasSafeScheme_eq]
  split
  · rwa [Bool.or_eq_true]
  · rfl

/-- A safe template that holds `://` begins with a spelling of `http://` or `https://`, and with
this spelling every text is safe. -/
theorem exists_httpScheme_of_hasSafeScheme {template : Text}
    (hslashes : Text.occursIn "://".toList template = true)
    (hsafe : hasSafeScheme template = true) :
    ∃ scheme rest, template = scheme ++ rest ∧ HttpScheme scheme ∧
      ∀ rest', hasSafeScheme (scheme ++ rest') = true := by
  simp only [hasSafeScheme_eq, hslashes, Bool.true_or, if_true, Bool.or_eq_true] at hsafe
  obtain ⟨scheme, rest, hsplit, hscheme⟩ :
      ∃ scheme rest, template = scheme ++ rest ∧ HttpScheme scheme := by
    rcases hsafe with hstarts | hstarts
    · exact exists_httpScheme_of_startsWith (.inl rfl) hstarts
    · exact exists_httpScheme_of_startsWith (.inr rfl) hstarts
  exact ⟨scheme, rest, hsplit, hscheme, hscheme.hasSafeScheme_append⟩

/-! ### What substitution leaves alone -/

section
variable (registry : Registry) (encode : Bool)

/-- A walk copies a beginning without braces and keeps all entries. -/
theorem scan_append_of_no_brace (active : List (Text × Text)) {front : Text} (t : Text)
    (hfront : '{' ∉ front) :
    scan registry encode active (front ++ t) = front ++ scan registry encode active t := by
  induction front with
  | nil => rfl
  | cons c front ih =>
    obtain ⟨hc, hrest⟩ := not_or.1 (mt List.mem_cons.2 hfront)
    have hopens : ∀ e : Text × Text, opensHere e.1 (c :: (front ++ t)) = false :=
      fun _ => opensHere_eq_false_of_ne (Ne.symm hc)
    have hfound : firstHere? Prod.fst (c :: (front ++ t)) active = none := by
      rw [← firstHere?_filter_opensHere]
      simp [hopens, firstHere?]
    have hkept : (active.filter fun e => !opensHere e.1 (c :: (front ++ t))) = active := by
      simp [hopens]
    rw [List.cons_append, scan_cons registry encode hfound, hkept, ih hrest, List.cons_append]

/-- A beginning without braces comes out as it stands. -/
theorem substituteAll_append_of_no_brace (values : List (Text × Text)) {front : Text} (t : Text)
    (hfront : '{' ∉ front) :
    substituteAll registry (front ++ t) values encode
      = front ++ substituteAll registry t values encode := by
  rw [substituteAll_eq_fillPieces, substituteAll_eq_fillPieces, fillPieces_plan, fillPieces_plan,
    scan_append_of_no_brace registry encode values t hfront]

end

/-- No spelling of a safe scheme holds a brace. -/
theorem HttpScheme.no_brace {scheme : Text} (h : HttpScheme scheme) : '{' ∉ scheme := by
  intro hbrace
  have hlower : '{' ∈ Unicode.asciiLower scheme := List.mem_map.2 ⟨'{', hbrace, rfl⟩
  rcases h with h | h
  · rw [h] at hlower
    exact absurd hlower (by decide)
  · rw [h] at hlower
    exact absurd hlower (by decide)

/-! ### The scheme of a URL -/

/-- **A safe scheme is kept.** The template of an engine that holds `://` and is safe begins
with a spelling of `http://` or `https://`. Whatever the selection, with a page or without one,
the URL begins with the very same characters and is safe. -/
theorem buildUrl_keeps_scheme (e : Engine)
    (hslashes : Text.occursIn "://".toList e.template = true)
    (hsafe : hasSafeScheme e.template = true) :
    ∃ scheme rest, e.template = scheme ++ rest ∧ HttpScheme scheme ∧
      ∀ (selection : Text) (page : Option Page),
        (∃ rest', e.buildUrl selection page = scheme ++ rest') ∧
        hasSafeScheme (e.buildUrl selection page) = true := by
  obtain ⟨scheme, rest, htemplate, hscheme, hkept⟩ :=
    exists_httpScheme_of_hasSafeScheme hslashes hsafe
  refine ⟨scheme, rest, htemplate, hscheme, ?_⟩
  intro selection page
  have hurl : e.buildUrl selection page
      = scheme ++ substituteAll .standard rest (Engine.values selection page) e.encode := by
    rw [Engine.buildUrl, htemplate]
    exact substituteAll_append_of_no_brace _ _ _ rest hscheme.no_brace
  exact ⟨⟨_, hurl⟩, hurl ▸ hkept _⟩

/-- The capitals of `HTTPS://` are kept, and a selection that is not encoded cannot put another
scheme in front of them. -/
theorem buildUrl_keeps_scheme_capitals :
    ∃ rest, Engine.buildUrl
        ⟨['e'], ['E'], "HTTPS://\x7bsearchTerms(disableuriencoding)\x7d".toList, none, true⟩
        "javascript:alert(1)".toList none = "HTTPS://".toList ++ rest := by
  obtain ⟨scheme, rest, htemplate, hscheme, hkept⟩ := buildUrl_keeps_scheme
    ⟨['e'], ['E'], "HTTPS://\x7bsearchTerms(disableuriencoding)\x7d".toList, none, true⟩
    (by decide +kernel) (by decide +kernel)
  obtain ⟨rest', hurl⟩ := (hkept "javascript:alert(1)".toList none).1
  -- Of the beginnings with seven and eight characters only the longer one is a scheme.
  have hfront : scheme = List.take scheme.length (scheme ++ rest) := List.take_left.symm
  rw [← htemplate] at hfront
  have hlength : scheme.length = 7 ∨ scheme.length = 8 := by
    have hmap : (Unicode.asciiLower scheme).length = scheme.length := List.length_map _
    rcases hscheme with h | h
    · exact .inl (hmap.symm.trans (congrArg List.length h))
    · exact .inr (hmap.symm.trans (congrArg List.length h))
  rcases hlength with hseven | height
  · rw [hseven] at hfront
    rw [hfront] at hscheme
    exact absurd hscheme (by decide)
  · rw [height] at hfront
    exact ⟨rest', by rw [hurl, hfront]; rfl⟩

end SearchLink.Template
