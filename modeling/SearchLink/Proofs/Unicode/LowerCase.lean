import Mathlib
import SearchLink.Proofs.Text.Percent
import SearchLink.Unicode.Casing

/-!
# `SearchLink.Proofs.Unicode.LowerCase`: what has a lower-case form in ASCII

The table of lower-case letters sends few characters into ASCII. This module says which ones
have a lower-case form that begins with a given character, for the characters that no capital
outside ASCII leads to (`lowersFromAscii`): the letters `h`, `t`, `p` and `s` are such, and the
marks of URLs and templates. The letters `i` and `k` are not; `İ` and the sign of the kelvin
lead there.

* `lower_cases`: a form comes from a run, from a row of the longer forms, or is the character
  itself.
* `lower_eq_cons`: such a form is one character long, and it is the form that the rule for
  ASCII gives.
* `eq_of_lower_eq_cons`: a mark is the lower-case form of nothing but itself.
* `lowerFrom_append_of_ascii`: a beginning in ASCII follows the rule for ASCII.
* `startsWith_lowerFrom`: so whether the lower-case form of a text begins with a given word can be
  seen from its letters of ASCII, for the words to which no other characters lead
  (`spelledInAscii`). The letter `i` may stand in such a word, unless it is the last one: what
  follows it in the lower-case form of `İ` is no letter of ASCII.
* `exists_of_lowerFrom_eq_append`: a mark in the lower-case form of a text is a mark of the text.
-/

set_option autoImplicit false

namespace SearchLink.Unicode

/-! ### The rule for ASCII -/

/-- A text in the lower case of ASCII stays as it is. -/
theorem asciiLower_asciiLower (t : Text) : asciiLower (asciiLower t) = asciiLower t := by
  simp only [asciiLower, List.map_map, Function.comp_def, Char.toLower_toLower_eq_toLower]

/-- The rule for ASCII leads from capitals to small letters only. -/
theorem eq_of_toLower_eq {c x : Char} (hx : ¬ (0x61 ≤ x.toNat ∧ x.toNat ≤ 0x7a))
    (h : c.toLower = x) : c = x := by
  by_cases hcapital : c.isUpper = true
  · have hsmall : x.isLower = true := by
      rw [← h, Char.isLower_toLower_eq_isAlpha, Char.isAlpha, hcapital, Bool.true_or]
    exact absurd (Text.isLower_iff_toNat.1 hsmall) hx
  · rwa [Char.toLower_eq_of_not_isUpper hcapital] at h

/-- What the rule for ASCII leads to in ASCII comes from ASCII. -/
theorem toNat_lt_of_toLower {c : Char} (h : c.toLower.toNat < 0x80) : c.toNat < 0x80 := by
  by_cases hcapital : c.isUpper = true
  · obtain ⟨-, hhigh⟩ := Text.isUpper_iff_toNat.1 hcapital
    omega
  · rwa [Char.toLower_eq_of_not_isUpper hcapital] at h

/-! ### The table of lower-case letters -/

/-- The run of the capital letters of ASCII. -/
def asciiCapitals : CaseRun := ⟨0x41, 0x5a, 1, 0x61⟩

/-- Whether a code point lies between the first and the last target of a run. -/
def CaseRun.reaches (r : CaseRun) (m : Nat) : Bool :=
  r.target ≤ m && m ≤ r.target + (r.last - r.first)

/-- Whether the lower-case forms that begin with a character of ASCII all come from ASCII: no
run but that of the capitals reaches it, and no longer form begins with it. -/
def lowersFromAscii (x : Char) : Bool :=
  lowerRuns.all (fun r => !r.reaches x.toNat || r = asciiCapitals) &&
    lowerExpansions.all (fun e => e.2.head? ≠ some x.toNat) && 0 < x.toNat && x.toNat < 0x80

/-- The images under a run lie between its first and its last target. -/
theorem CaseRun.reaches_of_image? {r : CaseRun} {n m : Nat} (h : r.image? n = some m) :
    r.reaches m = true := by
  unfold CaseRun.image? at h
  split at h
  · rename_i hcovers
    simp only [Bool.and_eq_true, decide_eq_true_eq] at hcovers
    have hm : r.target + (n - r.first) = m := Option.some.inj h
    simp only [CaseRun.reaches, Bool.and_eq_true, decide_eq_true_eq]
    omega
  · simp at h

/-- The run of the capitals covers the capitals and moves them by 32 code points. -/
theorem image?_asciiCapitals {n m : Nat} :
    asciiCapitals.image? n = some m ↔ 0x41 ≤ n ∧ n ≤ 0x5a ∧ m = n + 32 := by
  unfold CaseRun.image?
  split
  · rename_i hcovers
    simp only [Bool.and_eq_true, decide_eq_true_eq] at hcovers
    simp only [asciiCapitals, Option.some.injEq] at hcovers ⊢
    omega
  · rename_i hcovers
    simp only [Bool.and_eq_true, decide_eq_true_eq, beq_iff_eq] at hcovers
    simp only [asciiCapitals, Nat.mod_one, and_true, reduceCtorEq, false_iff] at hcovers ⊢
    omega

/-- A code point other than 0 is found again in its character. -/
theorem eq_toNat_of_ofNat_eq {m : Nat} {c : Char} (h : Char.ofNat m = c) (hc : 0 < c.toNat) :
    m = c.toNat := by
  have hm := Char.toNat_ofNat m
  rw [h] at hm
  split at hm
  · exact hm.symm
  · -- A number that is no code point stands for the character 0.
    omega

/-- What the run of the capitals gives is what the rule for ASCII gives. -/
theorem toLower_of_image?_asciiCapitals {c : Char} {m : Nat}
    (h : asciiCapitals.image? c.toNat = some m) : c.toLower = Char.ofNat m := by
  obtain ⟨hlow, hhigh, rfl⟩ := image?_asciiCapitals.1 h
  exact Char.toLower_eq_of_isUpper (Text.isUpper_iff_toNat.2 ⟨hlow, hhigh⟩)

/-- A lower-case form comes from a run, from a row of the longer forms, or is the character itself,
which then is no capital of ASCII. -/
theorem lower_cases (c : Char) :
    (∃ r ∈ lowerRuns, ∃ m, r.image? c.toNat = some m ∧ lower c = [Char.ofNat m]) ∨
      (∃ e ∈ lowerExpansions, e.1 = c.toNat ∧ lower c = e.2.map Char.ofNat) ∨
      (lower c = [c] ∧ c.toLower = c) := by
  unfold lower mapCase
  split
  · rename_i m hm
    obtain ⟨r, hr, himage⟩ := List.exists_of_findSome?_eq_some hm
    exact .inl ⟨r, hr, m, himage, rfl⟩
  · rename_i hnone
    split
    · rename_i ms hms
      obtain ⟨front, back, htable, -⟩ := List.lookup_eq_some_iff.1 hms
      have hrow : (c.toNat, ms) ∈ lowerExpansions :=
        htable ▸ List.mem_append_right front List.mem_cons_self
      exact .inr (.inl ⟨_, hrow, rfl, rfl⟩)
    · -- A capital is covered by the run of the capitals.
      refine .inr (.inr ⟨rfl, Char.toLower_eq_of_not_isUpper fun hcapital => ?_⟩)
      obtain ⟨hlow, hhigh⟩ := Text.isUpper_iff_toNat.1 hcapital
      have himage := List.findSome?_eq_none_iff.1 hnone asciiCapitals (by decide)
      rw [image?_asciiCapitals.2 ⟨hlow, hhigh, rfl⟩] at himage
      simp at himage

/-- Whether a character is one of ASCII, and no run but that of the capitals leads to it. -/
def onlyCapitalsReach (x : Char) : Bool :=
  lowerRuns.all (fun r => !r.reaches x.toNat || r = asciiCapitals) && 0 < x.toNat && x.toNat < 0x80

/-- A lower-case form that begins with such a character is the one that the rule for ASCII gives,
or a longer form. -/
theorem lower_eq_cons_cases {c x : Char} {t : Text} (hx : onlyCapitalsReach x = true)
    (h : lower c = x :: t) :
    (t = [] ∧ c.toLower = x) ∨ ∃ e ∈ lowerExpansions, e.2.map Char.ofNat = x :: t := by
  simp only [onlyCapitalsReach, Bool.and_eq_true, List.all_eq_true, Bool.or_eq_true,
    Bool.not_eq_true', decide_eq_true_eq] at hx
  obtain ⟨⟨hruns, hzero⟩, -⟩ := hx
  obtain ⟨r, hr, m, himage, hform⟩ | ⟨e, he, -, hform⟩ | ⟨hform, hsame⟩ := lower_cases c
  · -- Some run leads there, and the only one that reaches `x` is that of the capitals.
    obtain ⟨hchar, ht⟩ := List.cons.inj (hform.symm.trans h)
    rcases hruns r hr with hno | rfl
    · have hreaches := CaseRun.reaches_of_image? himage
      rw [eq_toNat_of_ofNat_eq hchar hzero, hno] at hreaches
      simp at hreaches
    · exact .inl ⟨ht.symm, (toLower_of_image?_asciiCapitals himage).trans hchar⟩
  · exact .inr ⟨e, he, hform.symm.trans h⟩
  · obtain ⟨rfl, ht⟩ := List.cons.inj (hform.symm.trans h)
    exact .inl ⟨ht.symm, hsame⟩

/-- A lower-case form that begins with a character to which all forms lead from ASCII is that
character alone, and the rule for ASCII gives it too. -/
theorem lower_eq_cons {c x : Char} {t : Text} (hx : lowersFromAscii x = true)
    (h : lower c = x :: t) : t = [] ∧ c.toLower = x := by
  simp only [lowersFromAscii, Bool.and_eq_true] at hx
  obtain ⟨⟨⟨hruns, hlong⟩, hzero⟩, hascii⟩ := hx
  have hreach : onlyCapitalsReach x = true := by
    rw [onlyCapitalsReach, hruns, hzero, hascii]
    rfl
  obtain hshort | ⟨e, he, hform⟩ := lower_eq_cons_cases hreach h
  · exact hshort
  · -- No longer form begins with `x`.
    have hne := of_decide_eq_true (List.all_eq_true.1 hlong e he)
    obtain ⟨m, ms, hms⟩ : ∃ m ms, e.2 = m :: ms :=
      List.exists_cons_of_ne_nil fun hnil => by simp [hnil] at hform
    rw [hms, List.map_cons] at hform
    have hcode : m = x.toNat :=
      eq_toNat_of_ofNat_eq (List.cons.inj hform).1 (of_decide_eq_true hzero)
    simp [hms, hcode] at hne

/-- A mark, which is no small letter, is the lower-case form of nothing but itself. -/
theorem eq_of_lower_eq_cons {c x : Char} {t : Text} (hx : lowersFromAscii x = true)
    (hmark : ¬ (0x61 ≤ x.toNat ∧ x.toNat ≤ 0x7a)) (h : lower c = x :: t) : c = x :=
  eq_of_toLower_eq hmark (lower_eq_cons hx h).2

/-! ### Texts -/

/-- No character has an empty lower-case form. -/
theorem lower_ne_nil (c : Char) : lower c ≠ [] := by
  have hlong : (lowerExpansions.all fun e => !e.2.isEmpty) = true := by decide
  obtain ⟨r, -, m, -, hform⟩ | ⟨e, he, -, hform⟩ | ⟨hform, -⟩ := lower_cases c
  · simp [hform]
  · have hne := List.all_eq_true.1 hlong e he
    simpa [hform] using hne
  · simp [hform]

/-- What follows a text does not change how much of the lower-case form stands in front of it. -/
theorem exists_lowerFrom_append (before a b : Text) :
    ∃ front, lowerFrom before (a ++ b) = front ++ lowerFrom (a.reverse ++ before) b := by
  induction a generalizing before with
  | nil => exact ⟨[], rfl⟩
  | cons c a ih =>
    obtain ⟨front, hfront⟩ := ih (c :: before)
    rw [List.cons_append, lowerFrom, hfront, List.reverse_cons, List.append_assoc,
      ← List.append_assoc]
    exact ⟨_, rfl⟩

/-- On ASCII the lower-case form follows the rule for ASCII. -/
theorem lower_of_ascii {c : Char} (h : c.toNat < 0x80) : lower c = [c.toLower] := by
  have hruns : lowerRuns.all (fun r => r = asciiCapitals || 0x80 ≤ r.first) = true := by
    decide +kernel
  have hforms : lowerExpansions.all (fun e => 0x80 ≤ e.1) = true := by decide
  obtain ⟨r, hr, m, himage, hform⟩ | ⟨e, he, hkey, -⟩ | ⟨hform, hsame⟩ := lower_cases c
  · have hrun := List.all_eq_true.1 hruns r hr
    simp only [Bool.or_eq_true, decide_eq_true_eq] at hrun
    rcases hrun with rfl | hfirst
    · rw [hform, toLower_of_image?_asciiCapitals himage]
    · -- A run that begins behind ASCII covers nothing in it.
      rw [CaseRun.image?, if_neg] at himage
      · simp at himage
      · simp only [Bool.and_eq_true, decide_eq_true_eq]
        omega
  · have hbehind := of_decide_eq_true (List.all_eq_true.1 hforms e he)
    omega
  · rw [hform, hsame]

/-- A beginning in ASCII follows the rule for ASCII, whatever stands around it. -/
theorem lowerFrom_append_of_ascii {before front : Text} (rest : Text)
    (hfront : front.all (fun c => c.toNat < 0x80) = true) :
    lowerFrom before (front ++ rest)
      = asciiLower front ++ lowerFrom (front.reverse ++ before) rest := by
  induction front generalizing before with
  | nil => rfl
  | cons c front ih =>
    rw [List.all_cons, Bool.and_eq_true, decide_eq_true_eq] at hfront
    obtain ⟨hc, hrest⟩ := hfront
    have hsigma : c ≠ 'Σ' := by
      rintro rfl
      exact absurd hc (by decide)
    rw [List.cons_append, lowerFrom, if_neg hsigma, lower_of_ascii hc, ih hrest,
      List.reverse_cons, List.append_assoc]
    rfl

/-! ### Words at the beginning of a text -/

/-- Whether every spelling of a word is in ASCII: no run but that of the capitals reaches a
character of the word, and each longer form parts with what is left of the word there. -/
def spelledInAscii : Text → Bool
  | [] => true
  | x :: word =>
    onlyCapitalsReach x &&
      (lowerExpansions.all fun e =>
        !(e.2.map Char.ofNat).isPrefixOf (x :: word) &&
          !(x :: word).isPrefixOf (e.2.map Char.ofNat)) &&
      spelledInAscii word

/-- A word that is spelled in ASCII consists of ASCII. -/
theorem ascii_of_spelledInAscii {word : Text} (hword : spelledInAscii word = true) :
    word.all (fun c => c.toNat < 0x80) = true := by
  induction word with
  | nil => rfl
  | cons x word ih =>
    simp only [spelledInAscii, onlyCapitalsReach, Bool.and_eq_true] at hword
    rw [List.all_cons, hword.1.1.2, ih hword.2]
    rfl

/-- A character whose lower-case form goes along with such a word is a spelling of the first
character of the word. -/
theorem toLower_of_lower_append_eq {c x : Char} {word r s : Text}
    (hword : spelledInAscii (x :: word) = true) (h : lower c ++ r = x :: word ++ s) :
    lower c = [x] ∧ c.toLower = x := by
  simp only [spelledInAscii, Bool.and_eq_true] at hword
  obtain ⟨⟨hreach, hlong⟩, -⟩ := hword
  obtain ⟨y, tail, hlower⟩ := List.exists_cons_of_ne_nil (lower_ne_nil c)
  have hy : y = x := by
    rw [hlower] at h
    exact (List.cons.inj h).1
  subst hy
  obtain ⟨rfl, hc⟩ | ⟨e, he, hform⟩ := lower_eq_cons_cases hreach hlower
  · exact ⟨hlower, hc⟩
  · -- A longer form and the word would both begin the same text.
    have hparts := List.all_eq_true.1 hlong e he
    simp only [Bool.and_eq_true, Bool.not_eq_true', Bool.eq_false_iff, ne_eq,
      List.isPrefixOf_iff_prefix, hform] at hparts
    have hform' : y :: tail <+: y :: word ++ s := ⟨r, by rw [← hlower, h]⟩
    rcases List.prefix_or_prefix_of_prefix hform' (List.prefix_append (y :: word) s) with hp | hp
    · exact absurd hp hparts.1
    · exact absurd hp hparts.2

/-- Where the lower-case form of a text begins with such a word, the text begins with a spelling
of the word. -/
theorem exists_spelling_of_lowerFrom_eq_append {before t word s : Text}
    (hword : spelledInAscii word = true) (h : lowerFrom before t = word ++ s) :
    ∃ front rest, t = front ++ rest ∧ asciiLower front = word := by
  induction word generalizing before t with
  | nil => exact ⟨[], t, rfl, rfl⟩
  | cons x word ih =>
    have hascii : x.toNat < 0x80 := by
      have hall := ascii_of_spelledInAscii hword
      rw [List.all_cons, Bool.and_eq_true] at hall
      exact of_decide_eq_true hall.1
    cases t with
    | nil => simp [lowerFrom] at h
    | cons c r =>
      have hsigma : c ≠ 'Σ' := by
        rintro rfl
        -- Neither of the two small sigmas is in ASCII.
        rw [lowerFrom, if_pos rfl] at h
        split at h
        · obtain ⟨rfl, -⟩ := List.cons.inj h
          exact absurd hascii (by decide)
        · obtain ⟨rfl, -⟩ := List.cons.inj h
          exact absurd hascii (by decide)
      rw [lowerFrom, if_neg hsigma] at h
      obtain ⟨hlower, hc⟩ := toLower_of_lower_append_eq hword h
      rw [hlower] at h
      have hrest : spelledInAscii word = true := by
        rw [spelledInAscii, Bool.and_eq_true] at hword
        exact hword.2
      obtain ⟨front, rest, rfl, hfront⟩ := ih hrest (List.cons.inj h).2
      refine ⟨c :: front, rest, rfl, ?_⟩
      show c.toLower :: asciiLower front = x :: word
      rw [hc, hfront]

/-- Whether the lower-case form of a text begins with such a word can be seen from its letters of
ASCII alone. -/
theorem startsWith_lowerFrom {word : Text} (hword : spelledInAscii word = true)
    (before t : Text) :
    Text.startsWith word (lowerFrom before t) = Text.startsWith word (asciiLower t) := by
  rw [Bool.eq_iff_iff, Text.startsWith_iff, Text.startsWith_iff]
  constructor
  · rintro ⟨s, hs⟩
    obtain ⟨front, rest, rfl, hfront⟩ := exists_spelling_of_lowerFrom_eq_append hword hs.symm
    refine ⟨asciiLower rest, ?_⟩
    rw [← hfront]
    exact (List.map_append ..).symm
  · rintro ⟨s, hs⟩
    obtain ⟨front, rest, rfl, hfront, -⟩ := List.map_eq_append_iff.1 hs.symm
    have hall := ascii_of_spelledInAscii hword
    have hascii : front.all (fun c => c.toNat < 0x80) = true := by
      refine List.all_eq_true.2 fun c hc => decide_eq_true ?_
      have hmem : c.toLower ∈ word := hfront ▸ List.mem_map_of_mem hc
      exact toNat_lt_of_toLower (of_decide_eq_true (List.all_eq_true.1 hall _ hmem))
    rw [lowerFrom_append_of_ascii rest hascii, asciiLower, hfront]
    exact List.prefix_append _ _

/-! ### Marks within a text -/

/-- Whether a character is in the lower-case form of no character but itself. -/
def isOwnLower (x : Char) : Bool :=
  lowersFromAscii x && !(0x61 ≤ x.toNat && x.toNat ≤ 0x7a) &&
    lowerExpansions.all fun e => !(e.2.map Char.ofNat).contains x

/-- Such a mark is found in no longer form, nor in another form of one character. -/
theorem eq_of_mem_lower {c x : Char} (hx : isOwnLower x = true) (h : x ∈ lower c) :
    lower c = [x] ∧ c = x := by
  simp only [isOwnLower, Bool.and_eq_true, Bool.not_eq_true', Bool.and_eq_false_iff,
    decide_eq_false_iff_not, List.all_eq_true] at hx
  obtain ⟨⟨hlowers, hsmall⟩, hlong⟩ := hx
  obtain ⟨y, hy⟩ | ⟨e, he, hform⟩ :
      (∃ y, lower c = [y]) ∨ ∃ e ∈ lowerExpansions, lower c = e.2.map Char.ofNat := by
    obtain ⟨-, -, m, -, hform⟩ | ⟨e, he, -, hform⟩ | ⟨hform, -⟩ := lower_cases c
    · exact .inl ⟨_, hform⟩
    · exact .inr ⟨e, he, hform⟩
    · exact .inl ⟨_, hform⟩
  · rw [hy, List.mem_singleton] at h
    subst h
    exact ⟨hy, eq_of_lower_eq_cons hlowers (by omega) hy⟩
  · have hno := hlong e he
    rw [hform] at h
    simp [h] at hno

/-- A mark in the lower-case form of a text is a mark of the text. -/
theorem exists_of_lowerFrom_eq_append {before t a s : Text} {x : Char}
    (hx : isOwnLower x = true) (h : lowerFrom before t = a ++ x :: s) :
    ∃ front rest, t = front ++ x :: rest ∧ s = lowerFrom (x :: (front.reverse ++ before)) rest := by
  induction t generalizing before a with
  | nil => simp [lowerFrom] at h
  | cons c r ih =>
    -- Behind `c` the mark is one of the rest.
    have hbehind : ∀ {b}, lowerFrom (c :: before) r = b ++ x :: s → ∃ front rest,
        c :: r = front ++ x :: rest ∧ s = lowerFrom (x :: (front.reverse ++ before)) rest := by
      intro b hb
      obtain ⟨front, rest, rfl, rfl⟩ := ih hb
      refine ⟨c :: front, rest, rfl, ?_⟩
      rw [List.reverse_cons, List.append_assoc]
      rfl
    rw [lowerFrom] at h
    rcases List.append_eq_append_iff.1 h with ⟨a', rfl, hr⟩ | ⟨a', hc, hr⟩
    · exact hbehind hr
    · cases a' with
      | nil => exact hbehind (b := []) hr.symm
      | cons y a' =>
        obtain ⟨rfl, hs⟩ := List.cons.inj hr
        have hmem : x ∈ a ++ x :: a' := List.mem_append_right _ List.mem_cons_self
        rw [← hc] at hmem
        split at hmem
        · -- Neither of the two small sigmas is a mark.
          have hsigmas : isOwnLower 'ς' = false ∧ isOwnLower 'σ' = false := by
            decide +kernel
          split at hmem <;> rw [List.mem_singleton.1 hmem] at hx
          · rw [hsigmas.1] at hx
            simp at hx
          · rw [hsigmas.2] at hx
            simp at hx
        · rename_i hsigma
          obtain ⟨hlower, rfl⟩ := eq_of_mem_lower hx hmem
          rw [if_neg hsigma, hlower] at hc
          -- The form is one character long, so nothing else stands around the mark.
          have hlength := congrArg List.length hc
          simp only [List.length_append, List.length_cons, List.length_nil] at hlength
          obtain rfl := List.length_eq_zero_iff.1 (by omega : a.length = 0)
          obtain rfl := List.length_eq_zero_iff.1 (by omega : a'.length = 0)
          exact ⟨[], r, rfl, hs⟩

end SearchLink.Unicode
