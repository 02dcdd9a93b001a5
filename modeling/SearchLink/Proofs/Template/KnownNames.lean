import SearchLink.Proofs.Template.TokenHere
import SearchLink.Proofs.Unicode.LowerCase
import SearchLink.Template.Lint

/-!
# `SearchLink.Proofs.Template.KnownNames`: names that open at the same place

Two names can open at the same place of a template only when their letters agree as far as
both go. Of the known variables such names continue one another, and then at most the longer
one has a token there: the letter with which it goes on cannot begin a chain.

* `isShadowed_iff`: a known name is shadowed where a longer known name that begins with it has
  a well-formed token.
* `shadowed_of_tokenHere?`: where a known name opens and another one has a token, the first has
  none and is shadowed.
* `eq_brace_of_sameLetter`: nothing but the brace itself opens a token.
-/

set_option autoImplicit false

namespace SearchLink.Template

/-! ### Letters -/

/-- Letters are the same when their lower-case forms are. -/
theorem sameLetter_iff {a b : Char} :
    Unicode.sameLetter a b = true ↔ Unicode.lower a = Unicode.lower b := by
  simp only [Unicode.sameLetter, Bool.or_eq_true, decide_eq_true_eq, or_iff_right_iff_imp]
  exact congrArg Unicode.lower

/-! ### Marks -/

/-- The marks that a chain can begin with: a blank, the end of the token, or a block. -/
def chainStarts : List Char := ['}', ' ', '{', '(', '[']

/-- Such a mark is the same letter as nothing but itself. -/
theorem eq_of_sameLetter_chainStart {c n : Char} (hc : c ∈ chainStarts)
    (h : Unicode.sameLetter c n = true) : n = c := by
  have hmarks : (chainStarts.all fun c => Unicode.lowersFromAscii c && Unicode.lower c = [c] &&
      !(0x61 ≤ c.toNat && c.toNat ≤ 0x7a)) = true := by
    decide +kernel
  have hmark := List.all_eq_true.1 hmarks c hc
  simp only [Bool.and_eq_true, Bool.not_eq_true', Bool.and_eq_false_iff, decide_eq_true_eq,
    decide_eq_false_iff_not] at hmark
  obtain ⟨⟨hascii, hself⟩, hsmall⟩ := hmark
  have hlower : Unicode.lower n = [c] := (sameLetter_iff.1 h).symm.trans hself
  exact Unicode.eq_of_lower_eq_cons hascii (by omega) hlower

/-- Only the opening brace is the same letter as the opening brace. -/
theorem eq_brace_of_sameLetter {c : Char} (h : Unicode.sameLetter c '{' = true) : c = '{' :=
  eq_of_sameLetter_chainStart (by decide) (sameLetter_iff.2 (sameLetter_iff.1 h).symm)

/-- At another character no name opens. -/
theorem opensHere_eq_false_of_ne {name r : Text} {c : Char} (hc : c ≠ '{') :
    opensHere name (c :: r) = false := by
  have hbrace : ¬ Unicode.sameLetter c '{' = true := fun h => hc (eq_brace_of_sameLetter h)
  rw [opensHere, readName?, if_neg hbrace]
  rfl

/-! ### Names that open together -/

/-- Names have the same letters as each other. -/
theorem SameLetters.symm {v w : Text} (h : SameLetters v w) : SameLetters w v := by
  have hletters : ∀ {c n : Char}, Unicode.sameLetter c n = true → Unicode.sameLetter n c = true :=
    fun hsame => sameLetter_iff.2 (sameLetter_iff.1 hsame).symm
  exact (h.imp fun _ _ hsame => hletters hsame).flip

/-- Names with the same letters are read off the same texts. -/
theorem SameLetters.readName?_eq {v w : Text} (h : SameLetters v w) (t : Text) :
    readName? v t = readName? w t := by
  induction h generalizing t with
  | nil => rfl
  | @cons n m _ _ hsame _ ih =>
    cases t with
    | nil => rfl
    | cons c cs =>
      have hletter : Unicode.sameLetter c n = Unicode.sameLetter c m := by
        rw [Bool.eq_iff_iff, sameLetter_iff, sameLetter_iff, sameLetter_iff.1 hsame]
      rw [readName?, readName?, hletter, ih cs]

/-- So are the beginnings of their tokens. -/
theorem SameLetters.readName?_brace_eq {v w : Text} (h : SameLetters v w) (t : Text) :
    readName? ('{' :: v) t = readName? ('{' :: w) t :=
  SameLetters.readName?_eq (.cons (sameLetter_self '{') h) t

/-- They open at the same places. -/
theorem SameLetters.opensHere_eq {v w : Text} (h : SameLetters v w) (t : Text) :
    opensHere v t = opensHere w t := by
  rw [opensHere, opensHere, h.readName?_brace_eq t]

/-- They have the same tokens. -/
theorem SameLetters.tokenHere?_eq {v w : Text} (h : SameLetters v w) (t : Text) :
    tokenHere? v t = tokenHere? w t := by
  rw [tokenHere?, tokenHere?, h.readName?_brace_eq t]

/-- Whether the letters of two names agree as far as both names go. -/
def lettersAgree : Text → Text → Bool
  | n :: ns, m :: ms => Unicode.sameLetter n m && lettersAgree ns ms
  | _, _ => true

/-- Names that are read off the same text agree. -/
theorem lettersAgree_of_readName? {v w t : Text} (hv : (readName? v t).isSome)
    (hw : (readName? w t).isSome) : lettersAgree v w = true := by
  induction v generalizing w t with
  | nil => simp [lettersAgree]
  | cons n ns ih =>
    cases w with
    | nil => simp [lettersAgree]
    | cons m ms =>
      cases t with
      | nil => simp [readName?] at hv
      | cons c cs =>
        simp only [readName?] at hv hw
        split at hv
        · rename_i hn
          split at hw
          · rename_i hm
            -- Both letters are the same as the one in the text.
            have hsame : Unicode.sameLetter n m = true :=
              sameLetter_iff.2 ((sameLetter_iff.1 hn).symm.trans (sameLetter_iff.1 hm))
            rw [lettersAgree, hsame, ih hv hw, Bool.and_self]
          · simp at hw
        · simp at hv

/-- Names that open at the same place agree. -/
theorem lettersAgree_of_opensHere {v w t : Text} (hv : opensHere v t = true)
    (hw : opensHere w t = true) : lettersAgree v w = true := by
  have hagree := lettersAgree_of_readName? hv hw
  rw [lettersAgree, Bool.and_eq_true] at hagree
  exact hagree.2

/-- Of two names that agree, one begins with the letters of the other. -/
theorem exists_word_of_lettersAgree {v w : Text} (h : lettersAgree v w = true) :
    (∃ word x, w = word ++ x ∧ SameLetters word v) ∨
      ∃ word x, v = word ++ x ∧ SameLetters word w := by
  fun_induction lettersAgree v w with
  | case1 n ns m ms ih =>
    rw [Bool.and_eq_true] at h
    have hsame : Unicode.lower n = Unicode.lower m := sameLetter_iff.1 h.1
    rcases ih h.2 with ⟨word, x, rfl, hword⟩ | ⟨word, x, rfl, hword⟩
    · exact .inl ⟨m :: word, x, rfl, .cons (sameLetter_iff.2 hsame.symm) hword⟩
    · exact .inr ⟨n :: word, x, rfl, .cons (sameLetter_iff.2 hsame) hword⟩
  | case2 v w hends =>
    -- One of the two has come to its end.
    cases v with
    | nil => exact .inl ⟨[], w, rfl, .nil⟩
    | cons n ns =>
      cases w with
      | nil => exact .inr ⟨[], n :: ns, rfl, .nil⟩
      | cons m ms => exact absurd rfl (hends n ns m ms rfl)

/-- Where a name is read, so is every beginning of it, and what follows that begins with the
letters that are left. -/
theorem readName?_append {v x t r : Text} (h : readName? (v ++ x) t = some r) :
    ∃ r', readName? v t = some r' ∧ readName? x r' = some r := by
  induction v generalizing t with
  | nil => exact ⟨t, by simp [readName?], h⟩
  | cons n ns ih =>
    cases t with
    | nil => simp [readName?] at h
    | cons c cs =>
      simp only [List.cons_append, readName?] at h ⊢
      split at h
      · rename_i hsame
        rw [if_pos hsame]
        exact ih h
      · simp at h

/-- Where a name opens, so does every beginning of it. -/
theorem opensHere_of_prefix {v w t : Text} (hbegins : v <+: w) (h : opensHere w t = true) :
    opensHere v t = true := by
  obtain ⟨x, rfl⟩ := hbegins
  obtain ⟨r, hr⟩ := Option.isSome_iff_exists.1 h
  obtain ⟨r', hr', -⟩ := readName?_append (v := '{' :: v) hr
  simp [opensHere, hr']

/-! ### Chains after a name that goes on -/

/-- A chain begins with one of these marks. -/
theorem exists_cons_of_readChain {t r : Text} {chain : Chain} (h : readChain t = some (chain, r)) :
    ∃ c t', t = c :: t' ∧ c ∈ chainStarts := by
  obtain ⟨w, rfl, hw⟩ := readChain_eq_some_iff.1 h
  cases hw with
  | close => exact ⟨'}', _, rfl, by decide⟩
  | blank _ => exact ⟨' ', _, rfl, by decide⟩
  | block hblock _ =>
    cases hblock with
    | replacement _ _ _ => exact ⟨'{', _, rfl, by decide⟩
    | regexMatch _ _ => exact ⟨'{', _, rfl, by decide⟩
    | regexReplacement _ _ _ => exact ⟨'{', _, rfl, by decide⟩
    | function _ => exact ⟨'(', _, rfl, by decide⟩
    | index _ _ => exact ⟨'[', _, rfl, by decide⟩
    | slice _ _ _ _ => exact ⟨'[', _, rfl, by decide⟩

/-- Where a name opens that goes on with a letter, its beginning has no token. -/
theorem tokenHere?_eq_none_of_longer {v x t : Text} {n : Char}
    (hn : ∀ c ∈ chainStarts, Unicode.sameLetter c n = false)
    (h : opensHere (v ++ n :: x) t = true) : tokenHere? v t = none := by
  obtain ⟨r, hr⟩ := Option.isSome_iff_exists.1 h
  obtain ⟨r', hr', hrest⟩ := readName?_append (v := '{' :: v) hr
  rw [Option.eq_none_iff_forall_ne_some]
  rintro ⟨chain, rest⟩ htoken
  rw [tokenHere?, hr', Option.bind_some] at htoken
  -- What follows the shorter name would have to be a mark and a letter at once.
  obtain ⟨c, t', rfl, hc⟩ := exists_cons_of_readChain htoken
  rw [readName?, hn c hc] at hrest
  simp at hrest

/-! ### The known variables -/

/-- Known names whose letters agree continue one another. -/
theorem prefix_or_prefix_of_lettersAgree :
    ∀ v ∈ knownVariables, ∀ w ∈ knownVariables, lettersAgree v w = true →
      v <+: w ∨ w <+: v := by
  decide +kernel

/-- The names that the rule of shadowing looks at are the known names that go on. -/
theorem shadows_iff_prefix :
    ∀ v ∈ knownVariables, ∀ w ∈ knownVariables,
      (v.utf8Size < w.utf8Size &&
        Text.startsWith (Unicode.asciiLower v) (Unicode.asciiLower w)) = true ↔
      v <+: w ∧ v ≠ w := by
  decide +kernel

/-- No letter of a known name is a mark that a chain can begin with. -/
theorem sameLetter_chainStarts :
    ∀ v ∈ knownVariables, ∀ n ∈ v, ∀ c ∈ chainStarts, Unicode.sameLetter c n = false := by
  have hdiffer : (knownVariables.all fun v => v.all fun n => chainStarts.all fun c =>
      !Unicode.sameLetter c n) = true := by
    decide +kernel
  intro v hv n hn c hc
  simp only [List.all_eq_true] at hdiffer
  simpa using hdiffer v hv n hn c hc

/-- Of two known names of which one continues the other, the shorter has no token where the
longer opens. -/
theorem tokenHere?_eq_none_of_goesOn {v w t : Text} (hw : w ∈ knownVariables) (hbegins : v <+: w)
    (hne : v ≠ w) (h : opensHere w t = true) : tokenHere? v t = none := by
  obtain ⟨x, rfl⟩ := hbegins
  cases x with
  | nil => simp at hne
  | cons n x =>
    exact tokenHere?_eq_none_of_longer
      (sameLetter_chainStarts _ hw n (by simp)) h

/-- The opening of a known variable holds no closing brace. -/
theorem sameLetter_brace_opening {v : Text} (hv : v ∈ knownVariables) :
    ∀ n ∈ '{' :: v, Unicode.sameLetter '}' n = false := by
  intro n hn
  rcases List.mem_cons.1 hn with rfl | hn
  · decide +kernel
  · exact sameLetter_chainStarts v hv n hn '}' (by decide)

/-- A name is shadowed where one of the names that the rule looks at has a token. -/
theorem isShadowed_eq (known : List Text) (name t : Text) :
    isShadowed known name t = known.any fun other =>
      (name.utf8Size < other.utf8Size &&
        Text.startsWith (Unicode.asciiLower name) (Unicode.asciiLower other)) &&
      (tokenHere? other t).isSome := by
  unfold isShadowed
  congr 1
  funext other
  congr 1
  -- The first token stands at the start, or behind some text, or nowhere.
  cases hhere : tokenHere? other t with
  | some token =>
    rw [firstToken?_of_opensHere (opensHere_of_tokenHere? hhere), hhere]
    rfl
  | none =>
    cases hfirst : firstToken? other t with
    | none => rfl
    | some k =>
      have hne : k.before ≠ [] := List.length_pos_iff.1 (firstToken?_before_pos hfirst hhere)
      simpa using hne

/-- A known name is shadowed where a longer known name that begins with it has a token. -/
theorem isShadowed_iff {v t : Text} (hv : v ∈ knownVariables) :
    isShadowed knownVariables v t = true ↔
      ∃ w ∈ knownVariables, v <+: w ∧ v ≠ w ∧ (tokenHere? w t).isSome := by
  rw [isShadowed_eq, List.any_eq_true]
  refine exists_congr fun w => and_congr_right fun hw => ?_
  rw [Bool.and_eq_true, shadows_iff_prefix v hv w hw, and_assoc]

/-- Where a known name opens and another known name has a token, the first name has none and
is shadowed. -/
theorem shadowed_of_tokenHere? {v w t : Text} (hv : v ∈ knownVariables) (hw : w ∈ knownVariables)
    (hne : w ≠ v) (hopens : opensHere v t = true) (htoken : (tokenHere? w t).isSome) :
    tokenHere? v t = none ∧ isShadowed knownVariables v t = true := by
  obtain ⟨token, ht⟩ := Option.isSome_iff_exists.1 htoken
  have hwopens : opensHere w t = true := opensHere_of_tokenHere? ht
  have hagree := lettersAgree_of_opensHere hopens hwopens
  rcases prefix_or_prefix_of_lettersAgree v hv w hw hagree with hbegins | hbegins
  · exact ⟨tokenHere?_eq_none_of_goesOn hw hbegins hne.symm hwopens,
      (isShadowed_iff hv).2 ⟨w, hw, hbegins, hne.symm, htoken⟩⟩
  · -- The name with the token is the shorter one, but it goes on.
    rw [tokenHere?_eq_none_of_goesOn hv hbegins hne hopens] at ht
    simp at ht

end SearchLink.Template
