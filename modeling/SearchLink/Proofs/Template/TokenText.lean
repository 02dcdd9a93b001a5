import SearchLink.Proofs.Template.KnownNames

/-!
# `SearchLink.Proofs.Template.TokenText`: a token wherever it stands

A token is located by its own text. `TokenText` says what that text is: the letters of `{name`
and a written chain. The search and the reader look at nothing behind the closing brace, and
they need all of what stands in front of it:

* `exists_tokenText_of_locate?`: what is located in a template is such a text.
* `TokenText.locate?_append`: it is located with the same chain between any two texts.
* `TokenText.locate?_eq_none_of_cut`: without its end it is located nowhere.

The last one rests on the grammar. No written chain is a proper beginning of another one, so a
chain that is cut off reads as none (`ChainText.readChain_eq_none_of_cut`).
-/

set_option autoImplicit false

namespace SearchLink.Template

/-- The texts of a token: the letters of `{name` and a written chain behind them. -/
def TokenText (name token : Text) (chain : Chain) : Prop :=
  ∃ word w, token = word ++ w ∧ SameLetters word ('{' :: name) ∧ ChainText w chain

/-! ### What is located -/

/-- The first opening of a text begins the first token, if a chain stands behind it. -/
theorem exists_tokenText_of_findOpening? {name t rest : Text} {o : Opening} {chain : Chain}
    (ho : findOpening? name t = some o) (hchain : readChain o.after = some (chain, rest)) :
    ∃ token, t = o.before ++ token ++ rest ∧ TokenText name token chain := by
  obtain ⟨word, ht, hword⟩ := findOpening?_split ho
  obtain ⟨w, hafter, hw⟩ := readChain_eq_some_iff.1 hchain
  refine ⟨word ++ w, ?_, word, w, rfl, hword, hw⟩
  rw [ht, hafter, List.append_assoc, List.append_assoc, List.append_assoc]

/-- What is located in a template is the text of a token, and it begins at the first opening
behind the offset. -/
theorem exists_tokenText_of_locate? {template name : Text} {start : Nat} {k : Occurrence}
    (h : locate? template name start = some k) :
    ∃ front token rest, template = front ++ token ++ rest ∧ TokenText name token k.chain ∧
      k.span = ⟨front.utf8Size, (front ++ token).utf8Size⟩ ∧ start ≤ front.utf8Size ∧
      findOffset? template name start = some front.utf8Size := by
  obtain ⟨t, o, rest, ht, ho, hchain, hspan⟩ := locate?_eq_some_iff.1 h
  obtain ⟨p, rfl, rfl⟩ := Text.dropBytes?_eq_some_iff.1 ht
  obtain ⟨token, htoken, htext⟩ := exists_tokenText_of_findOpening? ho hchain
  have hcut : p ++ t = (p ++ o.before ++ token) ++ rest := Text.append_cut p htoken
  have hstart : p.utf8Size + o.before.utf8Size = (p ++ o.before).utf8Size :=
    (Text.utf8Size_append p o.before).symm
  refine ⟨p ++ o.before, token, rest, hcut, htext, ?_, ?_, ?_⟩
  · rw [hspan, hstart, hcut, Text.utf8Size_append _ rest, Nat.add_sub_cancel]
  · rw [← hstart]
    exact Nat.le_add_right _ _
  · simp only [findOffset?, ht, ho, Option.bind_eq_bind, Option.bind_some, hstart]

/-! ### The text of a token -/

section
variable {name token : Text} {chain : Chain}

/-- A token begins with a brace and ends with one. -/
theorem TokenText.eq_braces (h : TokenText name token chain) :
    ∃ inner, token = '{' :: (inner ++ ['}']) := by
  obtain ⟨word, w, rfl, hword, hw⟩ := h
  obtain ⟨w', rfl⟩ := hw.eq_append_brace
  cases hword with
  | @cons c _ word _ hsame _ =>
    rw [eq_brace_of_sameLetter hsame]
    exact ⟨word ++ w', by rw [List.cons_append, List.append_assoc]⟩

/-- A token at the start of a text is read there, whatever follows it. -/
theorem TokenText.tokenHere?_append (h : TokenText name token chain) (r : Text) :
    tokenHere? name (token ++ r) = some (chain, r) := by
  obtain ⟨word, w, rfl, hword, hw⟩ := h
  have hread : readName? ('{' :: name) (word ++ w ++ r) = some (w ++ r) :=
    readName?_eq_some_iff.2 ⟨word, List.append_assoc word w r, hword⟩
  rw [tokenHere?, hread, Option.bind_some]
  exact readChain_append hw r

/-- Between any two texts a token is located where it begins, up to where it ends, and with its
own chain. -/
theorem TokenText.locate?_append (h : TokenText name token chain) (p q : Text) :
    locate? (p ++ token ++ q) name p.utf8Size
      = some ⟨⟨p.utf8Size, (p ++ token).utf8Size⟩, chain⟩ := by
  have hlocate := locate?_of_tokenHere? p (h.tokenHere?_append q)
  rw [← List.append_assoc] at hlocate
  rw [hlocate, Text.utf8Size_append (p ++ token) q, Nat.add_sub_cancel]

/-! ### Without its end -/

/-- A written chain that has lost its end reads as none. -/
theorem ChainText.readChain_eq_none_of_cut {w lost : Text} (h : ChainText (w ++ lost) chain)
    (hlost : lost ≠ []) : readChain w = none := by
  rw [Option.eq_none_iff_forall_ne_some]
  rintro ⟨chain', r⟩ hread
  obtain ⟨w', rfl, hw'⟩ := readChain_eq_some_iff.1 hread
  -- The chain read off the beginning is the whole chain, so there is nothing to lose.
  obtain ⟨hsame, -⟩ := h.unique (r := []) hw' (by rw [List.append_nil, List.append_assoc])
  have hnil : r ++ lost = [] := by
    rw [List.append_assoc] at hsame
    exact List.append_right_eq_self.1 hsame
  exact hlost (List.append_eq_nil_iff.1 hnil).2

/-- A token that has lost its end holds no token: the name opens at its start, with what is left
of the chain, or nowhere. -/
theorem TokenText.firstToken?_eq_none_of_cut {cut lost : Text}
    (h : TokenText name (cut ++ lost) chain) (hlost : lost ≠ []) :
    firstToken? name cut = none := by
  obtain ⟨word, w, hsplit, hword, hw⟩ := h
  by_cases hlen : word.length ≤ cut.length
  · -- All of the name is left, and the chain is cut.
    have hprefix : word <+: cut :=
      List.prefix_of_prefix_length_le (List.prefix_append word w)
        (hsplit ▸ List.prefix_append cut lost) hlen
    obtain ⟨w', rfl⟩ := hprefix
    rw [List.append_assoc] at hsplit
    have hrest : w' ++ lost = w := List.append_cancel_left hsplit
    have hread : readName? ('{' :: name) (word ++ w') = some w' :=
      readName?_eq_some_iff.2 ⟨word, rfl, hword⟩
    have hopening := findOpening?_of_readName? hread
    have hchain : readChain w' = none := by
      rw [← hrest] at hw
      exact hw.readChain_eq_none_of_cut hlost
    simp only [firstToken?, hopening, hchain, Option.bind_eq_bind, Option.bind_some,
      Option.bind_none]
  · -- What is left is shorter than `{name`.
    have hnone : findOpening? name cut = none := by
      rw [Option.eq_none_iff_forall_ne_some]
      intro o ho
      obtain ⟨word', hcut, hword'⟩ := findOpening?_split ho
      have hsize := hword.length_eq
      have hsize' := hword'.length_eq
      rw [hcut, List.length_append, List.length_append] at hlen
      omega
    simp only [firstToken?, hnone, Option.bind_eq_bind, Option.bind_none]

/-- A token that has lost its end is not located where it begins, nor anywhere behind. -/
theorem TokenText.locate?_eq_none_of_cut {front cut lost : Text}
    (h : TokenText name (cut ++ lost) chain) (hlost : lost ≠ []) :
    locate? (front ++ cut) name front.utf8Size = none := by
  simp only [locate?, Text.dropBytes?_append, h.firstToken?_eq_none_of_cut hlost,
    Option.bind_eq_bind, Option.bind_some, Option.bind_none]

end

/-! ### A located token -/

/-- **A token is located by its own text.** Take an occurrence that is located in a template
from an offset on. Its span lies behind the offset and in the template, begins at the first
opening of the name and falls between characters at both ends. Its text begins with `{` and
ends with `}`. Between any two other texts it is located from where it begins, with the same
length and the same chain. And in the template cut off anywhere from its beginning on, but in
front of its end, nothing is located there. -/
theorem located_token_is_local {template name : Text} {start : Nat} {k : Occurrence}
    (h : locate? template name start = some k) :
    start ≤ k.span.start ∧ k.span.start < k.span.stop ∧ k.span.stop ≤ template.utf8Size ∧
    (template.dropBytes? k.span.start).isSome ∧ (template.dropBytes? k.span.stop).isSome ∧
    findOffset? template name start = some k.span.start ∧
    ∃ token, template.sliceBytes? k.span.start k.span.stop = some token ∧
      (∃ inner, token = '{' :: (inner ++ ['}'])) ∧
      (∀ p q, locate? (p ++ token ++ q) name p.utf8Size
        = some ⟨⟨p.utf8Size, p.utf8Size + k.span.stop - k.span.start⟩, k.chain⟩) ∧
      ∀ n cut, k.span.start ≤ n → n < k.span.stop → template.takeBytes? n = some cut →
        locate? cut name k.span.start = none := by
  obtain ⟨front, token, rest, rfl, htext, hspan, hle, hoffset⟩ := exists_tokenText_of_locate? h
  have hstart : k.span.start = front.utf8Size := congrArg Span.start hspan
  have hstop : k.span.stop = (front ++ token).utf8Size := congrArg Span.stop hspan
  have hsize : (front ++ token).utf8Size = front.utf8Size + token.utf8Size :=
    Text.utf8Size_append front token
  obtain ⟨inner, hinner⟩ := htext.eq_braces
  have hpos : 0 < token.utf8Size := by
    have hne := mt Text.utf8Size_eq_zero_iff.1 (hinner ▸ List.cons_ne_nil '{' _ : token ≠ [])
    omega
  rw [hstart, hstop]
  refine ⟨hle, by omega, ?_, ?_, ?_, hoffset, token, Text.sliceBytes?_append front token rest,
    ⟨inner, hinner⟩, ?_, ?_⟩
  · rw [Text.utf8Size_append (front ++ token) rest]
    exact Nat.le_add_right _ _
  · rw [List.append_assoc, Text.dropBytes?_append]
    rfl
  · rw [Text.dropBytes?_append]
    rfl
  · intro p q
    rw [htext.locate?_append p q, Text.utf8Size_append p token, hsize]
    have hlength : p.utf8Size + token.utf8Size
        = p.utf8Size + (front.utf8Size + token.utf8Size) - front.utf8Size := by
      omega
    rw [hlength]
  · -- The cut falls behind the front and inside the token, so it takes off an end of the token.
    intro n cut hn hlt hcut
    obtain ⟨behind, hsplit, rfl⟩ := Text.takeBytes?_eq_some_iff.1 hcut
    rw [List.append_assoc] at hsplit
    obtain ⟨left, rfl, hleft⟩ := Text.exists_append_of_utf8Size_le hsplit hn
    have hshort : left.utf8Size < token.utf8Size := by
      rw [Text.utf8Size_append] at hlt
      omega
    obtain ⟨lost, rfl, -⟩ :=
      Text.exists_append_of_utf8Size_le hleft.symm (Nat.le_of_lt hshort)
    have hlost : lost ≠ [] := by
      rintro rfl
      rw [List.append_nil] at hshort
      exact Nat.lt_irrefl _ hshort
    exact htext.locate?_eq_none_of_cut hlost

/-- The sign of the kelvin opens a token of `k`, and takes up more bytes than the letter. In
`é{K{re/\}/|\\}[0]}ü` the token stands from byte 2 up to byte 21. -/
theorem located_token_is_local_kelvin :
    locate? "é\x7b\u212a\x7bre/\\\x7d/|\\\\\x7d[0]\x7dü".toList ['k'] 0
      = some ⟨⟨2, 21⟩, [.regexReplacement ['\\', '}'] [] ['\\'], .slice (some 0) (some 1)]⟩ ∧
    ∃ token,
      Text.sliceBytes? "é\x7b\u212a\x7bre/\\\x7d/|\\\\\x7d[0]\x7dü".toList 2 21 = some token ∧
      locate? ("\x7bk[".toList ++ token ++ "\x7d\x7d".toList) ['k'] 3
        = some ⟨⟨3, 22⟩,
            [.regexReplacement ['\\', '}'] [] ['\\'], .slice (some 0) (some 1)]⟩ ∧
      locate? "é\x7b\u212a\x7bre/\\\x7d/|\\\\\x7d".toList ['k'] 2 = none := by
  have hlocate : locate? "é\x7b\u212a\x7bre/\\\x7d/|\\\\\x7d[0]\x7dü".toList ['k'] 0
      = some ⟨⟨2, 21⟩,
          [.regexReplacement ['\\', '}'] [] ['\\'], .slice (some 0) (some 1)]⟩ := by
    decide +kernel
  obtain ⟨-, -, -, -, -, -, token, htoken, -, hlocal, hcut⟩ := located_token_is_local hlocate
  exact ⟨hlocate, token, htoken, hlocal "\x7bk[".toList "\x7d\x7d".toList,
    hcut 17 _ (by decide) (by decide) (by decide +kernel)⟩

end SearchLink.Template
