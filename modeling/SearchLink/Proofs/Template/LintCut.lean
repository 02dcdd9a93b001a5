import SearchLink.Proofs.Template.LintWalk

/-!
# `SearchLink.Proofs.Template.LintCut`: what the linter says about the selection

Without a page a template is filled in for the selection alone. Then no other variable has a
token that could mislead the linter, and what it reports about the selection decides what
becomes of a template (`lint_decides_selection`): the template is filled in up to the reported
offset and copied from there on, or, without a report, all tokens of the selection are
substituted.

The first case needs that a plan does not look further than the offset. `firstToken?_cut` says
so for one token and `flatMap_planFrom_of_mem_retirementsFrom` for all rounds.
-/

set_option autoImplicit false

namespace SearchLink.Template

/-! ### Cutting a text behind a token -/

/-- The first token of a name does not depend on an end of the text behind it. -/
theorem firstToken?_cut {name t r g before : Text} {chain : Chain}
    (h : firstToken? name (t ++ g) = some ⟨before, chain, r ++ g⟩) :
    firstToken? name t = some ⟨before, chain, r⟩ := by
  simp only [firstToken?, Option.bind_eq_bind, Option.bind_eq_some_iff, Prod.exists] at h ⊢
  obtain ⟨o, ho, chain', rest, hchain, hk⟩ := h
  obtain ⟨rfl, rfl, rfl⟩ := Token.mk.inj (Option.some.inj hk)
  obtain ⟨⟨word, hsplit, hword⟩, hfirst⟩ := findOpening?_eq_some_iff.1 ho
  obtain ⟨w, hafter, hw⟩ := readChain_eq_some_iff.1 hchain
  have ht : t = o.before ++ word ++ (w ++ r) := by
    rw [hafter] at hsplit
    refine List.append_cancel_right (hsplit.trans ?_)
    simp only [List.append_assoc]
  refine ⟨⟨o.before, w ++ r⟩, findOpening?_eq_some_iff.2 ⟨⟨word, ht, hword⟩, ?_⟩, chain', r,
    readChain_append hw r, rfl⟩
  -- An earlier opening in front of the cut would be an earlier one of the whole text.
  rintro before word' after rfl hword'
  exact hfirst before word' (after ++ g) (by simp only [List.append_assoc]) hword'

/-- In front of the first opening of a name there is no token of it. -/
theorem firstToken?_before {name t : Text} {o : Opening} (h : findOpening? name t = some o) :
    firstToken? name o.before = none := by
  have hnone : findOpening? name o.before = none := by
    rw [Option.eq_none_iff_forall_ne_some]
    intro o' ho'
    obtain ⟨word', hbefore, hword'⟩ := findOpening?_split ho'
    obtain ⟨⟨word, hsplit, -⟩, hfirst⟩ := findOpening?_eq_some_iff.1 h
    have hle := hfirst o'.before word' (o'.after ++ word ++ o.after)
      (by rw [hsplit, hbefore]; simp only [List.append_assoc]) hword'
    have hlt := findOpening?_length ho'
    omega
  simp only [firstToken?, hnone, Option.bind_eq_bind, Option.bind_none]

/-! ### The plan for one name -/

section
variable {a : Active} {t : Text}

/-- In a round with a token the one name is not retired. -/
theorem retiredIn_singleton {k : Token} (before : Text) (offset : Nat)
    (h : firstToken? a.name t = some k) : retiredIn t before offset [a] = [] := by
  rw [List.eq_nil_iff_forall_not_mem]
  intro r hr
  obtain ⟨b, hb, hgoes, -⟩ := mem_retiredIn_iff.1 hr
  rw [← filter_staysActive_singleton before h] at hb
  rw [(List.mem_filter.1 hb).2] at hgoes
  simp at hgoes

/-- Where the plan for one name retires it, the text is cut in two: the front is planned as if
the rest were not there, and the rest is copied. -/
theorem flatMap_planFrom_of_mem_retirementsFrom (fill : Piece → Text)
    (hfill : ∀ x, fill (.literal x) = x) (front : Text) {active : List Active}
    (hactive : active = [a]) {r : Retirement} (hr : r ∈ retirementsFrom t front.utf8Size active) :
    ∃ f g, t = f ++ g ∧ (front ++ f).utf8Size = r.offset ∧
      (planFrom t active).flatMap fill = (planFrom f active).flatMap fill ++ g := by
  induction front, t, active using rounds_induction with
  | done front t active hbest =>
    subst hactive
    rw [retirementsFrom_of_nearestToken?_eq_none hbest] at hr
    obtain ⟨b, hb, -, o, ho, rfl⟩ := mem_retiredIn_iff.1 hr
    obtain rfl := List.mem_singleton.1 hb
    obtain ⟨word, ht, -⟩ := findOpening?_split ho
    have hbefore : nearestToken? o.before [b] = none := by
      rw [nearestToken?_singleton, firstToken?_before ho, Option.map_none]
    refine ⟨o.before, word ++ o.after, by rw [ht, List.append_assoc], Text.utf8Size_append _ _,
      ?_⟩
    rw [planFrom_of_nearestToken?_eq_none hbest, planFrom_of_nearestToken?_eq_none hbefore,
      List.flatMap_singleton, List.flatMap_singleton, hfill, hfill, ← List.append_assoc]
    exact ht
  | round front t active i k token hbest ht _ ih =>
    subst hactive
    obtain ⟨b, hb, -, hfirst⟩ := exists_of_nearestToken? hbest
    obtain rfl := List.mem_singleton.1 hb
    have hstays := filter_staysActive_singleton k.before hfirst
    rw [retirementsFrom_round front hbest ht, retiredIn_singleton _ _ hfirst,
      List.nil_append] at hr
    rw [hstays] at hr ih
    obtain ⟨f, g, hrest, hoffset, hplan⟩ := ih rfl hr
    have hcut : t = (k.before ++ token ++ f) ++ g := by
      rw [ht, hrest, List.append_assoc _ f g]
    -- The token is the first one of the front as well.
    have hfront : firstToken? b.name (k.before ++ token ++ f) = some ⟨k.before, k.chain, f⟩ := by
      refine firstToken?_cut (g := g) ?_
      rw [← hcut, hfirst, ← hrest]
    refine ⟨k.before ++ token ++ f, g, hcut, ?_, ?_⟩
    · rw [← hoffset]
      simp only [List.append_assoc]
    · rw [planFrom_singleton hfirst, planFrom_singleton hfront]
      simp only [List.flatMap_cons, hplan, List.append_assoc]

end

/-! ### The selection -/

/-- Of the known names only `searchTerms` begins with `searchTerms`, so nothing shadows it. -/
theorem isShadowed_searchTerms (t : Text) : isShadowed knownVariables searchTerms t = false := by
  have honly : ∀ w ∈ knownVariables, searchTerms <+: w → searchTerms = w := by decide
  rw [← Bool.not_eq_true, isShadowed_iff (by decide)]
  rintro ⟨w, hw, hbegins, hne, -⟩
  exact hne (honly w hw hbegins)

/-- With one name there is no other that could have a token where the name opens. -/
theorem seesShadows_searchTerms : SeesShadows knownVariables [searchTerms] searchTerms where
  shadowed _ hother hne := absurd (List.mem_singleton.1 hother) hne
  longer t hshadowed := by
    rw [isShadowed_searchTerms t] at hshadowed
    simp at hshadowed

/-- With one name every place is one for it. -/
theorem standsClear_singleton (template name : Text) : StandsClear template [name] name := by
  intro p hp hother
  obtain ⟨other, hindex, -⟩ := locate?_of_mem_placements hp
  obtain rfl := List.mem_singleton.1 (List.mem_of_getElem? hindex)
  exact absurd hindex hother

/-- **The linter decides what becomes of the selection** when there is no page. When it
reports `searchTerms` at an offset, the URL is that of the template up to the offset, with the
rest of the template behind it as it is written. When it does not report it, all openings of
`searchTerms` lie in places for the selection, and there is such a place unless the selection
is reported missing. The URL is the template with the rendered selection in these places. -/
theorem lint_decides_selection (e : Engine) (selection : Text) :
    (∀ o, .malformedVariable searchTerms o ∈ lint e.template → ∃ front rest,
      e.template.takeBytes? o = some front ∧ e.template.dropBytes? o = some rest ∧
        e.buildUrl selection none
          = Engine.buildUrl { e with template := front } selection none ++ rest) ∧
    ((∀ o, .malformedVariable searchTerms o ∉ lint e.template) →
      (∀ s a, OpensAt e.template searchTerms s a →
        ∃ p ∈ placements e.template [searchTerms], p.span.start ≤ s ∧ a ≤ p.span.stop) ∧
      (.missingSearchTerms ∉ lint e.template → placements e.template [searchTerms] ≠ [])) ∧
    ∃ pieces,
      splicePieces e.template
          (fillPlacement Registry.standard e.encode [(searchTerms, selection)]) 0
          (placements e.template [searchTerms]) = some pieces ∧
        e.buildUrl selection none = pieces.flatten := by
  have hknown : searchTerms ∈ knownVariables := by decide
  have hname : searchTerms ∈ [searchTerms] := List.mem_singleton_self _
  have hclear := standsClear_singleton e.template searchTerms
  refine ⟨fun o hreport => ?_, fun hclean => ?_, ?_⟩
  · rw [malformedVariable_mem_lint_iff_firstUncovered hknown hname seesShadows_searchTerms hclear]
      at hreport
    have hretired : (⟨0, o⟩ : Retirement) ∈ retirements e.template [searchTerms] :=
      mem_retirements_iff.2 ⟨searchTerms, rfl, hreport⟩
    obtain ⟨front, rest, hcut, hoffset, hplan⟩ := flatMap_planFrom_of_mem_retirementsFrom
      (fillPiece Registry.standard e.encode [Text.trimSelection selection])
      (fun _ => rfl) [] rfl hretired
    rw [List.nil_append] at hoffset
    exact ⟨front, rest, Text.takeBytes?_eq_some_iff.2 ⟨rest, hcut, hoffset⟩,
      Text.dropBytes?_eq_some_iff.2 ⟨front, hcut, hoffset⟩, hplan⟩
  · have hcovered : ∀ s a, OpensAt e.template searchTerms s a →
        ∃ p ∈ placements e.template [searchTerms], p.span.start ≤ s ∧ a ≤ p.span.stop :=
      fun s a hopens => exists_place_of_not_mem_lint hknown hname seesShadows_searchTerms hclear
        hclean hopens
    refine ⟨hcovered, fun hpresent hempty => ?_⟩
    rw [missingSearchTerms_mem_lint_iff] at hpresent
    obtain ⟨o, ho⟩ := Option.ne_none_iff_exists'.1 hpresent
    obtain ⟨a, hfirst⟩ := firstOpensAt_of_findOpening? [] ho
    obtain ⟨p, hp, -⟩ := hcovered _ _ hfirst.opens
    rw [hempty] at hp
    simp at hp
  · exact splicePieces_placements Registry.standard e.encode e.template
      [(searchTerms, selection)]

/-- The second of three tokens is malformed, so the URL is that of the first one with the rest
behind it. And in a template where the name opens a second time inside its own token, both
openings lie in the one place. -/
theorem lint_decides_selection_two_templates :
    let malformed : Engine := ⟨[], [],
      "/\x7bsearchTerms\x7d/\x7bsearchTerms[x]\x7d/\x7bsearchTerms\x7d".toList, none, true⟩
    let nested : Engine := ⟨[], [],
      "/\x7bsearchTerms\x7bre/\x7bsearchTerms[x]/\x7d\x7d".toList, none, true⟩
    .malformedVariable searchTerms 15 ∈ lint malformed.template ∧
      (∃ front rest, malformed.template.takeBytes? 15 = some front ∧
        malformed.template.dropBytes? 15 = some rest ∧
        malformed.buildUrl ['s'] none
          = Engine.buildUrl { malformed with template := front } ['s'] none ++ rest) ∧
      (∀ o, .malformedVariable searchTerms o ∉ lint nested.template) ∧
      .missingSearchTerms ∉ lint nested.template ∧
      (∀ s a, OpensAt nested.template searchTerms s a →
        ∃ p ∈ placements nested.template [searchTerms], p.span.start ≤ s ∧ a ≤ p.span.stop) ∧
      placements nested.template [searchTerms] ≠ [] := by
  intro malformed nested
  have hreport : .malformedVariable searchTerms 15 ∈ lint malformed.template := by
    decide +kernel
  have hclean : lint nested.template = [] := by decide +kernel
  have hnone : ∀ o, .malformedVariable searchTerms o ∉ lint nested.template := by simp [hclean]
  have hpresent : .missingSearchTerms ∉ lint nested.template := by simp [hclean]
  obtain ⟨hcovered, hplaces⟩ := (lint_decides_selection nested ['s']).2.1 hnone
  exact ⟨hreport, (lint_decides_selection malformed ['s']).1 15 hreport, hnone, hpresent,
    hcovered, hplaces hpresent⟩

end SearchLink.Template
