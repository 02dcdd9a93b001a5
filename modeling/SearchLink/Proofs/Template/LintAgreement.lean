import SearchLink.Proofs.Template.LintWalk

/-!
# `SearchLink.Proofs.Template.LintAgreement`: the linter and the plan of a page

With a page, a template is filled in for all the variables that the linter knows. The linter
says of a malformed token that it and the rest of the template will not be substituted, and
this is so as long as the variable does not open inside a token of another variable
(`lint_iff_retires`): it is reported where the plan retires it, and when it is not reported,
all of its tokens lie in places for values.

An opening inside a token of another variable misleads the linter, which walks with one name
alone. `lint_ne_retires` shows both ways in which it can: a report about a token that is
substituted, and no report about one that is not.
-/

set_option autoImplicit false

namespace SearchLink.Template

/-- Whether the plan of a template for some names gives a name up for the malformed token at
an offset. -/
def Retires (template : Text) (names : List Text) (name : Text) (o : Nat) : Prop :=
  ∃ i, names[i]? = some name ∧ ⟨i, o⟩ ∈ retirements template names

/-! ### The variables of a page -/

/-- The values of a page go by the names that the linter knows. -/
theorem names_of_page (selection : Text) (page : Page) :
    (Engine.values selection (some page)).map Prod.fst = knownVariables := rfl

/-- Among the names that it knows, the linter sees which name has a token. -/
theorem seesShadows_knownVariables {v : Text} (hv : v ∈ knownVariables) :
    SeesShadows knownVariables knownVariables v where
  shadowed _ hother hne _ hopens htoken := shadowed_of_tokenHere? hv hother hne hopens htoken
  longer _ hshadowed :=
    let ⟨other, hother, hbegins, _, htoken⟩ := (isShadowed_iff hv).1 hshadowed
    ⟨other, hother, hbegins, htoken⟩

/-- Each name that the linter knows is listed once. -/
theorem index_eq_of_getElem?_knownVariables {v : Text} {i j : Nat}
    (hi : knownVariables[i]? = some v) (hj : knownVariables[j]? = some v) : i = j := by
  have hnodup : knownVariables.Nodup := by decide +kernel
  obtain ⟨hlt, -⟩ := List.getElem?_eq_some_iff.1 hi
  exact (List.getElem?_inj hlt hnodup).1 (hi.trans hj.symm)

/-- **The linter agrees with the plan of a page** about a variable that does not open inside the
token of another one, or only where that token starts. It is reported exactly at the offset
where the plan retires it. A variable that is retired opens there outside all places, without
a well-formed token, and has no place further on. When the variable is not reported, all of its
openings lie in places. The URL of the engine is its template with the rendered values in these
places, and all else left as it is written. -/
theorem lint_iff_retires (e : Engine) (selection : Text) (page : Page) {v : Text}
    (hv : v ∈ knownVariables) (hclear : StandsClear e.template knownVariables v) :
    (∀ o, .malformedVariable v o ∈ lint e.template ↔ Retires e.template knownVariables v o) ∧
    (∀ o, Retires e.template knownVariables v o →
      IsOpening e.template v o ∧ locate? e.template v o = none ∧
        ∀ p ∈ placements e.template knownVariables, ¬ p.span.Covers o ∧
          (knownVariables[p.index]? = some v → p.span.stop ≤ o)) ∧
    ((∀ o, .malformedVariable v o ∉ lint e.template) → ∀ s a, OpensAt e.template v s a →
      ∃ p ∈ placements e.template knownVariables, p.span.start ≤ s ∧ a ≤ p.span.stop) ∧
    ∃ pieces,
      splicePieces e.template
          (fillPlacement Registry.standard e.encode (Engine.values selection (some page))) 0
          (placements e.template knownVariables) = some pieces ∧
        e.buildUrl selection (some page) = pieces.flatten := by
  have hsees := seesShadows_knownVariables hv
  refine ⟨fun o => ?_, ?_, ?_, ?_⟩
  · rw [malformedVariable_mem_lint_iff_firstUncovered hv hv hsees hclear]
    simp only [Retires, mem_retirements_iff]
    constructor
    · intro hfirst
      obtain ⟨i, hi⟩ := List.mem_iff_getElem?.1 hv
      exact ⟨i, hi, v, hi, hfirst⟩
    · rintro ⟨i, hi, name, hname, hfirst⟩
      obtain rfl := Option.some.inj (hname.symm.trans hi)
      exact hfirst
  · rintro o ⟨i, hi, hretired⟩
    obtain ⟨name, hname, hfirst⟩ := mem_retirements_iff.1 hretired
    obtain rfl := Option.some.inj (hname.symm.trans hi)
    refine ⟨hfirst.opens, locate?_eq_none_of_mem_retirements hretired hi, fun p hp =>
      ⟨hfirst.uncovered p hp, fun hindex => ?_⟩⟩
    exact stop_le_of_mem_retirements hretired hp
      (index_eq_of_getElem?_knownVariables hindex hi)
  · exact fun hclean s a hopens => exists_place_of_not_mem_lint hv hv hsees hclear hclean hopens
  · have hpieces := splicePieces_placements Registry.standard e.encode e.template
      (Engine.values selection (some page))
    rwa [names_of_page] at hpieces

/-- In `https://a.com/{hostname}/{host[x]}/{host}` the name `host` opens three times: inside the
token of a longer name, in a malformed token and in a well-formed one. It is reported and
retired at the second, and stays as it is written from there on. -/
theorem lint_iff_retires_host :
    let e : Engine := ⟨[], [],
      "https://a.com/\x7bhostname\x7d/\x7bhost[x]\x7d/\x7bhost\x7d".toList, none, true⟩
    let page : Page := ⟨"https://b.com/".toList, "https://b.com".toList, "https:".toList,
      "b.com".toList, "b.com".toList, [], ['/'], []⟩
    let host := "host".toList
    host ∈ knownVariables ∧ StandsClear e.template knownVariables host ∧
      .malformedVariable host 25 ∈ lint e.template ∧
      Retires e.template knownVariables host 25 ∧ locate? e.template host 25 = none ∧
      ∃ pieces : List Text, e.buildUrl [] (some page) = pieces.flatten ∧
        pieces.flatten = "https://a.com/b.com/\x7bhost[x]\x7d/\x7bhost\x7d".toList := by
  intro e page host
  have hv : host ∈ knownVariables := by decide
  have hclear : StandsClear e.template knownVariables host := by decide +kernel
  obtain ⟨hreport, hretires, -, pieces, -, hurl⟩ := lint_iff_retires e [] page hv hclear
  have hlint : .malformedVariable host 25 ∈ lint e.template :=
    malformedVariable_mem_lint_iff.2 ⟨hv, by decide +kernel⟩
  have hretired := (hreport 25).1 hlint
  have hflat : e.buildUrl [] (some page)
      = "https://a.com/b.com/\x7bhost[x]\x7d/\x7bhost\x7d".toList := by decide +kernel
  exact ⟨hv, hclear, hlint, hretired, (hretires 25 hretired).2.1, pieces, hurl,
    hurl.symm.trans hflat⟩

/-- Where a variable opens inside a token of another one, the linter and the plan can disagree
both ways. In `https://a.com/{searchTerms(a{hash[x]b)}/{hash}` the malformed `{hash` is part of
a name of a function, and no variable is retired, but it is reported. In
`https://a.com/{searchTerms(a{hash{re/)}{hash[x]}/}}` the `{hash{re/…/}}` that the linter steps
over begins inside the token of the selection. What is left of it behind that token is
malformed, and `hash` is retired there without a report. -/
theorem lint_ne_retires :
    let reported :=
      "https://a.com/\x7bsearchTerms(a\x7bhash[x]b)\x7d/\x7bhash\x7d".toList
    let unreported :=
      "https://a.com/\x7bsearchTerms(a\x7bhash\x7bre/)\x7d\x7bhash[x]\x7d/\x7d\x7d".toList
    let hash := "hash".toList
    hash ∈ knownVariables ∧
      (.malformedVariable hash 28 ∈ lint reported ∧ ¬ Retires reported knownVariables hash 28) ∧
      (.malformedVariable hash 39 ∉ lint unreported ∧
        Retires unreported knownVariables hash 39) := by
  intro reported unreported hash
  have hhash : hash ∈ knownVariables := by decide
  have hnone : retirements reported knownVariables = [] := by decide +kernel
  have hclean : firstMalformed? unreported hash = none := by decide +kernel
  refine ⟨hhash, ⟨malformedVariable_mem_lint_iff.2 ⟨hhash, by decide +kernel⟩, ?_⟩, ?_, 7,
    by decide, by decide +kernel⟩
  · rintro ⟨i, -, hi⟩
    rw [hnone] at hi
    simp at hi
  · intro hlint
    have ho := (malformedVariable_mem_lint_iff.1 hlint).2
    rw [hclean] at ho
    simp at ho

end SearchLink.Template
