import SearchLink.Engine
import SearchLink.Proofs.Template.KnownNames
import SearchLink.Proofs.Template.Scanner

/-!
# `SearchLink.Proofs.Template.EntryOrder`: which entries a template can tell apart

The values of a template are filled in from a list of entries, and of two entries with a token
at the same place the earlier one wins. This module says when that does not matter:

* `sameWalk_perm`: the order of entries does not, as long as their names are kept apart
  (`KeptApart`).
* `sameWalk_second`: a second entry for the letters of a name does not.
* `sameWalk_tokenFree`: entries without a token in the template do not, wherever they stand.

Each of them compares two walks over the same template. `SameWalk` is what such a comparison
has to show: a relation between two lists of entries under which both walks find the same entry
at a character, and which holds on when both go on. The walks then give the same text, by
induction over the rest of the template (`SameWalk.scan_eq`).
-/

set_option autoImplicit false

namespace SearchLink.Template

/-! ### Two walks over one template -/

/-- A relation between the entries of two walks, at the rest of the template that both have
still to go over. -/
structure SameWalk (R : Text → List (Text × Text) → List (Text × Text) → Prop) : Prop where
  /-- Both walks find the same entry with a token at the start. -/
  found : ∀ {t entries entries'}, R t entries entries' →
    firstHere? Prod.fst t entries = firstHere? Prod.fst t entries'
  /-- Both can go on further behind. -/
  rest : ∀ {t r entries entries'}, R t entries entries' → r <:+ t → R r entries entries'
  /-- Both can retire the entries that open at the start. -/
  retired : ∀ {t entries entries'}, R t entries entries' →
    R t (entries.filter fun e => !opensHere e.1 t) (entries'.filter fun e => !opensHere e.1 t)

section
variable {R : Text → List (Text × Text) → List (Text × Text) → Prop}
variable (registry : Registry) (encode : Bool)

/-- Walks that are related give the same text. -/
theorem SameWalk.scan_eq (hwalk : SameWalk R) {t : Text} {entries entries' : List (Text × Text)}
    (h : R t entries entries') :
    scan registry encode entries t = scan registry encode entries' t := by
  -- Both walks go on behind a token or behind one character, so the rest gets shorter.
  induction hn : t.length using Nat.strongRecOn generalizing t entries entries' with
  | _ n ih =>
    subst hn
    cases t with
    | nil => rw [scan, scan]
    | cons c r =>
      have hsame := hwalk.found h
      cases hfound : firstHere? Prod.fst (c :: r) entries with
      | some found =>
        obtain ⟨entry, chain, rest⟩ := found
        have htoken := (mem_of_firstHere? hfound).2
        rw [scan_of_firstHere? registry encode hfound,
          scan_of_firstHere? registry encode (hsame.symm.trans hfound),
          ih rest.length (tokenHere?_length htoken)
            (hwalk.rest h (tokenHere?_suffix htoken)) rfl]
      | none =>
        rw [scan_cons registry encode hfound, scan_cons registry encode (hsame.symm.trans hfound),
          ih r.length (Nat.lt_succ_self _)
            (hwalk.rest (hwalk.retired h) (List.suffix_cons c r)) rfl]

/-- Lists of entries that are related at the whole template fill it in alike. -/
theorem SameWalk.substituteAll_eq (hwalk : SameWalk R) {template : Text}
    {values values' : List (Text × Text)} (h : R template values values') :
    substituteAll registry template values encode
      = substituteAll registry template values' encode := by
  rw [substituteAll_eq_fillPieces, substituteAll_eq_fillPieces, fillPieces_plan,
    fillPieces_plan, hwalk.scan_eq registry encode h]

end

/-! ### Order -/

/-- Two names that are kept apart: they are different up to case, and where one of them begins
with the letters of the other, it does not go on with a mark that a chain can begin with. -/
structure KeptApart (v w : Text) : Prop where
  /-- The letters of the names are not the same. -/
  differ : ¬ SameLetters v w
  /-- The second name does not go on with a mark behind the letters of the first. -/
  second : ∀ word n x, w = word ++ n :: x → SameLetters word v → n ∉ chainStarts
  /-- The first name does not go on with a mark behind the letters of the second. -/
  first : ∀ word n x, v = word ++ n :: x → SameLetters word w → n ∉ chainStarts

/-- Whether a name begins with the letters of another one and goes on with a mark that a chain
can begin with. -/
def goesOnWithMark (v w : Text) : Bool :=
  match readName? v w with
  | some (n :: _) => chainStarts.contains n
  | _ => false

/-- A name does not go on with a mark, whatever spelling of the other name it begins with. -/
theorem goesOnWithMark_eq_false_iff {v w : Text} :
    goesOnWithMark v w = false ↔
      ∀ word n x, w = word ++ n :: x → SameLetters word v → n ∉ chainStarts := by
  have hread : ∀ n x, readName? v w = some (n :: x) ↔
      ∃ word, w = word ++ n :: x ∧ SameLetters word v := fun _ _ => readName?_eq_some_iff
  constructor
  · intro h word n x hw hword
    have hn := (hread n x).2 ⟨word, hw, hword⟩
    simpa [goesOnWithMark, hn] using h
  · intro h
    unfold goesOnWithMark
    split
    · rename_i n x hn
      obtain ⟨word, hw, hword⟩ := (hread n x).1 hn
      simpa using h word n x hw hword
    · rfl

instance (v w : Text) : Decidable (KeptApart v w) :=
  decidable_of_iff
    (¬ SameLetters v w ∧ goesOnWithMark v w = false ∧ goesOnWithMark w v = false)
    ⟨fun ⟨hdiffer, hsecond, hfirst⟩ => ⟨hdiffer, goesOnWithMark_eq_false_iff.1 hsecond,
        goesOnWithMark_eq_false_iff.1 hfirst⟩,
      fun h => ⟨h.differ, goesOnWithMark_eq_false_iff.2 h.second,
        goesOnWithMark_eq_false_iff.2 h.first⟩⟩

/-- Names are kept apart from each other. -/
theorem KeptApart.symm {v w : Text} (h : KeptApart v w) : KeptApart w v where
  differ hsame := h.differ hsame.symm
  second := h.first
  first := h.second

/-- Where a name opens that begins with the letters of another one, the other one has no
token. -/
theorem KeptApart.tokenHere?_eq_none_of_word {v word x t : Text} (h : KeptApart v (word ++ x))
    (hword : SameLetters word v) (hopens : opensHere (word ++ x) t = true) :
    tokenHere? v t = none := by
  cases x with
  | nil =>
    rw [List.append_nil] at h
    exact absurd hword.symm h.differ
  | cons n x =>
    have hn : ∀ c ∈ chainStarts, Unicode.sameLetter c n = false := by
      intro c hc
      rw [← Bool.not_eq_true]
      intro hsame
      -- The mark is no other letter than itself, so the name would go on with the mark.
      have hmark := h.second word n x rfl hword
      rw [eq_of_sameLetter_chainStart hc hsame] at hmark
      exact hmark hc
    rw [← hword.tokenHere?_eq t]
    exact tokenHere?_eq_none_of_longer hn hopens

/-- Of two names that are kept apart, at most one has a token at the start of a text. -/
theorem KeptApart.tokenHere?_eq_none {v w t : Text} (h : KeptApart v w)
    (htoken : (tokenHere? v t).isSome) : tokenHere? w t = none := by
  rw [← Option.not_isSome_iff_eq_none]
  intro htoken'
  obtain ⟨token, hv⟩ := Option.isSome_iff_exists.1 htoken
  obtain ⟨token', hw⟩ := Option.isSome_iff_exists.1 htoken'
  have hvopens := opensHere_of_tokenHere? hv
  have hwopens := opensHere_of_tokenHere? hw
  -- Both open, so one begins with the letters of the other.
  rcases exists_word_of_lettersAgree (lettersAgree_of_opensHere hvopens hwopens) with
    ⟨word, x, rfl, hword⟩ | ⟨word, x, rfl, hword⟩
  · rw [h.tokenHere?_eq_none_of_word hword hwopens] at hv
    simp at hv
  · rw [h.symm.tokenHere?_eq_none_of_word hword hvopens] at hw
    simp at hw

/-- Among entries that are kept apart, the one with a token at the start is the only one, so it
is found in every order. -/
theorem firstHere?_perm {t : Text} {entries entries' : List (Text × Text)}
    (hperm : entries.Perm entries')
    (hapart : entries.Pairwise fun e f => KeptApart e.1 f.1) :
    firstHere? Prod.fst t entries = firstHere? Prod.fst t entries' := by
  induction hperm with
  | nil => rfl
  | cons e _ ih =>
    rw [firstHere?, firstHere?, ih hapart.of_cons]
  | swap e f rest =>
    have hfe : KeptApart f.1 e.1 := List.rel_of_pairwise_cons hapart List.mem_cons_self
    simp only [firstHere?]
    cases hf : tokenHere? f.1 t with
    | none => rfl
    | some token =>
      rw [hfe.tokenHere?_eq_none (Option.isSome_of_eq_some hf)]
  | trans hperm _ ih ih' =>
    have hsymm : ∀ {e f : Text × Text}, KeptApart e.1 f.1 → KeptApart f.1 e.1 := KeptApart.symm
    exact (ih hapart).trans (ih' ((hperm.pairwise_iff hsymm).1 hapart))

/-- Walks whose entries stand in another order. -/
theorem sameWalk_perm : SameWalk fun _ entries entries' =>
    entries.Perm entries' ∧ entries.Pairwise fun e f => KeptApart e.1 f.1 where
  found h := firstHere?_perm h.1 h.2
  rest h _ := h
  retired h := ⟨h.1.filter _, h.2.filter _⟩

/-! ### A second entry for a name -/

/-- Behind entries without a token at the start, further entries are looked at. -/
theorem firstHere?_append (t : Text) (entries more : List (Text × Text)) :
    firstHere? Prod.fst t (entries ++ more)
      = (firstHere? Prod.fst t entries).or (firstHere? Prod.fst t more) := by
  induction entries with
  | nil => simp [firstHere?]
  | cons e entries ih =>
    rw [List.cons_append, firstHere?, firstHere?, ih]
    cases tokenHere? e.1 t <;> rfl

/-- Walks of which one has a second entry for the letters of a name, unless the name has been
retired. -/
theorem sameWalk_second (e : Text × Text) : SameWalk fun _ entries entries' =>
    entries = entries' ∨
      entries = entries' ++ [e] ∧ ∃ f ∈ entries', SameLetters e.1 f.1 where
  found := by
    rintro t entries entries' (rfl | ⟨rfl, f, hf, hsame⟩)
    · rfl
    · rw [firstHere?_append]
      cases hfound : firstHere? Prod.fst t entries' with
      | some found => rfl
      | none =>
        -- The earlier entry has no token here, so the second one has none.
        have hnone := firstHere?_eq_none_iff.1 hfound f hf
        rw [← hsame.tokenHere?_eq t] at hnone
        rw [firstHere?, hnone]
        rfl
  rest h _ := h
  retired := by
    rintro t entries entries' (rfl | ⟨rfl, f, hf, hsame⟩)
    · exact .inl rfl
    · rw [List.filter_append]
      cases hopens : opensHere e.1 t with
      | true => exact .inl (by simp [hopens])
      | false =>
        have hkept : f ∈ entries'.filter fun e => !opensHere e.1 t := by
          rw [hsame.opensHere_eq t] at hopens
          exact List.mem_filter.2 ⟨hf, by rw [hopens]; rfl⟩
        exact .inr ⟨by simp [hopens], f, hkept, hsame⟩

/-! ### Entries without a token -/

/-- No token of a name is located in a template, from whatever offset on. -/
def TokenFree (template name : Text) : Prop := ∀ start, locate? template name start = none

/-- Where the letters of `{name` do not stand, there is no token. -/
theorem tokenFree_of_findOffset?_eq_none {template name : Text}
    (h : findOffset? template name 0 = none) : TokenFree template name := by
  intro start
  rw [Option.eq_none_iff_forall_ne_some]
  intro k hk
  obtain ⟨t, o, -, ht, ho, -⟩ := locate?_eq_some_iff.1 hk
  obtain ⟨front, rfl, -⟩ := Text.dropBytes?_eq_some_iff.1 ht
  -- The name opens behind the offset, so it opens in the template.
  have hopens : opensIn name (front ++ t) = true :=
    opensIn_of_suffix (List.suffix_append front t) (Option.isSome_of_eq_some ho)
  obtain ⟨first, hfirst⟩ := Option.isSome_iff_exists.1 hopens
  have hwhole : Text.dropBytes? (front ++ t) 0 = some (front ++ t) :=
    Text.dropBytes?_append [] (front ++ t)
  simp [findOffset?, hwhole, hfirst] at h

/-- Without a token that is located, none stands at the start of any end of the template. -/
theorem TokenFree.tokenHere?_eq_none {template name r : Text} (h : TokenFree template name)
    (hsuffix : r <:+ template) : tokenHere? name r = none := by
  obtain ⟨front, rfl⟩ := hsuffix
  rw [Option.eq_none_iff_forall_ne_some]
  rintro ⟨chain, rest⟩ htoken
  have hlocate := locate?_of_tokenHere? front htoken
  rw [h (Text.utf8Size front)] at hlocate
  simp at hlocate

/-- Walks of which one has further entries that never have a token. The entries that both have
are those in `common`. -/
theorem sameWalk_tokenFree (common : Text × Text → Bool) : SameWalk fun t entries entries' =>
    entries.filter common = entries'.filter common ∧
      ∀ e, common e = false → ∀ r, r <:+ t → tokenHere? e.1 r = none where
  found := by
    rintro t entries entries' ⟨hcommon, hnone⟩
    have htoken : ∀ e, (tokenHere? e.1 t).isSome → common e = true := by
      intro e he
      rw [← Bool.not_eq_false]
      intro hother
      rw [hnone e hother t List.suffix_rfl] at he
      simp at he
    rw [← firstHere?_filter Prod.fst t fun e _ => htoken e, hcommon,
      firstHere?_filter Prod.fst t fun e _ => htoken e]
  rest h hsuffix := ⟨h.1, fun e he r hr => h.2 e he r (hr.trans hsuffix)⟩
  retired := by
    rintro t entries entries' ⟨hcommon, hnone⟩
    refine ⟨?_, hnone⟩
    rw [List.filter_comm, hcommon, List.filter_comm]

/-- The entries of a page are those that its variables name. -/
theorem filter_values (selection : Text) (page : Page) :
    (Engine.values selection (some page)).filter (fun e => e.1 ∉ pageVariables)
      = (Engine.values selection none).filter fun e => e.1 ∉ pageVariables := by
  have hpage : (page.variables.filter fun e => e.1 ∉ pageVariables) = [] := by
    rw [List.filter_eq_nil_iff]
    intro e he
    have hname : e.1 ∈ pageVariables := (List.of_mem_zip he).1
    simpa using hname
  have hsome : Engine.values selection (some page)
      = page.variables ++ Engine.values selection none := rfl
  rw [hsome, List.filter_append, hpage, List.nil_append]

/-! ### What does not matter -/

/-- **The order of entries does not matter, nor do entries that add nothing.** Take any
template, registry and flag.

* When the names of the entries are kept apart, every order of the entries gives the same text.
* A further entry at the end, for the letters of an earlier name, changes nothing.
* A further entry anywhere changes nothing when its name has no token in the template, as when
  the letters of `{name` do not stand there at all.
* So an engine whose template has no token of a page's variables gives the same URL with a page
  and without one. -/
theorem entry_order_and_redundancy (registry : Registry) (encode : Bool) (template : Text) :
    (∀ values values' : List (Text × Text), values.Perm values' →
      values.Pairwise (fun e f => KeptApart e.1 f.1) →
        substituteAll registry template values encode
          = substituteAll registry template values' encode) ∧
    (∀ (values : List (Text × Text)) (e : Text × Text), (∃ f ∈ values, SameLetters e.1 f.1) →
        substituteAll registry template (values ++ [e]) encode
          = substituteAll registry template values encode) ∧
    (∀ (front back : List (Text × Text)) (e : Text × Text), TokenFree template e.1 →
        substituteAll registry template (front ++ e :: back) encode
          = substituteAll registry template (front ++ back) encode) ∧
    (∀ name, findOffset? template name 0 = none → TokenFree template name) ∧
    ∀ (engine : Engine) (selection : Text) (page : Page),
      (∀ v ∈ pageVariables, TokenFree engine.template v) →
        engine.buildUrl selection (some page) = engine.buildUrl selection none := by
  refine ⟨?_, ?_, ?_, fun _ => tokenFree_of_findOffset?_eq_none, ?_⟩
  · intro values values' hperm hapart
    exact sameWalk_perm.substituteAll_eq registry encode ⟨hperm, hapart⟩
  · intro values e hsame
    exact (sameWalk_second e).substituteAll_eq registry encode (.inr ⟨rfl, hsame⟩)
  · intro front back e hfree
    refine (sameWalk_tokenFree fun f => f ≠ e).substituteAll_eq registry encode ⟨?_, ?_⟩
    · simp
    · intro f hf r hr
      obtain rfl : f = e := by simpa using hf
      exact hfree.tokenHere?_eq_none hr
  · intro engine selection page hfree
    refine (sameWalk_tokenFree fun f => f.1 ∉ pageVariables).substituteAll_eq _ _
      ⟨filter_values selection page, ?_⟩
    intro f hf r hr
    exact (hfree f.1 (by simpa using hf)).tokenHere?_eq_none hr

/-- In `{host}{HOSTNAME[0]}` the names `host` and `hostname` can be given in either order, a
second entry for `HOST` is not looked at, and an entry for `hash` is not needed. An engine that
asks for the selection alone does not depend on the page. -/
theorem entry_order_and_redundancy_host :
    substituteAll .standard "\x7bhost\x7d\x7bHOSTNAME[0]\x7d".toList
        [("host".toList, "a:1".toList), ("hostname".toList, ['a'])] true
      = substituteAll .standard "\x7bhost\x7d\x7bHOSTNAME[0]\x7d".toList
        [("hostname".toList, ['a']), ("host".toList, "a:1".toList)] true ∧
    substituteAll .standard "\x7bhost\x7d\x7bHOSTNAME[0]\x7d".toList
        ([("host".toList, "a:1".toList)] ++ [("HOST".toList, ['b'])]) true
      = substituteAll .standard "\x7bhost\x7d\x7bHOSTNAME[0]\x7d".toList
        [("host".toList, "a:1".toList)] true ∧
    substituteAll .standard "\x7bhost\x7d\x7bHOSTNAME[0]\x7d".toList
        ([("host".toList, "a:1".toList)] ++ ("hash".toList, ['b']) :: [("hostname".toList, ['a'])])
        true
      = substituteAll .standard "\x7bhost\x7d\x7bHOSTNAME[0]\x7d".toList
        ([("host".toList, "a:1".toList)] ++ [("hostname".toList, ['a'])]) true ∧
    Engine.buildUrl ⟨['e'], ['E'], "https://e/\x7bsearchTerms\x7d".toList, none, true⟩ ['s']
        (some ⟨"ftp://a/".toList, "ftp://a".toList, "ftp:".toList, ['a'], ['a'], [], ['/'], []⟩)
      = Engine.buildUrl ⟨['e'], ['E'], "https://e/\x7bsearchTerms\x7d".toList, none, true⟩ ['s']
        none := by
  obtain ⟨horder, hsecond, hfree, hnone, hpage⟩ := entry_order_and_redundancy .standard true
    "\x7bhost\x7d\x7bHOSTNAME[0]\x7d".toList
  have hpages : ∀ v ∈ pageVariables,
      findOffset? "https://e/\x7bsearchTerms\x7d".toList v 0 = none := by
    decide +kernel
  refine ⟨horder _ _ (.swap _ _ _) ?_, hsecond _ _ ⟨_, List.mem_singleton_self _, ?_⟩,
    hfree _ _ _ (hnone _ ?_),
    hpage _ _ _ fun v hv => tokenFree_of_findOffset?_eq_none (hpages v hv)⟩
  · decide +kernel
  · decide +kernel
  · decide +kernel

end SearchLink.Template
