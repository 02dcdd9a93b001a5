import SearchLink.Proofs.Template.Placement
import SearchLink.Proofs.Text.Percent

/-!
# `SearchLink.Proofs.Template.Skeleton`: what of a URL values cannot change

The `skeleton` of a text is what is left of it without the characters that an encoded
component is made of: its slashes, question marks, hashes, blanks and all that is not ASCII.
These characters say how a URL is read.

`buildUrl_skeleton` compares two searches with one engine. When the engine encodes values and
no token switches the encoding off, the URLs have the same skeleton, whatever is selected, on
whichever pages, and whatever the modifications make of it. It is the skeleton of the template
without its tokens.
-/

set_option autoImplicit false

namespace SearchLink.Template

/-- A text without the characters that an encoded component is made of. -/
def skeleton (t : Text) : Text := t.filter fun c => !Text.isComponentChar c

/-- The skeleton of a text is put together from those of its parts. -/
@[simp] theorem skeleton_append (a b : Text) : skeleton (a ++ b) = skeleton a ++ skeleton b :=
  List.filter_append a b

/-- What is rendered with encoding has no skeleton, whatever the chain does to the text. -/
theorem skeleton_render {registry : Registry} {chain : Chain}
    (hchain : chain.disablesEncoding = false) (t : Text) :
    skeleton (render registry true chain t) = [] := by
  simp only [skeleton, render, hchain, Bool.not_false, Bool.and_true, if_true,
    List.filter_eq_nil_iff]
  intro c hc
  simp [Text.mem_encodeComponent hc]

/-! ### Filling places in two ways -/

/-- Texts with the same skeletons at the same places give the same skeleton. -/
theorem splicePieces_skeleton {template : Text} {fill fill' : Placement → Text} {offset : Nat}
    {places : List Placement} {pieces : List Text}
    (hfill : ∀ p ∈ places, skeleton (fill p) = skeleton (fill' p))
    (h : splicePieces template fill offset places = some pieces) :
    ∃ pieces', splicePieces template fill' offset places = some pieces' ∧
      skeleton pieces.flatten = skeleton pieces'.flatten := by
  induction places generalizing offset pieces with
  | nil => exact ⟨pieces, h, rfl⟩
  | cons p ps ih =>
    obtain ⟨hp, hps⟩ := List.forall_mem_cons.1 hfill
    rw [splicePieces, Option.bind_eq_some_iff] at h
    obtain ⟨literal, hliteral, hrest⟩ := h
    obtain ⟨tail, htail, rfl⟩ := Option.map_eq_some_iff.1 hrest
    obtain ⟨tail', htail', hsame⟩ := ih hps htail
    refine ⟨literal :: fill' p :: tail', ?_, ?_⟩
    · rw [splicePieces, hliteral, Option.bind_some, htail', Option.map_some]
    · simp only [List.flatten_cons, skeleton_append, hp, hsame]

/-- With nothing at the places, what is left of a template is part of it, in its order. -/
theorem sublist_of_splicePieces_placementsFrom (front t : Text) (active : List Active)
    {literals : List Text}
    (h : splicePieces (front ++ t) (fun _ => []) front.utf8Size
      (placementsFrom t front.utf8Size active) = some literals) :
    literals.flatten.Sublist t := by
  revert literals
  refine placementsFrom_induction (motive := fun front t active ps => ∀ {literals : List Text},
    splicePieces (front ++ t) (fun _ => []) front.utf8Size ps = some literals →
      literals.flatten.Sublist t) ?_ ?_ front t active
  · intro front t active _ literals h
    have hslice := Text.sliceBytes?_append front t []
    rw [List.append_nil] at hslice
    rw [splicePieces, hslice] at h
    obtain rfl := Option.some.inj h
    simp
  · intro front t active i k token ps hbest ht _ ih literals h
    have hcut : front ++ t = (front ++ k.before ++ token) ++ k.rest := Text.append_cut front ht
    have hslice := Text.sliceBytes?_append front k.before (token ++ k.rest)
    rw [← List.append_assoc, ← hcut] at hslice
    rw [splicePieces, hslice, Option.bind_some, hcut] at h
    obtain ⟨tail, htail, rfl⟩ := Option.map_eq_some_iff.1 h
    have hrest := ih htail
    -- The token goes, and the rest keeps what it keeps.
    rw [ht, List.append_assoc]
    simp only [List.flatten_cons, List.nil_append]
    exact (List.Sublist.refl k.before).append (hrest.trans (List.sublist_append_right token _))

/-! ### Two searches -/

/-- The names that an engine looks for depend on whether there is a page, and on nothing
else. -/
theorem names_eq_of_isSome_eq {selection selection' : Text} {page page' : Option Page}
    (h : page.isSome = page'.isSome) :
    (Engine.values selection page).map Prod.fst
      = (Engine.values selection' page').map Prod.fst := by
  cases page <;> cases page' <;> first | rfl | simp at h

/-- The skeleton of a URL is that of the template with nothing at its places. -/
theorem skeleton_buildUrl {e : Engine} (hencode : e.encode = true) (selection : Text)
    (page : Option Page) {names : List Text}
    (hnames : (Engine.values selection page).map Prod.fst = names)
    (hchains : ∀ p ∈ placements e.template names, p.chain.disablesEncoding = false) :
    ∃ literals,
      splicePieces e.template (fun _ => []) 0 (placements e.template names) = some literals ∧
        skeleton (e.buildUrl selection page) = skeleton literals.flatten := by
  subst hnames
  obtain ⟨pieces, hpieces, hurl⟩ := splicePieces_placements Registry.standard e.encode e.template
    (Engine.values selection page)
  have hfill : ∀ p ∈ placements e.template ((Engine.values selection page).map Prod.fst),
      skeleton (fillPlacement Registry.standard e.encode (Engine.values selection page) p)
        = skeleton [] := by
    intro p hp
    rw [fillPlacement, hencode]
    exact skeleton_render (hchains p hp) _
  obtain ⟨literals, hliterals, hsame⟩ := splicePieces_skeleton hfill hpieces
  exact ⟨literals, hliterals, by rw [← hsame, ← hurl]; rfl⟩

/-- **No value changes the structure of a URL.** An engine that encodes values, with a
template in which no token switches the encoding off, gives URLs with the same skeleton for
all selections and for all pages. This is the skeleton of what the template has between its
tokens. -/
theorem buildUrl_skeleton (e : Engine) (hencode : e.encode = true) (selection selection' : Text)
    (page page' : Option Page) (hpage : page.isSome = page'.isSome)
    (hchains : ∀ p ∈ placements e.template ((Engine.values selection page).map Prod.fst),
      p.chain.disablesEncoding = false) :
    skeleton (e.buildUrl selection page) = skeleton (e.buildUrl selection' page') ∧
      ∃ literals,
        splicePieces e.template (fun _ => []) 0
            (placements e.template ((Engine.values selection page).map Prod.fst))
          = some literals ∧
        literals.flatten.Sublist e.template ∧
        skeleton (e.buildUrl selection page) = skeleton literals.flatten := by
  obtain ⟨literals, hliterals, hskeleton⟩ := skeleton_buildUrl hencode selection page rfl hchains
  obtain ⟨literals', hliterals', hskeleton'⟩ :=
    skeleton_buildUrl hencode selection' page' (names_eq_of_isSome_eq hpage).symm hchains
  obtain rfl := Option.some.inj (hliterals.symm.trans hliterals')
  exact ⟨hskeleton.trans hskeleton'.symm, literals, hliterals,
    sublist_of_splicePieces_placementsFrom [] e.template _ hliterals, hskeleton⟩

/-- Selections and pages full of marks leave `/?q={searchTerms(uppercase)}#{hash[0:3]}` its own
marks alone. -/
theorem buildUrl_skeleton_two_searches :
    let e : Engine := ⟨[], [],
      "/?q=\x7bsearchTerms(uppercase)\x7d#\x7bhash[0:3]\x7d".toList, none, true⟩
    let page : Page := ⟨"https://b.com/#/?".toList, "https://b.com".toList, "https:".toList,
      "b.com".toList, "b.com".toList, [], ['/'], "#/?".toList⟩
    let page' : Page := ⟨"https://b.com/".toList, "https://b.com".toList, "https:".toList,
      "b.com".toList, "b.com".toList, [], ['/'], []⟩
    e.encode = true ∧ (some page).isSome = (some page').isSome ∧
      (∀ p ∈ placements e.template
        ((Engine.values "a/b?c#d".toList (some page)).map Prod.fst),
          p.chain.disablesEncoding = false) ∧
      skeleton (e.buildUrl "a/b?c#d".toList (some page))
        = skeleton (e.buildUrl "ß\x7bhash\x7d &".toList (some page')) ∧
      skeleton (e.buildUrl "a/b?c#d".toList (some page)) = "/?=#".toList := by
  intro e page page'
  have hchains : ∀ p ∈ placements e.template
      ((Engine.values "a/b?c#d".toList (some page)).map Prod.fst),
      p.chain.disablesEncoding = false := by
    decide +kernel
  obtain ⟨hsame, -⟩ := buildUrl_skeleton e rfl "a/b?c#d".toList "ß\x7bhash\x7d &".toList
    (some page) (some page') rfl hchains
  exact ⟨rfl, rfl, hchains, hsame, by decide +kernel⟩

end SearchLink.Template
