import SearchLink.Engine
import SearchLink.Proofs.Template.PlanStep

/-!
# `SearchLink.Proofs.Template.Placement`: the places for values are fixed beforehand

`placements` lists the places for values in a template as byte spans, each with the index of
its variable and its chain. It is drawn up from the template and the names, before any text
is known. `splicePieces` cuts the template at spans and puts other texts in.

`substituteAll_fixed_places` says that this is all a substitution does. The places come in
order and do not overlap, and each is a token that `locate?` finds there. For every choice of
texts, registry and flag the result is the template with the rendered texts at those places.
So no text can add a place, remove one or move one, and a change to the text of one variable
shows at the places of that variable alone.
-/

set_option autoImplicit false

namespace SearchLink.Template

/-- A place for a value in a template. -/
structure Placement where
  /-- The bytes of the token that the value takes the place of. -/
  span : Span
  /-- The index of the variable. -/
  index : Nat
  /-- The modifications that the token asks for. -/
  chain : Chain
  deriving Repr, DecidableEq

/-- The places in the rest of a template, which stands at byte `offset`, for the names that
are still active. -/
def placementsFrom (t : Text) (offset : Nat) (active : List Active) : List Placement :=
  match _best : nearestToken? t active with
  | none => []
  | some (i, k) =>
    let stop := offset + (t.utf8Size - k.rest.utf8Size)
    ⟨⟨offset + k.before.utf8Size, stop⟩, i, k.chain⟩ ::
      placementsFrom k.rest stop (active.filter (staysActive t k.before))
termination_by t.length
decreasing_by exact nearestToken?_length _best

/-- The places for values in a template. -/
def placements (template : Text) (names : List Text) : List Placement :=
  placementsFrom template 0 (allActive names)

/-- The pieces of a template from byte `offset` on, with the text `fill p` in the place of
each placement `p`: a literal piece, a filled one, and so on, a literal piece last. `none`
when the spans are not in order or cut through a character. -/
def splicePieces (template : Text) (fill : Placement → Text) :
    Nat → List Placement → Option (List Text)
  | offset, [] => (template.sliceBytes? offset template.utf8Size).map fun literal => [literal]
  | offset, p :: ps =>
    (template.sliceBytes? offset p.span.start).bind fun literal =>
      (splicePieces template fill p.span.stop ps).map fun pieces => literal :: fill p :: pieces

/-- The text for a placement, given the values of the variables. -/
def fillPlacement (registry : Registry) (encode : Bool) (values : List (Text × Text))
    (p : Placement) : Text :=
  render registry encode p.chain (Text.trimSelection ((values.map Prod.snd).getD p.index []))

/-! ### One round -/

/-- Without a nearest token there is no place. -/
theorem placementsFrom_of_nearestToken?_eq_none {t : Text} {offset : Nat}
    {active : List Active} (h : nearestToken? t active = none) :
    placementsFrom t offset active = [] := by
  rw [placementsFrom]
  split
  · rfl
  · rename_i hbest
    rw [h] at hbest
    simp at hbest

/-- The nearest token cuts the text in three. -/
theorem exists_token_of_nearestToken? {t : Text} {active : List Active} {i : Nat} {k : Token}
    (h : nearestToken? t active = some (i, k)) :
    ∃ token, t = k.before ++ token ++ k.rest ∧ token ≠ [] := by
  obtain ⟨a, -, -, hfirst⟩ := exists_of_nearestToken? h
  obtain ⟨token, ht, hne, -⟩ := firstToken?_split hfirst
  exact ⟨token, ht, hne⟩

/-- Behind the token of a round the front has grown by what stands up to its end. -/
theorem stop_of_round (front : Text) {t token : Text} {k : Token}
    (ht : t = k.before ++ token ++ k.rest) :
    front.utf8Size + (t.utf8Size - k.rest.utf8Size) = (front ++ k.before ++ token).utf8Size := by
  rw [ht]
  simp only [Text.utf8Size_append]
  omega

/-- The nearest token is the first place. Behind a front, both ends of the token and the
places further on are counted from the end of that front. -/
theorem placementsFrom_round (front : Text) {t token : Text} {active : List Active} {i : Nat}
    {k : Token} (h : nearestToken? t active = some (i, k)) (ht : t = k.before ++ token ++ k.rest) :
    placementsFrom t front.utf8Size active
      = ⟨⟨(front ++ k.before).utf8Size, (front ++ k.before ++ token).utf8Size⟩, i, k.chain⟩ ::
          placementsFrom k.rest (front ++ k.before ++ token).utf8Size
            (active.filter (staysActive t k.before)) := by
  rw [placementsFrom]
  split
  · rename_i hbest
    rw [h] at hbest
    simp at hbest
  · rename_i j k' hbest
    rw [h] at hbest
    obtain ⟨rfl, rfl⟩ := Prod.mk.inj (Option.some.inj hbest)
    simp only [stop_of_round front ht, Text.utf8Size_append]

/-- What holds of a last round, and of a round when it holds behind its token, holds of all
rests of a template behind all fronts. The rest gets shorter with every round. -/
theorem rounds_induction {motive : Text → Text → List Active → Prop}
    (done : ∀ front t active, nearestToken? t active = none → motive front t active)
    (round : ∀ front t active i k token, nearestToken? t active = some (i, k) →
      t = k.before ++ token ++ k.rest → token ≠ [] →
      motive (front ++ k.before ++ token) k.rest (active.filter (staysActive t k.before)) →
      motive front t active)
    (front t : Text) (active : List Active) : motive front t active := by
  induction hn : t.length using Nat.strongRecOn generalizing front t active with
  | _ n ih =>
    subst hn
    cases hbest : nearestToken? t active with
    | none => exact done front t active hbest
    | some best =>
      obtain ⟨i, k⟩ := best
      obtain ⟨token, ht, hne⟩ := exists_token_of_nearestToken? hbest
      have hlen : k.rest.length < t.length := nearestToken?_length hbest
      exact round front t active i k token hbest ht hne (ih _ hlen _ _ _ rfl)

/-- The same with the places at hand. -/
theorem placementsFrom_induction {motive : Text → Text → List Active → List Placement → Prop}
    (done : ∀ front t active, nearestToken? t active = none → motive front t active [])
    (round : ∀ front t active i k token ps, nearestToken? t active = some (i, k) →
      t = k.before ++ token ++ k.rest → token ≠ [] →
      motive (front ++ k.before ++ token) k.rest (active.filter (staysActive t k.before)) ps →
      motive front t active
        (⟨⟨(front ++ k.before).utf8Size, (front ++ k.before ++ token).utf8Size⟩, i, k.chain⟩ ::
          ps))
    (front t : Text) (active : List Active) :
    motive front t active (placementsFrom t front.utf8Size active) := by
  induction front, t, active using rounds_induction with
  | done front t active hbest =>
    rw [placementsFrom_of_nearestToken?_eq_none hbest]
    exact done front t active hbest
  | round front t active i k token hbest ht hne ih =>
    rw [placementsFrom_round front hbest ht]
    exact round front t active i k token _ hbest ht hne ih

/-! ### All rounds -/

/-- The places come in order, do not overlap and are not empty. -/
theorem placementsFrom_ordered (front t : Text) (active : List Active) :
    (∀ p ∈ placementsFrom t front.utf8Size active,
        front.utf8Size ≤ p.span.start ∧ p.span.start < p.span.stop) ∧
      (placementsFrom t front.utf8Size active).Pairwise fun p q => p.span.stop ≤ q.span.start := by
  refine placementsFrom_induction (motive := fun front _ _ ps =>
    (∀ p ∈ ps, front.utf8Size ≤ p.span.start ∧ p.span.start < p.span.stop) ∧
      ps.Pairwise fun p q => p.span.stop ≤ q.span.start) ?_ ?_ front t active
  · intro front t active _
    exact ⟨by simp, .nil⟩
  · rintro front t active i k token ps - - hne ⟨hbounds, hpairs⟩
    have htoken : 0 < token.utf8Size := by
      have := mt Text.utf8Size_eq_zero_iff.1 hne
      omega
    -- The new place ends where the rest begins, and all others lie behind that.
    constructor
    · intro p hp
      rcases List.mem_cons.1 hp with rfl | hp
      · simp only [Text.utf8Size_append]
        omega
      · have := hbounds p hp
        simp only [Text.utf8Size_append] at this ⊢
        omega
    · exact .cons (fun p hp => (hbounds p hp).1) hpairs

/-- Each place is the token that is located at its start for the name with its index. -/
theorem placementsFrom_located (names : List Text) (front t : Text) (active : List Active)
    (hnames : ∀ a ∈ active, names[a.index]? = some a.name) :
    ∀ p ∈ placementsFrom t front.utf8Size active, ∃ name, names[p.index]? = some name ∧
      locate? (front ++ t) name p.span.start = some ⟨p.span, p.chain⟩ := by
  refine placementsFrom_induction (motive := fun front t active ps =>
    (∀ a ∈ active, names[a.index]? = some a.name) → ∀ p ∈ ps,
      ∃ name, names[p.index]? = some name ∧
        locate? (front ++ t) name p.span.start = some ⟨p.span, p.chain⟩) ?_ ?_ front t active
    hnames
  · intro front t active _ _ p hp
    simp at hp
  · intro front t active i k token ps hbest ht _ ih hnames p hp
    have hrest : front ++ t = (front ++ k.before ++ token) ++ k.rest := Text.append_cut front ht
    rcases List.mem_cons.1 hp with rfl | hp
    · obtain ⟨a, ha, rfl, hfirst⟩ := exists_of_nearestToken? hbest
      obtain ⟨token', ht', -, hhere⟩ := firstToken?_split hfirst
      -- Both cuts leave the same front and rest, so they cut out the same token.
      have hsame : token = token' := by
        rw [ht, List.append_assoc, List.append_assoc] at ht'
        exact List.append_cancel_right (List.append_cancel_left ht')
      subst hsame
      refine ⟨a.name, hnames a ha, ?_⟩
      rw [hrest, List.append_assoc, locate?_of_tokenHere? (front ++ k.before) hhere]
      have hstop : ((front ++ k.before) ++ (token ++ k.rest)).utf8Size - k.rest.utf8Size
          = (front ++ k.before ++ token).utf8Size := by
        simp only [Text.utf8Size_append]
        omega
      rw [hstop]
    -- The places further on are those of the rest, behind a longer front.
    · rw [hrest]
      exact ih (fun a ha => hnames a (List.mem_filter.1 ha).1) p hp

/-- Splicing the rendered texts in at the places gives the filled pieces of the plan. -/
theorem splicePieces_placementsFrom (registry : Registry) (encode : Bool)
    (values : List (Text × Text)) (front t : Text) (active : List Active) :
    splicePieces (front ++ t) (fillPlacement registry encode values) front.utf8Size
        (placementsFrom t front.utf8Size active)
      = some ((planFrom t active).map
          (fillPiece registry encode ((values.map Prod.snd).map Text.trimSelection))) := by
  refine placementsFrom_induction (motive := fun front t active ps =>
    splicePieces (front ++ t) (fillPlacement registry encode values) front.utf8Size ps
      = some ((planFrom t active).map
          (fillPiece registry encode ((values.map Prod.snd).map Text.trimSelection)))) ?_ ?_
    front t active
  · intro front t active hbest
    have hslice := Text.sliceBytes?_append front t []
    rw [List.append_nil] at hslice
    rw [planFrom_of_nearestToken?_eq_none hbest, splicePieces, hslice]
    rfl
  · intro front t active i k token ps hbest ht _ ih
    have hcut : front ++ t = (front ++ k.before ++ token) ++ k.rest := Text.append_cut front ht
    have hslice := Text.sliceBytes?_append front k.before (token ++ k.rest)
    rw [← List.append_assoc, ← hcut] at hslice
    -- One literal piece, one filled piece, and what the rest gives.
    rw [planFrom_of_nearestToken? hbest, splicePieces, hslice, hcut, ih]
    simp only [Option.bind_some, Option.map_some, List.map_cons, fillPiece, fillPlacement,
      getD_map_trim]

/-! ### Changing the text of one variable -/

/-- Two ways to fill the same places differ only at the places that they fill differently:
pieces with an odd number, in the order of the places. -/
theorem splicePieces_getElem?_ne {template : Text} {fill fill' : Placement → Text}
    {offset : Nat} {places : List Placement} {pieces pieces' : List Text}
    (h : splicePieces template fill offset places = some pieces)
    (h' : splicePieces template fill' offset places = some pieces') {m : Nat}
    (hne : pieces[m]? ≠ pieces'[m]?) :
    ∃ k p, m = 2 * k + 1 ∧ places[k]? = some p ∧ fill p ≠ fill' p := by
  induction places generalizing offset pieces pieces' m with
  | nil =>
    rw [splicePieces] at h h'
    rw [h, Option.some.injEq] at h'
    exact absurd (by rw [h']) hne
  | cons p ps ih =>
    rw [splicePieces, Option.bind_eq_some_iff] at h h'
    obtain ⟨literal, hliteral, hrest⟩ := h
    obtain ⟨literal', hliteral', hrest'⟩ := h'
    rw [hliteral] at hliteral'
    obtain rfl := Option.some.inj hliteral'
    obtain ⟨tail, htail, rfl⟩ := Option.map_eq_some_iff.1 hrest
    obtain ⟨tail', htail', rfl⟩ := Option.map_eq_some_iff.1 hrest'
    -- Piece 0 is literal, piece 1 is filled, and further on the next places count.
    match m with
    | 0 => exact absurd rfl hne
    | 1 => exact ⟨0, p, rfl, rfl, fun heq => hne (by simp [heq])⟩
    | m + 2 =>
      obtain ⟨k, q, rfl, hq, hfill⟩ := ih htail htail' (m := m) (by simpa using hne)
      exact ⟨k + 1, q, by omega, by simpa using hq, hfill⟩

/-- Values that differ at one index only give the same text at all places of other indices. -/
theorem fillPlacement_eq_of_ne {registry : Registry} {encode : Bool}
    {values values' : List (Text × Text)} {j : Nat}
    (h : ∀ i, i ≠ j → values[i]? = values'[i]?) {p : Placement} (hp : p.index ≠ j) :
    fillPlacement registry encode values p = fillPlacement registry encode values' p := by
  have hraw : (values.map Prod.snd).getD p.index [] = (values'.map Prod.snd).getD p.index [] := by
    simp only [List.getD_eq_getElem?_getD, List.getElem?_map, h p.index hp]
  simp only [fillPlacement, hraw]

/-! ### The places of a template -/

/-- The index of an active name is its place in the list of names. -/
theorem getElem?_of_mem_allActive {names : List Text} {a : Active} (ha : a ∈ allActive names) :
    names[a.index]? = some a.name := by
  obtain ⟨⟨name, i⟩, hmem, rfl⟩ := List.mem_map.1 ha
  exact List.mem_zipIdx_iff_getElem?.1 hmem

/-- A substitution splices the rendered texts in at the places of the template. -/
theorem splicePieces_placements (registry : Registry) (encode : Bool) (template : Text)
    (values : List (Text × Text)) :
    ∃ pieces,
      splicePieces template (fillPlacement registry encode values) 0
          (placements template (values.map Prod.fst)) = some pieces ∧
        substituteAll registry template values encode = pieces.flatten := by
  refine ⟨_, splicePieces_placementsFrom registry encode values [] template _, ?_⟩
  rw [substituteAll, plan, List.flatMap_def, List.map_map]
  rfl

/-- **The places for values are fixed by the template and the names.** There is one list of
places for a template and a list of names. Its spans come in order, do not overlap and are
not empty, and each is the token that `locate?` finds at its start for the name with its
index. For all values of these names, every registry and either flag, the substitution gives
the pieces of the template between the places, with the rendered texts at the places. The
URL that an engine builds is such a substitution, whatever is selected and on which page.
Two lists of values that differ at one index differ only in the pieces for places of that
index. -/
theorem substituteAll_fixed_places (template : Text) (names : List Text) :
    ∃ places : List Placement,
      (places.Pairwise fun p q => p.span.stop ≤ q.span.start) ∧
      (∀ p ∈ places, p.span.start < p.span.stop ∧ ∃ name, names[p.index]? = some name ∧
        locate? template name p.span.start = some ⟨p.span, p.chain⟩) ∧
      (∀ registry encode values, values.map Prod.fst = names → ∃ pieces,
        splicePieces template (fillPlacement registry encode values) 0 places = some pieces ∧
          substituteAll registry template values encode = pieces.flatten) ∧
      (∀ (e : Engine) selection page, e.template = template →
        (Engine.values selection page).map Prod.fst = names → ∃ pieces,
          splicePieces template
              (fillPlacement Registry.standard e.encode (Engine.values selection page)) 0 places
            = some pieces ∧
            e.buildUrl selection page = pieces.flatten) ∧
      (∀ registry encode values values' pieces pieces' j,
        values.map Prod.fst = names → values'.map Prod.fst = names →
        (∀ i, i ≠ j → values[i]? = values'[i]?) →
        splicePieces template (fillPlacement registry encode values) 0 places = some pieces →
        splicePieces template (fillPlacement registry encode values') 0 places = some pieces' →
        ∀ m, pieces[m]? ≠ pieces'[m]? →
          ∃ k p, m = 2 * k + 1 ∧ places[k]? = some p ∧ p.index = j) := by
  obtain ⟨hbounds, hpairs⟩ := placementsFrom_ordered [] template (allActive names)
  have hlocated := placementsFrom_located names [] template (allActive names)
    fun a ha => getElem?_of_mem_allActive ha
  refine ⟨placements template names, hpairs, fun p hp => ⟨(hbounds p hp).2, hlocated p hp⟩,
    ?_, ?_, ?_⟩
  · rintro registry encode values rfl
    exact splicePieces_placements registry encode template values
  · rintro e selection page rfl rfl
    exact splicePieces_placements Registry.standard e.encode e.template
      (Engine.values selection page)
  -- A piece that differs is a filled one, and only places of index `j` are filled differently.
  · intro registry encode values values' pieces pieces' j _ _ hagree hpieces hpieces' m hne
    obtain ⟨k, p, hm, hp, hfill⟩ := splicePieces_getElem?_ne hpieces hpieces' hne
    by_contra hno
    have hindex : p.index ≠ j := fun hj => hno ⟨k, p, hm, hp, hj⟩
    exact hfill (fillPlacement_eq_of_ne hagree hindex)

/-- In `?q={searchTerms}&{hash}` the selection `{hash}{searchTerms}` adds no place, also when
an engine builds its URL from it. Against the selection `uv` some piece differs, and it stands
at a place that is a token of `searchTerms`. -/
theorem substituteAll_fixed_places_two_selections :
    ∃ (places : List Placement) (pieces pieces' : List Text) (m k : Nat) (p : Placement),
      pieces.flatten = "?q=\x7bhash\x7d\x7bsearchTerms\x7d&\x7bhash\x7d".toList ∧
      pieces'.flatten = "?q=uv&\x7bhash\x7d".toList ∧
      Engine.buildUrl ⟨[], [], "?q=\x7bsearchTerms\x7d&\x7bhash\x7d".toList, none, false⟩
        "\x7bhash\x7d\x7bsearchTerms\x7d".toList none = pieces.flatten ∧
      pieces[m]? ≠ pieces'[m]? ∧ m = 2 * k + 1 ∧ places[k]? = some p ∧ p.index = 0 ∧
      p.span.start < p.span.stop ∧ ∃ name, [searchTerms][p.index]? = some name ∧
        locate? "?q=\x7bsearchTerms\x7d&\x7bhash\x7d".toList name p.span.start
          = some ⟨p.span, p.chain⟩ := by
  obtain ⟨places, -, hmem, hfill, hbuild, hchange⟩ :=
    substituteAll_fixed_places "?q=\x7bsearchTerms\x7d&\x7bhash\x7d".toList [searchTerms]
  obtain ⟨pieces, hpieces, htext⟩ := hfill Registry.standard false
    [(searchTerms, "\x7bhash\x7d\x7bsearchTerms\x7d".toList)] rfl
  obtain ⟨pieces', hpieces', htext'⟩ := hfill Registry.standard false
    [(searchTerms, "uv".toList)] rfl
  obtain ⟨built, hbuilt, hurl⟩ := hbuild
    ⟨[], [], "?q=\x7bsearchTerms\x7d&\x7bhash\x7d".toList, none, false⟩
    "\x7bhash\x7d\x7bsearchTerms\x7d".toList none rfl rfl
  obtain rfl : pieces = built := Option.some.inj (hpieces.symm.trans hbuilt)
  have hflat : pieces.flatten
      = "?q=\x7bhash\x7d\x7bsearchTerms\x7d&\x7bhash\x7d".toList := by
    rw [← htext]
    decide +kernel
  have hflat' : pieces'.flatten = "?q=uv&\x7bhash\x7d".toList := by
    rw [← htext']
    decide +kernel
  have hagree : ∀ i, i ≠ 0 →
      [(searchTerms, "\x7bhash\x7d\x7bsearchTerms\x7d".toList)][i]?
        = [(searchTerms, "uv".toList)][i]? := by
    intro i hi
    obtain ⟨i, rfl⟩ := Nat.exists_eq_succ_of_ne_zero hi
    rfl
  obtain ⟨m, hm⟩ : ∃ m, pieces[m]? ≠ pieces'[m]? := by
    by_contra hsame
    have heq : pieces = pieces' := List.ext_getElem? fun m => by
      by_contra hm
      exact hsame ⟨m, hm⟩
    rw [heq, hflat'] at hflat
    exact absurd hflat (by decide)
  obtain ⟨k, p, hk, hp, hindex⟩ := hchange Registry.standard false _ _ pieces pieces' 0 rfl rfl
    hagree hpieces hpieces' m hm
  obtain ⟨hspan, hname⟩ := hmem p (List.mem_of_getElem? hp)
  exact ⟨places, pieces, pieces', m, k, p, hflat, hflat', hurl, hm, hk, hp, hindex, hspan, hname⟩

end SearchLink.Template
