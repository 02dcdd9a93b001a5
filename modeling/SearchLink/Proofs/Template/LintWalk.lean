import SearchLink.Proofs.Template.KnownNames
import SearchLink.Proofs.Template.Retirement
import Mathlib.Data.List.Pairwise

/-!
# `SearchLink.Proofs.Template.LintWalk`: what the linter finds

The linter walks over a template with one name alone. It steps over the tokens of that name
and over the braces where a longer name has a token, and stops at the first other opening. A
plan looks for all of its names at once, and steps over the tokens of all of them.

`Settled` is what the two have in common behind any front: whatever opens in front lies in a
place of the plan. Each step of the walk keeps it (`Settled.of_readChain`,
`Settled.of_isShadowed`), provided that the name does not open inside the place of another
variable (`StandsClear`). So the walk ends at the first opening outside all places
(`firstMalformed?_eq_some_iff`), or finds none when there is none
(`firstMalformed?_eq_none_iff`).
-/

set_option autoImplicit false

namespace SearchLink.Template

/-! ### One step of the walk -/

section
variable {known : List Text} {name t : Text} {offset : Nat}

/-- Where the name does not open any more, the walk ends. -/
theorem firstMalformedFrom_of_none (h : findOpening? name t = none) :
    firstMalformedFrom known name t offset = none := by
  rw [firstMalformedFrom]
  split
  · rfl
  · rename_i hfound
    rw [h] at hfound
    simp at hfound

/-- The walk goes on behind a well-formed token. -/
theorem firstMalformedFrom_of_readChain {o : Opening} {chain : Chain} {rest : Text}
    (h : findOpening? name t = some o) (hchain : readChain o.after = some (chain, rest)) :
    firstMalformedFrom known name t offset
      = firstMalformedFrom known name rest (offset + (t.utf8Size - rest.utf8Size)) := by
  rw [firstMalformedFrom]
  split
  · rename_i hfound
    rw [h] at hfound
    simp at hfound
  · rename_i o' hfound
    rw [h] at hfound
    obtain rfl := Option.some.inj hfound
    split
    · rename_i hread
      rw [hchain] at hread
      obtain ⟨-, rfl⟩ := Prod.mk.inj (Option.some.inj hread)
      rfl
    · rename_i hread
      rw [hchain] at hread
      simp at hread

/-- At a malformed token the walk stops, or goes on behind the brace where the name is
shadowed. -/
theorem firstMalformedFrom_of_malformed {o : Opening} (h : findOpening? name t = some o)
    (hchain : readChain o.after = none) :
    firstMalformedFrom known name t offset
      = if isShadowed known name (t.drop o.before.length) then
          firstMalformedFrom known name (t.drop (o.before.length + 1))
            (offset + o.before.utf8Size + 1)
        else some (offset + o.before.utf8Size) := by
  rw [firstMalformedFrom]
  split
  · rename_i hfound
    rw [h] at hfound
    simp at hfound
  · rename_i o' hfound
    rw [h] at hfound
    obtain rfl := Option.some.inj hfound
    split
    · rename_i hread
      rw [hchain] at hread
      simp at hread
    · rfl

end

/-- How the linter deals with names that open where another name has a token: given the names
it knows, and those that a plan looks for. -/
structure SeesShadows (known names : List Text) (name : Text) : Prop where
  /-- Where another name of the plan has a token, the name has none and counts as shadowed. -/
  shadowed : ∀ other ∈ names, other ≠ name → ∀ t, opensHere name t = true →
    (tokenHere? other t).isSome → tokenHere? name t = none ∧ isShadowed known name t = true
  /-- Where the name counts as shadowed, a name of the plan that begins with it has a token. -/
  longer : ∀ t, isShadowed known name t = true →
    ∃ other ∈ names, name <+: other ∧ (tokenHere? other t).isSome

/-- Whether a name opens inside the place of another variable only where that place starts. -/
def StandsClear (template : Text) (names : List Text) (name : Text) : Prop :=
  ∀ p ∈ placements template names, names[p.index]? ≠ some name →
    ∀ s, IsOpening template name s → p.span.Covers s → s = p.span.start

/-! ### What is located at an opening -/

/-- Whatever is located stands where the name opens. -/
theorem isOpening_of_locate? {template name : Text} {s : Nat} {k : Occurrence}
    (h : locate? template name s = some k) : IsOpening template name k.span.start := by
  obtain ⟨t, o, rest, ht, ho, -, hspan⟩ := locate?_eq_some_iff.1 h
  obtain ⟨front, rfl, rfl⟩ := Text.dropBytes?_eq_some_iff.1 ht
  obtain ⟨a, hopens⟩ := firstOpensAt_of_findOpening? front ho
  rw [hspan, ← Text.utf8Size_append]
  exact ⟨a, hopens.opens⟩

/-- A name opens at an offset when its letters stand at the start of what lies behind. -/
theorem isOpening_iff {template name : Text} {s : Nat} :
    IsOpening template name s ↔
      ∃ t, template.dropBytes? s = some t ∧ opensHere name t = true := by
  constructor
  · rintro ⟨a, word, hslice, hword⟩
    obtain ⟨front, rest, rfl, rfl, -⟩ := Text.sliceBytes?_eq_some_iff.1 hslice
    have hread : readName? ('{' :: name) (word ++ rest) = some rest :=
      readName?_eq_some_iff.2 ⟨word, rfl, hword⟩
    refine ⟨word ++ rest, ?_, by simp [opensHere, hread]⟩
    rw [List.append_assoc, Text.dropBytes?_append]
  · rintro ⟨t, ht, hopens⟩
    obtain ⟨front, rfl, rfl⟩ := Text.dropBytes?_eq_some_iff.1 ht
    obtain ⟨after, hread⟩ := Option.isSome_iff_exists.1 hopens
    obtain ⟨word, rfl, hword⟩ := readName?_eq_some_iff.1 hread
    exact ⟨_, word, Text.sliceBytes?_eq_some_iff.2
      ⟨front, after, (List.append_assoc _ _ _).symm, rfl, rfl⟩, hword⟩

instance (template name : Text) (s : Nat) : Decidable (IsOpening template name s) :=
  decidable_of_iff ((template.dropBytes? s).any (opensHere name) = true)
    (by simp only [isOpening_iff, Option.any_eq_true])

/-- Only offsets inside the places count, so there are finitely many of them to look at. -/
instance (template : Text) (names : List Text) (name : Text) :
    Decidable (StandsClear template names name) :=
  decidable_of_iff
    (∀ p ∈ placements template names, names[p.index]? ≠ some name → ∀ s < p.span.stop,
      IsOpening template name s → p.span.start ≤ s → s = p.span.start)
    ⟨fun h p hp hother s hopens hcovers => h p hp hother s hcovers.2 hopens hcovers.1,
      fun h p hp hother s hlt hopens hle => h p hp hother s hopens ⟨hle, hlt⟩⟩

/-- Where a name opens, so does every beginning of it. -/
theorem IsOpening.of_prefix {template name other : Text} {s : Nat} (hbegins : name <+: other)
    (h : IsOpening template other s) : IsOpening template name s := by
  obtain ⟨t, ht, hopens⟩ := isOpening_iff.1 h
  exact isOpening_iff.2 ⟨t, ht, opensHere_of_prefix hbegins hopens⟩

/-- An occurrence located at the offset where it starts is the token that stands there. -/
theorem tokenHere?_of_locate? {front t name : Text} {k : Occurrence}
    (h : locate? (front ++ t) name front.utf8Size = some k)
    (hstart : k.span.start = front.utf8Size) : (tokenHere? name t).isSome := by
  obtain ⟨t', o, rest, ht, ho, hchain, hspan⟩ := locate?_eq_some_iff.1 h
  rw [Text.dropBytes?_append] at ht
  obtain rfl := Option.some.inj ht
  -- Nothing stands in front of the opening.
  have hbefore : o.before = [] := by
    refine Text.utf8Size_eq_zero_iff.1 ?_
    rw [hspan] at hstart
    dsimp only at hstart
    omega
  obtain ⟨word, hsplit, hword⟩ := findOpening?_split ho
  have hread : readName? ('{' :: name) t = some o.after :=
    readName?_eq_some_iff.2 ⟨word, by rw [hsplit, hbefore, List.nil_append], hword⟩
  simp [tokenHere?, hread, hchain]

/-! ### The walk and the places of a plan -/

/-- Where a walk stands that has settled all in front: whatever opens there lies in a place,
and no place for the name itself reaches beyond. -/
structure Settled (template : Text) (names : List Text) (name front : Text) : Prop where
  covered : ∀ s, IsOpening template name s → s < front.utf8Size →
    ∃ p ∈ placements template names, p.span.Covers s
  outside : ∀ p ∈ placements template names, names[p.index]? = some name →
    ¬ (p.span.start < front.utf8Size ∧ front.utf8Size < p.span.stop)

section
variable {known names : List Text} {front t name : Text} {o : Opening} {p : Placement}

/-- Each place is the token located at its start for its name. -/
theorem locate?_of_mem_placements {template : Text} (hp : p ∈ placements template names) :
    ∃ other, names[p.index]? = some other ∧
      locate? template other p.span.start = some ⟨p.span, p.chain⟩ :=
  placementsFrom_located names [] template (allActive names)
    (fun _ ha => getElem?_of_mem_allActive ha) p hp

/-- Two places that cover one offset are the same. -/
theorem eq_of_covers {template : Text} {q : Placement} {s : Nat}
    (hp : p ∈ placements template names) (hq : q ∈ placements template names)
    (hps : p.span.Covers s) (hqs : q.span.Covers s) : p = q := by
  let apart (p q : Placement) : Prop := p.span.stop ≤ q.span.start ∨ q.span.stop ≤ p.span.start
  have hsymm : Std.Symm apart := ⟨fun _ _ h => h.symm⟩
  have hpairs : (placements template names).Pairwise apart :=
    (placementsFrom_ordered [] template (allActive names)).2.imp Or.inl
  by_contra hne
  have hapart : apart p q := hpairs.forall hp hq hne
  obtain ⟨hp₁, hp₂⟩ := hps
  obtain ⟨hq₁, hq₂⟩ := hqs
  simp only [apart] at hapart
  omega

/-- What stands at and behind an opening. -/
theorem drop_before {before word after : Text} (h : t = before ++ word ++ after) :
    t.drop before.length = word ++ after := by
  rw [h, List.append_assoc]
  exact List.drop_left

/-- A place of the name itself that covers the first opening is the token that opens there. -/
theorem start_eq_of_own (hs : Settled (front ++ t) names name front)
    (ho : findOpening? name t = some o) (hp : p ∈ placements (front ++ t) names)
    (hown : names[p.index]? = some name) (hcovers : p.span.Covers (front ++ o.before).utf8Size) :
    p.span.start = (front ++ o.before).utf8Size ∧
      locate? (front ++ t) name (front ++ o.before).utf8Size = some ⟨p.span, p.chain⟩ := by
  obtain ⟨other, hother, hlocate⟩ := locate?_of_mem_placements hp
  rw [hown] at hother
  obtain rfl := Option.some.inj hother
  obtain ⟨a, hfirst⟩ := firstOpensAt_of_findOpening? front ho
  obtain ⟨hle, hlt⟩ := hcovers
  have hstart := hfirst.start_le
  -- The place does not reach over the front, so it starts behind it, where the name opens.
  have hfront : front.utf8Size ≤ p.span.start := by
    by_contra hbefore
    exact hs.outside p hp hown ⟨Nat.lt_of_not_le hbefore, by omega⟩
  obtain ⟨a', hopens⟩ := isOpening_of_locate? hlocate
  have heq : p.span.start = (front ++ o.before).utf8Size :=
    Nat.le_antisymm hle (hfirst.first _ a' hfront hopens)
  exact ⟨heq, heq ▸ hlocate⟩

/-- Where a place of another name covers the first opening, the token there is malformed and
the name counts as shadowed. -/
theorem shadowed_of_other (hsees : SeesShadows known names name)
    (hclear : StandsClear (front ++ t) names name) (ho : findOpening? name t = some o)
    (hp : p ∈ placements (front ++ t) names) (hother : names[p.index]? ≠ some name)
    (hcovers : p.span.Covers (front ++ o.before).utf8Size) :
    readChain o.after = none ∧ isShadowed known name (t.drop o.before.length) = true := by
  obtain ⟨a, hfirst⟩ := firstOpensAt_of_findOpening? front ho
  have hstart := hclear p hp hother _ ⟨a, hfirst.opens⟩ hcovers
  obtain ⟨other, hindex, hlocate⟩ := locate?_of_mem_placements hp
  obtain ⟨word, hsplit, hword⟩ := findOpening?_split ho
  have hread : readName? ('{' :: name) (word ++ o.after) = some o.after :=
    readName?_eq_some_iff.2 ⟨word, rfl, hword⟩
  have hdrop : t.drop o.before.length = word ++ o.after := drop_before hsplit
  have hcut : front ++ t = (front ++ o.before) ++ (word ++ o.after) :=
    (Text.append_cut front hsplit).trans (List.append_assoc _ _ _)
  rw [hcut, ← hstart] at hlocate
  have htoken := tokenHere?_of_locate? hlocate hstart.symm
  have hne : other ≠ name := fun heq => hother (heq ▸ hindex)
  have hopens : opensHere name (word ++ o.after) = true := by simp [opensHere, hread]
  obtain ⟨hnone, hshadowed⟩ :=
    hsees.shadowed other (List.mem_of_getElem? hindex) hne _ hopens htoken
  rw [tokenHere?, hread, Option.bind_some] at hnone
  exact ⟨hnone, hdrop ▸ hshadowed⟩

/-- A walk that has settled all in front and meets an opening outside all places has met the
first such opening. -/
theorem firstUncovered_of_settled (hs : Settled (front ++ t) names name front)
    (ho : findOpening? name t = some o)
    (huncovered : ∀ p ∈ placements (front ++ t) names,
      ¬ p.span.Covers (front ++ o.before).utf8Size) :
    FirstUncovered (front ++ t) name (placements (front ++ t) names) 0
      (front ++ o.before).utf8Size := by
  obtain ⟨a, hfirst⟩ := firstOpensAt_of_findOpening? front ho
  refine ⟨Nat.zero_le _, ⟨a, hfirst.opens⟩, huncovered, ?_⟩
  rintro s - hopens hs'
  by_cases hlt : s < front.utf8Size
  · obtain ⟨p, hp, hcovers⟩ := hs.covered s hopens hlt
    exact absurd hcovers (hs' p hp)
  · obtain ⟨a', ha'⟩ := hopens
    exact hfirst.first s a' (Nat.le_of_not_lt hlt) ha'

/-- A well-formed token at the first opening lies in a place. Were it outside all places, the
name would be retired there, for a malformed token. -/
theorem Settled.exists_covers_of_readChain (hs : Settled (front ++ t) names name front)
    (hname : name ∈ names) (ho : findOpening? name t = some o) {chain : Chain} {rest : Text}
    (hchain : readChain o.after = some (chain, rest)) :
    ∃ p ∈ placements (front ++ t) names, p.span.Covers (front ++ o.before).utf8Size := by
  by_contra hnone
  have huncovered := firstUncovered_of_settled hs ho fun p hp hc => hnone ⟨p, hp, hc⟩
  have hlocate := locate?_at_opening front ho
  rw [hchain, Option.map_some, huncovered.locate?_eq_none hname] at hlocate
  simp at hlocate

/-- A first opening where the name is shadowed lies in a place. Were it outside all places, it
would be the first one of the longer name that has a token there. -/
theorem Settled.exists_covers_of_isShadowed (hs : Settled (front ++ t) names name front)
    (hsees : SeesShadows known names name) (ho : findOpening? name t = some o)
    (hshadowed : isShadowed known name (t.drop o.before.length) = true) :
    ∃ p ∈ placements (front ++ t) names, p.span.Covers (front ++ o.before).utf8Size := by
  by_contra hnone
  have huncovered := firstUncovered_of_settled hs ho fun p hp hc => hnone ⟨p, hp, hc⟩
  obtain ⟨word, hsplit, -⟩ := findOpening?_split ho
  obtain ⟨other, hother, hbegins, htoken⟩ := hsees.longer _ hshadowed
  obtain ⟨⟨chain, rest⟩, htoken⟩ := Option.isSome_iff_exists.1 htoken
  have hthere := locate?_of_tokenHere? (front ++ o.before) htoken
  rw [drop_before hsplit, ← List.append_assoc, ← Text.append_cut front hsplit] at hthere
  have hfirst : FirstUncovered (front ++ t) other (placements (front ++ t) names) 0
      (front ++ o.before).utf8Size :=
    ⟨Nat.zero_le _, isOpening_of_locate? hthere, huncovered.uncovered,
      fun s hle hopens => huncovered.first s hle (hopens.of_prefix hbegins)⟩
  rw [hfirst.locate?_eq_none hother] at hthere
  simp at hthere

/-- When a place covers the first opening, all openings in front of its end lie in places. -/
theorem Settled.exists_covers_of_lt_stop (hs : Settled (front ++ t) names name front)
    (ho : findOpening? name t = some o) (hp : p ∈ placements (front ++ t) names)
    (hcovers : p.span.Covers (front ++ o.before).utf8Size) {s : Nat}
    (hopens : IsOpening (front ++ t) name s) (hlt : s < p.span.stop) :
    ∃ q ∈ placements (front ++ t) names, q.span.Covers s := by
  by_cases hfront : s < front.utf8Size
  · exact hs.covered s hopens hfront
  · obtain ⟨a, hfirst⟩ := firstOpensAt_of_findOpening? front ho
    obtain ⟨a', ha'⟩ := hopens
    have hge := hfirst.first s a' (Nat.le_of_not_lt hfront) ha'
    exact ⟨p, hp, Nat.le_trans hcovers.1 hge, hlt⟩

/-- A well-formed token that the walk steps over is a place of the plan, and all is settled in
front of its end. -/
theorem Settled.of_readChain (hs : Settled (front ++ t) names name front) (hname : name ∈ names)
    (hsees : SeesShadows known names name) (hclear : StandsClear (front ++ t) names name)
    (ho : findOpening? name t = some o) {chain : Chain} {rest : Text}
    (hchain : readChain o.after = some (chain, rest)) :
    ∃ token, t = o.before ++ token ++ rest ∧
      Settled (front ++ t) names name (front ++ o.before ++ token) := by
  obtain ⟨p, hp, hcovers⟩ := hs.exists_covers_of_readChain hname ho hchain
  have hown : names[p.index]? = some name := by
    by_contra hother
    rw [(shadowed_of_other hsees hclear ho hp hother hcovers).1] at hchain
    simp at hchain
  have hlocate := (start_eq_of_own hs ho hp hown hcovers).2
  rw [locate?_at_opening front ho, hchain, Option.map_some] at hlocate
  have hstop : (front ++ t).utf8Size - rest.utf8Size = p.span.stop :=
    congrArg (fun k : Occurrence => k.span.stop) (Option.some.inj hlocate)
  obtain ⟨word, hsplit, -⟩ := findOpening?_split ho
  obtain ⟨w, hafter, -⟩ := readChain_eq_some_iff.1 hchain
  have ht : t = o.before ++ (word ++ w) ++ rest := by
    conv_lhs => rw [hsplit, hafter]
    simp only [List.append_assoc]
  have hend : p.span.stop = (front ++ o.before ++ (word ++ w)).utf8Size := by
    rw [← hstop, Text.append_cut front ht, Text.utf8Size_append _ rest, Nat.add_sub_cancel]
  refine ⟨word ++ w, ht, ?_, ?_⟩
  · intro s hopens hlt
    exact hs.exists_covers_of_lt_stop ho hp hcovers hopens (hend ▸ hlt)
  · rintro q hq - ⟨hlt, hgt⟩
    -- Both places would cover the last byte of the token.
    have hpos := ((placementsFrom_ordered [] (front ++ t) (allActive names)).1 p hp).2
    have heq : p = q := eq_of_covers (s := p.span.stop - 1) hp hq
      ⟨by omega, by omega⟩ ⟨by omega, by omega⟩
    subst heq
    omega

/-- Where the walk steps over a brace because the name is shadowed, a place of the plan covers
the brace, and all is settled up to behind it. -/
theorem Settled.of_isShadowed (hs : Settled (front ++ t) names name front)
    (hsees : SeesShadows known names name) (ho : findOpening? name t = some o)
    (hchain : readChain o.after = none)
    (hshadowed : isShadowed known name (t.drop o.before.length) = true) :
    t = o.before ++ ['{'] ++ t.drop (o.before.length + 1) ∧
      Settled (front ++ t) names name (front ++ o.before ++ ['{']) := by
  obtain ⟨p, hp, hcovers⟩ := hs.exists_covers_of_isShadowed hsees ho hshadowed
  obtain ⟨word, hsplit, hword⟩ := findOpening?_split ho
  obtain ⟨word', rfl⟩ : ∃ word', word = '{' :: word' := by
    cases hword with
    | cons hsame _ => exact ⟨_, by rw [eq_brace_of_sameLetter hsame]⟩
  have hbehind : (front ++ o.before ++ ['{']).utf8Size = (front ++ o.before).utf8Size + 1 :=
    Text.utf8Size_append _ _
  refine ⟨?_, ?_, ?_⟩
  · have hrest : t.drop (o.before.length + 1) = word' ++ o.after := by
      rw [← List.drop_drop, drop_before hsplit]
      rfl
    rw [hrest]
    conv_lhs => rw [hsplit]
    simp only [List.append_assoc, List.cons_append, List.nil_append]
  · intro s hopens hlt
    have hstop := hcovers.2
    exact hs.exists_covers_of_lt_stop ho hp hcovers hopens (by omega)
  · rintro q hq hown ⟨hlt, hgt⟩
    -- A place of the name that covered the brace would be a well-formed token there.
    have hplace := (start_eq_of_own hs ho hq hown ⟨by omega, by omega⟩).2
    rw [locate?_at_opening front ho, hchain, Option.map_none] at hplace
    simp at hplace

/-- What a walk finds that has settled all in front: the first opening outside all places, or
that there is none. -/
theorem firstMalformedFrom_of_settled (hs : Settled (front ++ t) names name front)
    (hname : name ∈ names) (hsees : SeesShadows known names name)
    (hclear : StandsClear (front ++ t) names name) :
    (∃ s, firstMalformedFrom known name t front.utf8Size = some s ∧
      FirstUncovered (front ++ t) name (placements (front ++ t) names) 0 s) ∨
    (firstMalformedFrom known name t front.utf8Size = none ∧
      ∀ s, IsOpening (front ++ t) name s →
        ∃ p ∈ placements (front ++ t) names, p.span.Covers s) := by
  induction hn : t.length using Nat.strongRecOn generalizing front t with
  | _ n ih =>
    subst hn
    cases ho : findOpening? name t with
    | none =>
      refine .inr ⟨firstMalformedFrom_of_none ho, fun s hopens => hs.covered s hopens ?_⟩
      by_contra hge
      obtain ⟨o, ho'⟩ := exists_findOpening?_of_isOpening hopens (Nat.le_of_not_lt hge)
      rw [ho] at ho'
      simp at ho'
    | some o =>
      have hlen := findOpening?_length ho
      cases hchain : readChain o.after with
      | some part =>
        obtain ⟨chain, rest⟩ := part
        obtain ⟨token, ht, hsettled⟩ := hs.of_readChain hname hsees hclear ho hchain
        have hrest := readChain_length hchain
        have hcut : front ++ t = (front ++ o.before ++ token) ++ rest := Text.append_cut front ht
        have hoffset : front.utf8Size + (t.utf8Size - rest.utf8Size)
            = (front ++ o.before ++ token).utf8Size := by
          rw [ht]
          simp only [Text.utf8Size_append]
          omega
        rw [firstMalformedFrom_of_readChain ho hchain, hoffset, hcut]
        rw [hcut] at hsettled hclear
        exact ih rest.length (by omega) hsettled hclear rfl
      | none =>
        rw [firstMalformedFrom_of_malformed ho hchain]
        by_cases hshadowed : isShadowed known name (t.drop o.before.length) = true
        · obtain ⟨ht, hsettled⟩ := hs.of_isShadowed hsees ho hchain hshadowed
          have hcut : front ++ t
              = (front ++ o.before ++ ['{']) ++ t.drop (o.before.length + 1) :=
            Text.append_cut front ht
          have hoffset : front.utf8Size + o.before.utf8Size + 1
              = (front ++ o.before ++ ['{']).utf8Size := by
            simp only [Text.utf8Size_append]
            rfl
          rw [if_pos hshadowed, hoffset, hcut]
          rw [hcut] at hsettled hclear
          refine ih _ ?_ hsettled hclear rfl
          rw [List.length_drop]
          omega
        · rw [if_neg hshadowed, ← Text.utf8Size_append]
          refine .inl ⟨_, rfl, firstUncovered_of_settled hs ho fun p hp hcovers => ?_⟩
          -- A place over this opening would be a token of the name, or shadow it.
          by_cases hown : names[p.index]? = some name
          · have hplace := (start_eq_of_own hs ho hp hown hcovers).2
            rw [locate?_at_opening front ho, hchain] at hplace
            simp at hplace
          · exact hshadowed (shadowed_of_other hsees hclear ho hp hown hcovers).2

end

/-! ### Openings inside a place -/

/-- A place of a plan ends with a closing brace. -/
theorem exists_brace_of_mem_placements {template : Text} {names : List Text} {p : Placement}
    (hp : p ∈ placements template names) :
    ∃ front rest, template = front ++ '}' :: rest ∧ front.utf8Size + 1 = p.span.stop := by
  obtain ⟨name, -, hlocate⟩ := locate?_of_mem_placements hp
  obtain ⟨t, o, rest, ht, ho, hchain, hspan⟩ := locate?_eq_some_iff.1 hlocate
  obtain ⟨front, rfl, -⟩ := Text.dropBytes?_eq_some_iff.1 ht
  obtain ⟨word, hsplit, -⟩ := findOpening?_split ho
  obtain ⟨w, hafter, hw⟩ := readChain_eq_some_iff.1 hchain
  obtain ⟨w', rfl⟩ := hw.eq_append_brace
  have hstop : p.span.stop = (front ++ t).utf8Size - rest.utf8Size := congrArg Span.stop hspan
  have hcut : front ++ t = (front ++ o.before ++ word ++ w') ++ '}' :: rest := by
    rw [hsplit, hafter]
    simp only [List.append_assoc, List.cons_append, List.nil_append]
  refine ⟨front ++ o.before ++ word ++ w', rest, hcut, ?_⟩
  have hone : ('}' : Char).utf8Size = 1 := by decide
  rw [hstop, hcut]
  simp only [Text.utf8Size_append, Text.utf8Size, hone]
  omega

/-- A name without a closing brace that opens inside a place stands there with all of its
letters. -/
theorem stop_le_of_covers {template name : Text} {names : List Text} {p : Placement} {s a : Nat}
    (hname : ∀ n ∈ '{' :: name, Unicode.sameLetter '}' n = false)
    (hp : p ∈ placements template names) (hopens : OpensAt template name s a)
    (hcovers : p.span.Covers s) : a ≤ p.span.stop := by
  obtain ⟨front, rest, hbrace, hstop⟩ := exists_brace_of_mem_placements hp
  obtain ⟨word, hslice, hword⟩ := hopens
  obtain ⟨before, after, hsplit, rfl, rfl⟩ := Text.sliceBytes?_eq_some_iff.1 hslice
  obtain ⟨-, hlt⟩ := hcovers
  rw [hbrace, List.append_assoc] at hsplit
  obtain ⟨m, rfl, htail⟩ := Text.exists_append_of_utf8Size_le hsplit.symm (by omega)
  by_contra hgt
  rw [Text.utf8Size_append] at hstop
  -- The closing brace would be one of the letters.
  obtain ⟨m', rfl, hrest⟩ := Text.exists_append_of_utf8Size_le htail.symm (by omega)
  cases m' with
  | nil =>
    simp only [List.append_nil] at hgt
    omega
  | cons c m' =>
    obtain ⟨rfl, -⟩ := List.cons.inj hrest
    have hmem : '}' ∈ m ++ '}' :: m' := by simp
    obtain ⟨n, hn, hsame⟩ := hword.exists_of_mem hmem
    rw [hname n hn] at hsame
    simp at hsame

/-! ### The walk over a template -/

section
variable {template name : Text} {names : List Text}

/-- In front of a template there is nothing to settle. -/
theorem settled_nil : Settled template names name [] where
  covered _ _ hlt := absurd hlt (Nat.not_lt_zero _)
  outside _ _ _ h := absurd h.1 (Nat.not_lt_zero _)

/-- What the linter finds in a template: the first opening outside all places, or that there
is none. -/
theorem firstMalformed?_cases (hname : name ∈ names)
    (hsees : SeesShadows knownVariables names name) (hclear : StandsClear template names name) :
    (∃ s, firstMalformed? template name = some s ∧
      FirstUncovered template name (placements template names) 0 s) ∨
    (firstMalformed? template name = none ∧
      ∀ s, IsOpening template name s → ∃ p ∈ placements template names, p.span.Covers s) :=
  firstMalformedFrom_of_settled (settled_nil : Settled ([] ++ template) names name []) hname
    hsees hclear

/-- The linter reports the first opening outside all places. -/
theorem firstMalformed?_eq_some_iff (hname : name ∈ names)
    (hsees : SeesShadows knownVariables names name) (hclear : StandsClear template names name)
    {o : Nat} :
    firstMalformed? template name = some o ↔
      FirstUncovered template name (placements template names) 0 o := by
  rcases firstMalformed?_cases hname hsees hclear with ⟨s, hs, hfirst⟩ | ⟨hnone, hcovered⟩
  · rw [hs, Option.some.injEq]
    exact ⟨fun heq => heq ▸ hfirst, fun h => hfirst.unique h⟩
  · rw [hnone]
    refine ⟨fun h => absurd h (by simp), fun h => ?_⟩
    obtain ⟨p, hp, hcovers⟩ := hcovered o h.opens
    exact absurd hcovers (h.uncovered p hp)

/-- The linter reports nothing when every opening lies in a place. -/
theorem firstMalformed?_eq_none_iff (hname : name ∈ names)
    (hsees : SeesShadows knownVariables names name) (hclear : StandsClear template names name) :
    firstMalformed? template name = none ↔
      ∀ s, IsOpening template name s → ∃ p ∈ placements template names, p.span.Covers s := by
  rcases firstMalformed?_cases hname hsees hclear with ⟨s, hs, hfirst⟩ | ⟨hnone, hcovered⟩
  · rw [hs]
    refine ⟨fun h => absurd h (by simp), fun h => ?_⟩
    obtain ⟨p, hp, hcovers⟩ := h s hfirst.opens
    exact absurd hcovers (hfirst.uncovered p hp)
  · exact ⟨fun _ => hcovered, fun _ => hnone⟩

end

/-! ### The list of issues -/

/-- A variable is reported at the offset where the walk for its name ends. -/
theorem malformedVariable_mem_lint_iff {template name : Text} {o : Nat} :
    Issue.malformedVariable name o ∈ lint template ↔
      name ∈ knownVariables ∧ firstMalformed? template name = some o := by
  simp only [lint, List.mem_append, List.mem_filterMap, Option.map_eq_some_iff]
  constructor
  · rintro ((h | ⟨v, hv, s, hs, heq⟩) | h)
    · split at h <;> simp at h
    · obtain ⟨rfl, rfl⟩ := Issue.malformedVariable.inj heq
      exact ⟨hv, hs⟩
    · split at h <;> simp at h
  · rintro ⟨hv, ho⟩
    exact .inl (.inr ⟨name, hv, o, ho, rfl⟩)

/-- A known variable is reported at the first opening outside all places. -/
theorem malformedVariable_mem_lint_iff_firstUncovered {template v : Text} {names : List Text}
    (hv : v ∈ knownVariables) (hname : v ∈ names) (hsees : SeesShadows knownVariables names v)
    (hclear : StandsClear template names v) {o : Nat} :
    Issue.malformedVariable v o ∈ lint template ↔
      FirstUncovered template v (placements template names) 0 o := by
  rw [malformedVariable_mem_lint_iff, firstMalformed?_eq_some_iff hname hsees hclear]
  exact and_iff_right hv

/-- When a known variable is not reported, each of its openings lies in a place, with all of
its letters. -/
theorem exists_place_of_not_mem_lint {template v : Text} {names : List Text}
    (hv : v ∈ knownVariables) (hname : v ∈ names) (hsees : SeesShadows knownVariables names v)
    (hclear : StandsClear template names v)
    (hclean : ∀ o, Issue.malformedVariable v o ∉ lint template) {s a : Nat}
    (hopens : OpensAt template v s a) :
    ∃ p ∈ placements template names, p.span.start ≤ s ∧ a ≤ p.span.stop := by
  have hnone : firstMalformed? template v = none := by
    rw [Option.eq_none_iff_forall_ne_some]
    exact fun o ho => hclean o (malformedVariable_mem_lint_iff.2 ⟨hv, ho⟩)
  obtain ⟨p, hp, hcovers⟩ :=
    (firstMalformed?_eq_none_iff hname hsees hclear).1 hnone s ⟨a, hopens⟩
  exact ⟨p, hp, hcovers.1, stop_le_of_covers (sameLetter_brace_opening hv) hp hopens hcovers⟩

/-- The selection is reported missing when its variable opens nowhere. -/
theorem missingSearchTerms_mem_lint_iff {template : Text} :
    Issue.missingSearchTerms ∈ lint template ↔ findOpening? searchTerms template = none := by
  simp only [lint, List.mem_append, List.mem_filterMap, Option.map_eq_some_iff]
  constructor
  · rintro ((h | ⟨v, hv, s, hs, heq⟩) | h)
    · split at h <;> simp at h
    · simp at heq
    · split at h
      · rename_i hnone
        exact Option.isNone_iff_eq_none.1 hnone
      · simp at h
  · intro h
    exact .inr (by simp [h])

end SearchLink.Template
