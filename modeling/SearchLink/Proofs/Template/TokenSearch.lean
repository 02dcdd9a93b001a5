import Mathlib.Order.Bounds.Defs
import Mathlib.Order.WellFounded
import SearchLink.Proofs.Template.Scanner
import SearchLink.Proofs.Template.TokenText

/-!
# `SearchLink.Proofs.Template.TokenSearch`: where the search for a token ends

The search for `{name` compares letters by their lower-case forms, each of which may be several
characters. `ShowsAt` says what it looks for at one offset: as many letters as `{name` has, with
the same forms one by one.

* `findOffset?_eq_some_iff`: the search finds the least such offset, from a cut between two
  characters on.
* `findOffset?_eq_none_iff`: it finds nothing exactly if there is no such offset or no such cut.
* `findOffset?_eq_of_between`: it finds the same from every cut in between.

Only the forms of a name count. Names with the same letters open at the same places, so a plan for
them is the same (`plan_eq`), and a template is filled in alike. `token_search` is the whole.
-/

set_option autoImplicit false

namespace SearchLink.Template

/-- From a byte offset on a template shows `{` and the letters of a name, one by one with the same
lower-case forms. -/
def ShowsAt (template name : Text) (s : Nat) : Prop :=
  ∃ front word rest, template = front ++ word ++ rest ∧ front.utf8Size = s ∧
    word.map Unicode.lower = ('{' :: name).map Unicode.lower

/-! ### The least offset -/

section
variable {template name : Text} {start s : Nat}

/-- Letters are the same one by one exactly if their lower-case forms are. -/
theorem sameLetters_iff {v w : Text} :
    SameLetters v w ↔ v.map Unicode.lower = w.map Unicode.lower := by
  rw [SameLetters, ← List.forall₂_eq_eq_eq, List.forall₂_map_left_iff, List.forall₂_map_right_iff]
  simp only [sameLetter_iff]

/-- What a template shows at an offset opens there. -/
theorem showsAt_iff : ShowsAt template name s ↔ ∃ a, OpensAt template name s a := by
  constructor
  · rintro ⟨front, word, rest, rfl, rfl, hforms⟩
    exact ⟨_, word, Text.sliceBytes?_append front word rest, sameLetters_iff.2 hforms⟩
  · rintro ⟨a, word, hslice, hword⟩
    obtain ⟨front, rest, htemplate, hsize, -⟩ := Text.sliceBytes?_eq_some_iff.1 hslice
    exact ⟨front, word, rest, htemplate, hsize, sameLetters_iff.1 hword⟩

/-- The search ends at the first opening. -/
theorem findOffset?_eq_some_iff_firstOpensAt :
    findOffset? template name start = some s ↔ ∃ a, FirstOpensAt template name start s a := by
  simp only [findOffset?, Option.bind_eq_bind, Option.bind_eq_some_iff, Option.some.injEq,
    firstOpensAt_iff]
  constructor
  · rintro ⟨t, ht, o, ho, hs⟩
    obtain ⟨front, htemplate, hfront⟩ := Text.dropBytes?_eq_some_iff.1 ht
    obtain ⟨word, hsplit, hword⟩ := findOpening?_split ho
    exact ⟨_, front, t, word, o, htemplate, hfront, ho, hsplit, hword, hs.symm, rfl⟩
  · rintro ⟨a, front, t, word, o, htemplate, hfront, ho, -, -, hs, -⟩
    exact ⟨t, Text.dropBytes?_eq_some_iff.2 ⟨front, htemplate, hfront⟩, o, ho, hs.symm⟩

/-- The search finds the least offset at which the letters stand. -/
theorem findOffset?_eq_some_iff :
    findOffset? template name start = some s ↔
      template.IsBoundary start ∧ IsLeast {s | start ≤ s ∧ ShowsAt template name s} s := by
  rw [findOffset?_eq_some_iff_firstOpensAt, Text.isBoundary_iff]
  constructor
  · rintro ⟨a, hboundary, hle, hopens, hfirst⟩
    refine ⟨hboundary, ⟨hle, showsAt_iff.2 ⟨a, hopens⟩⟩, ?_⟩
    rintro s' ⟨hle', hshows⟩
    obtain ⟨a', hopens'⟩ := showsAt_iff.1 hshows
    exact hfirst s' a' hle' hopens'
  · rintro ⟨hboundary, ⟨hle, hshows⟩, hleast⟩
    obtain ⟨a, hopens⟩ := showsAt_iff.1 hshows
    exact ⟨a, hboundary, hle, hopens,
      fun s' a' hle' hopens' => hleast ⟨hle', showsAt_iff.2 ⟨a', hopens'⟩⟩⟩

/-- The search finds nothing where the template cannot be cut, and where the letters do not stand
any more. -/
theorem findOffset?_eq_none_iff :
    findOffset? template name start = none ↔
      (template.IsBoundary start → ∀ s, start ≤ s → ¬ ShowsAt template name s) := by
  constructor
  · intro hnone hboundary s hle hshows
    -- Of all offsets with the letters there is a least one, and the search would find it.
    obtain ⟨m, hm, hmin⟩ := wellFounded_lt.has_min {s | start ≤ s ∧ ShowsAt template name s}
      ⟨s, hle, hshows⟩
    have hfound : findOffset? template name start = some m :=
      findOffset?_eq_some_iff.2 ⟨hboundary, hm, fun s' hs' => Nat.le_of_not_lt (hmin s' hs')⟩
    rw [hnone] at hfound
    simp at hfound
  · intro h
    rw [Option.eq_none_iff_forall_ne_some]
    intro s hs
    obtain ⟨hboundary, ⟨hle, hshows⟩, -⟩ := findOffset?_eq_some_iff.1 hs
    exact h hboundary s hle hshows

/-- From every cut in front of what it finds, the search finds the same. -/
theorem findOffset?_eq_of_between {mid : Nat} (hstart : template.IsBoundary start)
    (hmid : template.IsBoundary mid) (hle : start ≤ mid)
    (hbefore : ∀ s ∈ findOffset? template name start, mid ≤ s) :
    findOffset? template name mid = findOffset? template name start := by
  -- What stands behind `mid` stands behind `start` too, so nothing new can come first.
  cases hfound : findOffset? template name start with
  | none =>
    have hnowhere := findOffset?_eq_none_iff.1 hfound hstart
    exact findOffset?_eq_none_iff.2 fun _ s hs => hnowhere s (Nat.le_trans hle hs)
  | some s =>
    obtain ⟨-, ⟨-, hshows⟩, hleast⟩ := findOffset?_eq_some_iff.1 hfound
    refine findOffset?_eq_some_iff.2 ⟨hmid, ⟨hbefore s hfound, hshows⟩, ?_⟩
    rintro s' ⟨hle', hshows'⟩
    exact hleast ⟨Nat.le_trans hle hle', hshows'⟩

end

/-! ### Names with the same letters -/

section
variable {v w : Text}

/-- Names with the same letters open first at the same place. -/
theorem SameLetters.findOpening?_eq (h : SameLetters v w) (t : Text) :
    findOpening? v t = findOpening? w t := by
  induction t with
  | nil => rfl
  | cons c r ih => rw [findOpening?, findOpening?, h.readName?_brace_eq, ih]

/-- They have the same first token. -/
theorem SameLetters.firstToken?_eq (h : SameLetters v w) (t : Text) :
    firstToken? v t = firstToken? w t := by
  rw [firstToken?, firstToken?, h.findOpening?_eq]

/-- Their openings are found at the same offset. -/
theorem SameLetters.findOffset?_eq (h : SameLetters v w) (template : Text) (start : Nat) :
    findOffset? template v start = findOffset? template w start := by
  simp only [findOffset?, h.findOpening?_eq]

/-- Their tokens are located alike. -/
theorem SameLetters.locate?_eq (h : SameLetters v w) (template : Text) (start : Nat) :
    locate? template v start = locate? template w start := by
  simp only [locate?, h.firstToken?_eq]

end

/-! ### Plans for names with the same letters -/

/-- The same index, and a name with the same letters. -/
def SameActive (a b : Active) : Prop := a.index = b.index ∧ SameLetters a.name b.name

section
variable {active other : List Active}

/-- The nearest token of such names is the same. -/
theorem nearestToken?_eq_of_sameActive (h : List.Forall₂ SameActive active other) (t : Text) :
    nearestToken? t active = nearestToken? t other := by
  induction h with
  | nil => rfl
  | @cons a b _ _ hsame _ ih =>
    rw [nearestToken?, nearestToken?, hsame.2.firstToken?_eq, hsame.1, ih]

/-- The same names stay active in a round. -/
theorem filter_staysActive_sameActive (h : List.Forall₂ SameActive active other)
    (t before : Text) :
    List.Forall₂ SameActive (active.filter (staysActive t before))
      (other.filter (staysActive t before)) := by
  refine List.rel_filter ?_ h
  intro a b hsame
  simp only [staysActive, hsame.2.findOpening?_eq]

/-- So the plans are the same. -/
theorem planFrom_eq_of_sameActive (h : List.Forall₂ SameActive active other) (t : Text) :
    planFrom t active = planFrom t other := by
  -- Both plans go on behind the same token, with the names that stay.
  induction hn : t.length using Nat.strongRecOn generalizing t active other with
  | _ n ih =>
    subst hn
    have hnearest := nearestToken?_eq_of_sameActive h t
    cases hbest : nearestToken? t active with
    | none =>
      rw [planFrom_of_nearestToken?_eq_none hbest,
        planFrom_of_nearestToken?_eq_none (hnearest.symm.trans hbest)]
    | some best =>
      obtain ⟨i, k⟩ := best
      rw [planFrom_of_nearestToken? hbest,
        planFrom_of_nearestToken? (hnearest.symm.trans hbest),
        ih k.rest.length (nearestToken?_length hbest)
          (filter_staysActive_sameActive h t k.before) k.rest rfl]

end

/-- The entries of two lists of names with the same letters, one by one. -/
theorem sameActive_allActive {names names' : List Text}
    (h : List.Forall₂ SameLetters names names') :
    List.Forall₂ SameActive (allActive names) (allActive names') := by
  -- The indices count from any number on, as the lists behind the first names ask for.
  have hfrom : ∀ n, List.Forall₂ SameActive
      ((names.zipIdx n).map fun entry => ⟨entry.2, entry.1⟩)
      ((names'.zipIdx n).map fun entry => ⟨entry.2, entry.1⟩) := by
    induction h with
    | nil => exact fun _ => .nil
    | cons hsame _ ih => exact fun n => .cons ⟨rfl, hsame⟩ (ih (n + 1))
  exact hfrom 0

/-- A template has one plan for all names with the same letters. -/
theorem plan_eq {names names' : List Text} (h : List.Forall₂ SameLetters names names')
    (template : Text) : plan template names = plan template names' :=
  planFrom_eq_of_sameActive (sameActive_allActive h) template

/-- Two entries with the same text, for names with the same letters. -/
def SameEntry (e f : Text × Text) : Prop :=
  e.1.map Unicode.lower = f.1.map Unicode.lower ∧ e.2 = f.2

/-- Such entries fill in a template alike. -/
theorem substituteAll_eq_of_sameEntry (registry : Registry) (template : Text) (encode : Bool)
    {values values' : List (Text × Text)} (h : List.Forall₂ SameEntry values values') :
    substituteAll registry template values encode
      = substituteAll registry template values' encode := by
  have hnames : List.Forall₂ SameLetters (values.map Prod.fst) (values'.map Prod.fst) := by
    rw [List.forall₂_map_left_iff, List.forall₂_map_right_iff]
    exact h.imp fun _ _ hsame => sameLetters_iff.2 hsame.1
  have htexts : values.map Prod.snd = values'.map Prod.snd := by
    rw [← List.forall₂_eq_eq_eq, List.forall₂_map_left_iff, List.forall₂_map_right_iff]
    exact h.imp fun _ _ hsame => hsame.2
  rw [substituteAll_eq_fillPieces, substituteAll_eq_fillPieces, plan_eq hnames, htexts]

/-! ### The search -/

/-- **The search finds the first place that shows the letters of the name.** From a cut between
two characters it finds the least offset at which they stand, and nothing if they do not stand
any more; from any other offset it finds nothing. It finds the same from every cut up to there,
and there the span of a located token begins. A name with the same letters is found and located
at the same places. And if names are replaced so, all templates are filled in as before,
whatever the texts are. -/
theorem token_search (template name : Text) (start : Nat) :
    (∀ s, findOffset? template name start = some s ↔
      template.IsBoundary start ∧ IsLeast {s | start ≤ s ∧ ShowsAt template name s} s) ∧
    (findOffset? template name start = none ↔
      (template.IsBoundary start → ∀ s, start ≤ s → ¬ ShowsAt template name s)) ∧
    (template.IsBoundary start → ∀ mid, start ≤ mid → template.IsBoundary mid →
      (∀ s ∈ findOffset? template name start, mid ≤ s) →
        findOffset? template name mid = findOffset? template name start) ∧
    (∀ k, locate? template name start = some k →
      findOffset? template name start = some k.span.start) ∧
    (∀ other : Text, other.map Unicode.lower = name.map Unicode.lower →
      findOffset? template other start = findOffset? template name start ∧
      locate? template other start = locate? template name start) ∧
    ∀ registry encode values values', List.Forall₂ SameEntry values values' →
      substituteAll registry template values encode
        = substituteAll registry template values' encode := by
  refine ⟨fun _ => findOffset?_eq_some_iff, findOffset?_eq_none_iff, ?_, ?_, ?_, ?_⟩
  · intro hstart mid hle hmid hbefore
    exact findOffset?_eq_of_between hstart hmid hle hbefore
  · intro k hk
    obtain ⟨front, token, rest, -, -, hspan, -, hoffset⟩ := exists_tokenText_of_locate? hk
    rw [hspan]
    exact hoffset
  · intro other hforms
    have hsame : SameLetters other name := sameLetters_iff.2 hforms
    exact ⟨hsame.findOffset?_eq template start, hsame.locate?_eq template start⟩
  · intro registry encode values values' hsame
    exact substituteAll_eq_of_sameEntry registry template encode hsame

/-- The sign of the kelvin has the form of `k`, and takes up more bytes than the letter. In
`é{K}{k}` the first token stands at bytes 2 to 7. From byte 2 on it is found still, and from a
byte inside the sign nothing is. -/
theorem token_search_kelvin :
    let template : Text := "é\x7b\u212a\x7d\x7bk\x7d".toList
    let kelvin : Text := ['\u212a']
    IsLeast {s | 0 ≤ s ∧ ShowsAt template ['k'] s} 2 ∧
      findOffset? template ['k'] 2 = findOffset? template ['k'] 0 ∧
      findOffset? template ['k'] 4 = none ∧
      locate? template kelvin 0 = some ⟨⟨2, 7⟩, []⟩ ∧
      substituteAll .standard template [(kelvin, ['v'])] true
        = substituteAll .standard template [(['k'], ['v'])] true := by
  intro template kelvin
  have hfound : findOffset? template ['k'] 0 = some 2 := by decide +kernel
  have hlocate : locate? template ['k'] 0 = some ⟨⟨2, 7⟩, []⟩ := by decide +kernel
  have hforms : kelvin.map Unicode.lower = ['k'].map Unicode.lower := by decide +kernel
  obtain ⟨hleast, -, hbetween, -, hspelling, hfill⟩ := token_search template ['k'] 0
  have hinside := (token_search template ['k'] 4).2.1
  refine ⟨((hleast 2).1 hfound).2, ?_, ?_, ?_, hfill .standard true _ _ (.cons ⟨hforms, rfl⟩ .nil)⟩
  · refine hbetween (by decide +kernel) 2 (by decide) (by decide +kernel) ?_
    intro s hs
    rw [hfound] at hs
    exact Nat.le_of_eq (Option.some.inj hs)
  · -- Byte 4 is inside the sign, so the template cannot be cut there.
    have hcut : ¬ template.IsBoundary 4 := by decide +kernel
    exact hinside.2 fun hboundary => absurd hboundary hcut
  · rw [(hspelling kelvin hforms).2, hlocate]

end SearchLink.Template
