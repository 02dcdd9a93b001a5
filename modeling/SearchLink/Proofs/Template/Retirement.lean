import SearchLink.Proofs.Template.Placement

/-!
# `SearchLink.Proofs.Template.Retirement`: the names that a plan gives up

A plan retires a name in the round in which the name's first token turns out to be malformed
and lies in front of the token that the round takes. From then on all tokens of the name stay
as they are written. `retirements` lists what is retired in the rounds of a plan, with the
offset of the token that is to blame.

The rounds look ahead and compare offsets. What comes of it can be said without rounds:

* `mem_retirements_iff`: a name is retired exactly at the first place where it opens outside
  the spans that values take the place of.
* `locate?_eq_none_of_mem_retirements`: there is no well-formed token of the name there.
* `stop_le_of_mem_retirements`: all places for the name's value end in front of it.
-/

set_option autoImplicit false

namespace SearchLink.Template

/-- A name that a plan gives up. -/
structure Retirement where
  /-- The index of the name in the list of variables. -/
  index : Nat
  /-- The offset of the malformed token that is to blame. -/
  offset : Nat
  deriving Repr, DecidableEq

/-- What a round retires over a rest of a template that stands at byte `offset`, when the
token of the round stands behind `before`. A name that does not occur any more goes without a
trace. -/
def retiredIn (t before : Text) (offset : Nat) (active : List Active) : List Retirement :=
  active.filterMap fun a =>
    if staysActive t before a then none
    else (findOpening? a.name t).map fun o => ⟨a.index, offset + o.before.utf8Size⟩

/-- What is retired in all rounds over a rest of a template. In the last round there is no
token, and all of the text stands in front of none. -/
def retirementsFrom (t : Text) (offset : Nat) (active : List Active) : List Retirement :=
  match _best : nearestToken? t active with
  | none => retiredIn t t offset active
  | some (_, k) =>
    retiredIn t k.before offset active ++
      retirementsFrom k.rest (offset + (t.utf8Size - k.rest.utf8Size))
        (active.filter (staysActive t k.before))
termination_by t.length
decreasing_by exact nearestToken?_length _best

/-- What the plan of a template retires. -/
def retirements (template : Text) (names : List Text) : List Retirement :=
  retirementsFrom template 0 (allActive names)

/-- Whether an offset lies in a span. -/
def Span.Covers (s : Span) (o : Nat) : Prop := s.start ≤ o ∧ o < s.stop

instance (s : Span) (o : Nat) : Decidable (s.Covers o) :=
  inferInstanceAs (Decidable (s.start ≤ o ∧ o < s.stop))

/-- Whether `{name` stands in a template from an offset on. -/
def IsOpening (template name : Text) (s : Nat) : Prop := ∃ a, OpensAt template name s a

/-- The first place at or behind byte `start` where a name opens outside the spans of some
placements. -/
structure FirstUncovered (template name : Text) (places : List Placement) (start o : Nat) :
    Prop where
  start_le : start ≤ o
  opens : IsOpening template name o
  uncovered : ∀ p ∈ places, ¬ p.span.Covers o
  first : ∀ s, start ≤ s → IsOpening template name s → (∀ p ∈ places, ¬ p.span.Covers s) → o ≤ s

/-! ### Openings behind a front -/

/-- The first opening of the rest of a template, said in offsets of the template. -/
theorem firstOpensAt_of_findOpening? (front : Text) {name t : Text} {o : Opening}
    (h : findOpening? name t = some o) :
    ∃ a, FirstOpensAt (front ++ t) name front.utf8Size (front ++ o.before).utf8Size a := by
  obtain ⟨word, ht, hword⟩ := findOpening?_split h
  exact ⟨_, firstOpensAt_iff.2
    ⟨front, t, word, o, rfl, rfl, h, ht, hword, Text.utf8Size_append _ _, rfl⟩⟩

/-- A name that opens behind a front opens somewhere in the rest. -/
theorem exists_findOpening?_of_isOpening {front name t : Text} {s : Nat}
    (h : IsOpening (front ++ t) name s) (hle : front.utf8Size ≤ s) :
    ∃ o, findOpening? name t = some o := by
  obtain ⟨a, word, hslice, hword⟩ := h
  obtain ⟨p, r, hsplit, rfl, -⟩ := Text.sliceBytes?_eq_some_iff.1 hslice
  rw [List.append_assoc] at hsplit
  obtain ⟨before, -, rfl⟩ := Text.exists_append_of_utf8Size_le hsplit hle
  obtain ⟨o, ho, -⟩ := exists_findOpening?_le before r hword
  exact ⟨o, by rw [← List.append_assoc]; exact ho⟩

/-- What is located at the first opening of the rest of a template. -/
theorem locate?_at_opening (front : Text) {name t : Text} {o : Opening}
    (h : findOpening? name t = some o) :
    locate? (front ++ t) name (front ++ o.before).utf8Size
      = (readChain o.after).map fun p =>
          ⟨⟨(front ++ o.before).utf8Size, (front ++ t).utf8Size - p.2.utf8Size⟩, p.1⟩ := by
  obtain ⟨word, ht, hword⟩ := findOpening?_split h
  have hread : readName? ('{' :: name) (word ++ o.after) = some o.after :=
    readName?_eq_some_iff.2 ⟨word, rfl, hword⟩
  have hdrop : (front ++ t).dropBytes? (front ++ o.before).utf8Size = some (word ++ o.after) := by
    rw [Text.append_cut front ht, List.append_assoc, Text.dropBytes?_append]
  simp only [locate?, firstToken?, hdrop, findOpening?_of_readName? hread, Option.bind_eq_bind,
    Option.bind_some]
  cases readChain o.after <;> rfl

/-! ### One round -/

/-- Without a nearest token no active name has any token. -/
theorem firstToken?_eq_none_of_nearestToken? {t : Text} {active : List Active} {a : Active}
    (h : nearestToken? t active = none) (ha : a ∈ active) : firstToken? a.name t = none := by
  induction active with
  | nil => simp at ha
  | cons b bs ih =>
    simp only [nearestToken?] at h
    split at h
    · rename_i hb
      rcases List.mem_cons.1 ha with rfl | ha
      · exact hb
      · exact ih h ha
    · simp at h
    · split at h <;> simp at h

/-- No active name has a token that stands nearer than the nearest one. -/
theorem nearestToken?_le {t : Text} {active : List Active} {i : Nat} {k k' : Token} {a : Active}
    (h : nearestToken? t active = some (i, k)) (ha : a ∈ active)
    (hk' : firstToken? a.name t = some k') : k.before.length ≤ k'.before.length := by
  induction active generalizing i k with
  | nil => simp at ha
  | cons b bs ih =>
    simp only [nearestToken?] at h
    split at h
    · rename_i hb
      rcases List.mem_cons.1 ha with rfl | ha
      · simp [hb] at hk'
      · exact ih h ha
    · rename_i hb hbs
      obtain ⟨-, rfl⟩ := Prod.mk.inj (Option.some.inj h)
      rcases List.mem_cons.1 ha with rfl | ha
      · rw [hb] at hk'
        obtain rfl := Option.some.inj hk'
        exact Nat.le_refl _
      · rw [firstToken?_eq_none_of_nearestToken? hbs ha] at hk'
        simp at hk'
    · rename_i hb hbs
      -- The head's token and the best of the others compete.
      split at h
      · rename_i hlt
        obtain rfl := Option.some.inj h
        rcases List.mem_cons.1 ha with rfl | ha
        · rw [hb] at hk'
          obtain rfl := Option.some.inj hk'
          exact Nat.le_of_lt hlt
        · exact ih hbs ha
      · rename_i hlt
        obtain ⟨-, rfl⟩ := Prod.mk.inj (Option.some.inj h)
        rcases List.mem_cons.1 ha with rfl | ha
        · rw [hb] at hk'
          obtain rfl := Option.some.inj hk'
          exact Nat.le_refl _
        · exact Nat.le_trans (Nat.le_of_not_lt hlt) (ih hbs ha)

/-- A name that goes although it still opens is malformed where it opens first, in front of
the token of the round. -/
theorem lt_of_staysActive_eq_false {t before : Text} {a : Active} {o : Opening}
    (h : staysActive t before a = false) (ho : findOpening? a.name t = some o) :
    readChain o.after = none ∧ o.before.length < before.length := by
  simp only [staysActive, ho, Bool.or_eq_false_iff, decide_eq_false_iff_not, Nat.not_le] at h
  exact ⟨by simpa using h.1, h.2⟩

/-- A name that stays opens for the first time at or behind the nearest token. -/
theorem le_of_staysActive {t : Text} {active : List Active} {i : Nat} {k : Token} {a : Active}
    (hbest : nearestToken? t active = some (i, k)) (ha : a ∈ active)
    (h : staysActive t k.before a = true) {o : Opening} (ho : findOpening? a.name t = some o) :
    k.before.length ≤ o.before.length := by
  simp only [staysActive, ho, Bool.or_eq_true, decide_eq_true_eq] at h
  rcases h with hchain | hle
  · -- Its first token is well-formed, so it is one of those that the nearest was chosen from.
    obtain ⟨⟨chain, rest⟩, hchain⟩ := Option.isSome_iff_exists.1 hchain
    have hfirst : firstToken? a.name t = some ⟨o.before, chain, rest⟩ := by
      simp only [firstToken?, ho, hchain, Option.bind_eq_bind, Option.bind_some]
    exact nearestToken?_le hbest ha hfirst
  · exact hle

/-- Without a nearest token nobody stays. -/
theorem staysActive_eq_false_of_nearestToken? {t : Text} {active : List Active} {a : Active}
    (hbest : nearestToken? t active = none) (ha : a ∈ active) : staysActive t t a = false := by
  cases ho : findOpening? a.name t with
  | none => simp [staysActive, ho]
  | some o =>
    have hfirst := firstToken?_eq_none_of_nearestToken? hbest ha
    have hchain : readChain o.after = none := by
      rw [Option.eq_none_iff_forall_ne_some]
      rintro ⟨chain, rest⟩ hchain
      simp [firstToken?, ho, hchain] at hfirst
    have hlen := findOpening?_length ho
    simp only [staysActive, ho, hchain, Option.isSome_none, Bool.false_or,
      decide_eq_false_iff_not]
    omega

/-- The members of a round's list: names that open, but do not stay. -/
theorem mem_retiredIn_iff {t before : Text} {offset : Nat} {active : List Active}
    {r : Retirement} :
    r ∈ retiredIn t before offset active ↔
      ∃ a ∈ active, staysActive t before a = false ∧
        ∃ o, findOpening? a.name t = some o ∧ r = ⟨a.index, offset + o.before.utf8Size⟩ := by
  simp only [retiredIn, List.mem_filterMap]
  refine exists_congr fun a => and_congr_right fun _ => ?_
  cases staysActive t before a with
  | true => simp
  | false =>
    simp only [Bool.false_eq_true, if_false, true_and, Option.map_eq_some_iff]
    exact exists_congr fun o => and_congr_right fun _ => eq_comm

/-- The last round. -/
theorem retirementsFrom_of_nearestToken?_eq_none {t : Text} {offset : Nat}
    {active : List Active} (h : nearestToken? t active = none) :
    retirementsFrom t offset active = retiredIn t t offset active := by
  rw [retirementsFrom]
  split
  · rfl
  · rename_i hbest
    rw [h] at hbest
    simp at hbest

/-- A round with a token, and the rounds behind it. -/
theorem retirementsFrom_of_nearestToken? {t : Text} {offset : Nat} {active : List Active}
    {i : Nat} {k : Token} (h : nearestToken? t active = some (i, k)) :
    retirementsFrom t offset active
      = retiredIn t k.before offset active ++
          retirementsFrom k.rest (offset + (t.utf8Size - k.rest.utf8Size))
            (active.filter (staysActive t k.before)) := by
  rw [retirementsFrom]
  split
  · rename_i hbest
    rw [h] at hbest
    simp at hbest
  · rename_i j k' hbest
    rw [h] at hbest
    obtain ⟨-, rfl⟩ := Prod.mk.inj (Option.some.inj hbest)
    rfl

/-! ### All rounds -/

/-- What a round retires, and what the rounds behind its token retire. -/
theorem retirementsFrom_round (front : Text) {t token : Text} {active : List Active} {i : Nat}
    {k : Token} (h : nearestToken? t active = some (i, k)) (ht : t = k.before ++ token ++ k.rest) :
    retirementsFrom t front.utf8Size active
      = retiredIn t k.before front.utf8Size active ++
          retirementsFrom k.rest (front ++ k.before ++ token).utf8Size
            (active.filter (staysActive t k.before)) := by
  rw [retirementsFrom_of_nearestToken? h, stop_of_round front ht]

/-- A name that stays in a round opens nowhere between the round's start and its token. -/
theorem start_le_of_staysActive {front t token : Text} {active : List Active} {i s : Nat}
    {k : Token} {a : Active} (hbest : nearestToken? t active = some (i, k))
    (ht : t = k.before ++ token ++ k.rest) (ha : a ∈ active)
    (hstays : staysActive t k.before a = true) (hle : front.utf8Size ≤ s)
    (hopens : IsOpening (front ++ t) a.name s) : (front ++ k.before).utf8Size ≤ s := by
  obtain ⟨o, ho⟩ := exists_findOpening?_of_isOpening hopens hle
  obtain ⟨stop, hfirst⟩ := firstOpensAt_of_findOpening? front ho
  obtain ⟨s', hs'⟩ := hopens
  have hge := hfirst.first s s' hle hs'
  have hlen := le_of_staysActive hbest ha hstays ho
  obtain ⟨word, hsplit, -⟩ := findOpening?_split ho
  have hsize : k.before.utf8Size ≤ o.before.utf8Size := by
    refine Text.utf8Size_le_of_length_le (b := token ++ k.rest) (d := word ++ o.after) ?_ hlen
    rw [← List.append_assoc, ← List.append_assoc, ← ht, ← hsplit]
  simp only [Text.utf8Size_append] at hge ⊢
  omega

/-- There is one first opening outside all places. -/
theorem FirstUncovered.unique {template name : Text} {places : List Placement}
    {start o o' : Nat} (h : FirstUncovered template name places start o)
    (h' : FirstUncovered template name places start o') : o = o' :=
  Nat.le_antisymm (h.first o' h'.start_le h'.opens h'.uncovered)
    (h'.first o h.start_le h.opens h.uncovered)

/-- A name that goes in a round opens in front of all places of this round and the later
ones, for the first time, and without a well-formed token. -/
theorem firstUncovered_of_staysActive_eq_false (front : Text) {t before : Text} {a : Active}
    {o : Opening} (places : List Placement) (hstays : staysActive t before a = false)
    (ho : findOpening? a.name t = some o) (hbefore : before <+: t)
    (hplaces : ∀ p ∈ places, (front ++ before).utf8Size ≤ p.span.start) :
    FirstUncovered (front ++ t) a.name places front.utf8Size
        (front.utf8Size + o.before.utf8Size) ∧
      locate? (front ++ t) a.name (front.utf8Size + o.before.utf8Size) = none := by
  obtain ⟨hchain, hlen⟩ := lt_of_staysActive_eq_false hstays ho
  obtain ⟨stop, hopens⟩ := firstOpensAt_of_findOpening? front ho
  have hlocate := locate?_at_opening front ho
  rw [hchain, Option.map_none] at hlocate
  -- The opening and the token of the round are both counted from the start of the same text.
  have hlt : o.before.utf8Size < before.utf8Size := by
    obtain ⟨word, ht, -⟩ := findOpening?_split ho
    obtain ⟨r, hr⟩ := hbefore
    refine Text.utf8Size_lt_of_length_lt (b := word ++ o.after) (d := r) ?_ hlen
    rw [hr, ht, List.append_assoc]
  rw [Text.utf8Size_append] at hopens hlocate
  refine ⟨⟨hopens.start_le, ⟨stop, hopens.opens⟩, ?_, ?_⟩, hlocate⟩
  · rintro p hp ⟨hle, -⟩
    have hstart := hplaces p hp
    rw [Text.utf8Size_append] at hstart
    omega
  · rintro s hle ⟨a', ha'⟩ -
    exact hopens.first s a' hle ha'

/-- Behind the token of a round all places start behind it. -/
theorem start_le_of_mem_placementsFrom_round (front : Text) {t token : Text}
    {active : List Active} {i : Nat} {k : Token} (hbest : nearestToken? t active = some (i, k))
    (ht : t = k.before ++ token ++ k.rest) :
    ∀ p ∈ placementsFrom t front.utf8Size active, (front ++ k.before).utf8Size ≤ p.span.start := by
  intro p hp
  rw [placementsFrom_round front hbest ht] at hp
  rcases List.mem_cons.1 hp with rfl | hp
  · exact Nat.le_refl _
  · have hstart := ((placementsFrom_ordered (front ++ k.before ++ token) k.rest _).1 p hp).1
    rw [Text.utf8Size_append] at hstart
    omega

/-- What is retired opens outside all places for the first time where it is retired, and
without a well-formed token. -/
theorem firstUncovered_of_mem_retirementsFrom (front : Text) {t : Text} {active : List Active}
    {r : Retirement} (hr : r ∈ retirementsFrom t front.utf8Size active) :
    ∃ a ∈ active, a.index = r.index ∧
      FirstUncovered (front ++ t) a.name (placementsFrom t front.utf8Size active)
        front.utf8Size r.offset ∧
      locate? (front ++ t) a.name r.offset = none := by
  induction front, t, active using rounds_induction with
  | done front t active hbest =>
    rw [retirementsFrom_of_nearestToken?_eq_none hbest] at hr
    rw [placementsFrom_of_nearestToken?_eq_none hbest]
    obtain ⟨a, ha, hstays, o, ho, rfl⟩ := mem_retiredIn_iff.1 hr
    exact ⟨a, ha, rfl, firstUncovered_of_staysActive_eq_false front [] hstays ho
      (List.prefix_refl t) (by simp)⟩
  | round front t active i k token hbest ht _ ih =>
    have hstarts := start_le_of_mem_placementsFrom_round front hbest ht
    rw [retirementsFrom_round front hbest ht, List.mem_append] at hr
    rcases hr with hr | hr
    · obtain ⟨a, ha, hstays, o, ho, rfl⟩ := mem_retiredIn_iff.1 hr
      exact ⟨a, ha, rfl, firstUncovered_of_staysActive_eq_false front _ hstays ho
        ⟨token ++ k.rest, by simpa using ht.symm⟩ hstarts⟩
    · obtain ⟨a, ha, hindex, huncovered, hlocate⟩ := ih hr
      obtain ⟨ha, hstays⟩ := List.mem_filter.1 ha
      have hcut : front ++ t = (front ++ k.before ++ token) ++ k.rest := Text.append_cut front ht
      rw [← hcut] at huncovered hlocate
      have hle := huncovered.start_le
      rw [placementsFrom_round front hbest ht]
      refine ⟨a, ha, hindex, ⟨?_, huncovered.opens, ?_, ?_⟩, hlocate⟩
      · simp only [Text.utf8Size_append] at hle
        omega
      · intro p hp
        rcases List.mem_cons.1 hp with rfl | hp
        · exact fun hcovers => Nat.not_lt.2 hle hcovers.2
        · exact huncovered.uncovered p hp
      -- In front of the round's end, a name that stays opens inside the round's token only.
      · intro s hs hopens hplaces
        refine huncovered.first s ?_ hopens fun p hp => hplaces p (List.mem_cons_of_mem _ hp)
        have hstart := start_le_of_staysActive hbest ht ha hstays hs hopens
        by_contra hlt
        exact hplaces _ List.mem_cons_self ⟨hstart, Nat.lt_of_not_le hlt⟩

/-- A name that opens outside all places is retired at the first such opening. -/
theorem mem_retirementsFrom_of_firstUncovered (front : Text) {t : Text} {active : List Active}
    {a : Active} {o : Nat} (ha : a ∈ active)
    (h : FirstUncovered (front ++ t) a.name (placementsFrom t front.utf8Size active)
      front.utf8Size o) :
    ⟨a.index, o⟩ ∈ retirementsFrom t front.utf8Size active := by
  induction front, t, active using rounds_induction with
  | done front t active hbest =>
    obtain ⟨first, hfirst⟩ := exists_findOpening?_of_isOpening h.opens h.start_le
    have hstays := staysActive_eq_false_of_nearestToken? hbest ha
    rw [placementsFrom_of_nearestToken?_eq_none hbest] at h
    rw [retirementsFrom_of_nearestToken?_eq_none hbest, mem_retiredIn_iff]
    have hgoes := firstUncovered_of_staysActive_eq_false front [] hstays hfirst
      (List.prefix_refl t) (by simp)
    exact ⟨a, ha, hstays, first, hfirst, by rw [h.unique hgoes.1]⟩
  | round front t active i k token hbest ht _ ih =>
    rw [retirementsFrom_round front hbest ht, List.mem_append]
    cases hstays : staysActive t k.before a with
    | false =>
      obtain ⟨first, hfirst⟩ := exists_findOpening?_of_isOpening h.opens h.start_le
      have hgoes := firstUncovered_of_staysActive_eq_false front _ hstays hfirst
        ⟨token ++ k.rest, by simpa using ht.symm⟩
        (start_le_of_mem_placementsFrom_round front hbest ht)
      exact .inl (mem_retiredIn_iff.2 ⟨a, ha, hstays, first, hfirst, by rw [h.unique hgoes.1]⟩)
    | true =>
      -- The opening lies outside the round's token and not in front of it, hence behind.
      have hstart := start_le_of_staysActive hbest ht ha hstays h.start_le h.opens
      have hcut : front ++ t = (front ++ k.before ++ token) ++ k.rest := Text.append_cut front ht
      rw [placementsFrom_round front hbest ht] at h
      have hbehind : (front ++ k.before ++ token).utf8Size ≤ o := by
        by_contra hlt
        exact h.uncovered _ List.mem_cons_self ⟨hstart, Nat.lt_of_not_le hlt⟩
      have hrest : FirstUncovered ((front ++ k.before ++ token) ++ k.rest) a.name
          (placementsFrom k.rest (front ++ k.before ++ token).utf8Size
            (active.filter (staysActive t k.before)))
          (front ++ k.before ++ token).utf8Size o := by
        rw [← hcut]
        refine ⟨hbehind, h.opens, fun p hp => h.uncovered p (List.mem_cons_of_mem _ hp), ?_⟩
        intro s hs hopens hplaces
        refine h.first s ?_ hopens fun p hp => ?_
        · simp only [Text.utf8Size_append] at hs
          omega
        · rcases List.mem_cons.1 hp with rfl | hp
          · exact fun hcovers => Nat.not_lt.2 hs hcovers.2
          · exact hplaces p hp
      exact .inr (ih (List.mem_filter.2 ⟨ha, hstays⟩) hrest)

/-- Every place is one for an active name. -/
theorem exists_mem_of_mem_placementsFrom {front t : Text} {active : List Active} {p : Placement}
    (hp : p ∈ placementsFrom t front.utf8Size active) : ∃ a ∈ active, a.index = p.index := by
  induction front, t, active using rounds_induction with
  | done front t active hbest =>
    rw [placementsFrom_of_nearestToken?_eq_none hbest] at hp
    simp at hp
  | round front t active i k token hbest ht _ ih =>
    rw [placementsFrom_round front hbest ht, List.mem_cons] at hp
    rcases hp with rfl | hp
    · obtain ⟨a, ha, hindex, -⟩ := exists_of_nearestToken? hbest
      exact ⟨a, ha, hindex⟩
    · obtain ⟨a, ha, hindex⟩ := ih hp
      exact ⟨a, (List.mem_filter.1 ha).1, hindex⟩

/-- A name that is retired is given no place at or behind its malformed token. -/
theorem stop_le_of_mem_retirementsFrom (front : Text) {t : Text} {active : List Active}
    {r : Retirement} {p : Placement}
    (hinj : ∀ a ∈ active, ∀ b ∈ active, a.index = b.index → a = b)
    (hr : r ∈ retirementsFrom t front.utf8Size active)
    (hp : p ∈ placementsFrom t front.utf8Size active) (hindex : p.index = r.index) :
    p.span.stop ≤ r.offset := by
  induction front, t, active using rounds_induction with
  | done front t active hbest =>
    rw [placementsFrom_of_nearestToken?_eq_none hbest] at hp
    simp at hp
  | round front t active i k token hbest ht _ ih =>
    rw [retirementsFrom_round front hbest ht, List.mem_append] at hr
    rw [placementsFrom_round front hbest ht, List.mem_cons] at hp
    rcases hr with hr | hr
    · obtain ⟨a, ha, hstays, o, ho, rfl⟩ := mem_retiredIn_iff.1 hr
      rcases hp with rfl | hp
      · -- The token of the round belongs to another name: the first one of `a` is malformed.
        obtain ⟨b, hb, hbi, hfirst⟩ := exists_of_nearestToken? hbest
        obtain rfl := hinj b hb a ha (hbi.trans hindex)
        have hchain := (lt_of_staysActive_eq_false hstays ho).1
        simp [firstToken?, ho, hchain] at hfirst
      · -- Behind the round `a` is not active any more.
        obtain ⟨b, hb, hbi⟩ := exists_mem_of_mem_placementsFrom hp
        obtain ⟨hb, hbstays⟩ := List.mem_filter.1 hb
        obtain rfl := hinj b hb a ha (hbi.trans hindex)
        rw [hstays] at hbstays
        simp at hbstays
    · rcases hp with rfl | hp
      · obtain ⟨a, -, -, huncovered, -⟩ := firstUncovered_of_mem_retirementsFrom _ hr
        exact huncovered.start_le
      · exact ih (fun a ha b hb => hinj a (List.mem_filter.1 ha).1 b (List.mem_filter.1 hb).1)
          hr hp

/-! ### The plan of a template -/

section
variable {template : Text} {names : List Text}

/-- Active names with one index are one and the same. -/
theorem eq_of_mem_allActive {a b : Active} (ha : a ∈ allActive names) (hb : b ∈ allActive names)
    (h : a.index = b.index) : a = b := by
  have hname : some a.name = some b.name := by
    rw [← getElem?_of_mem_allActive ha, ← getElem?_of_mem_allActive hb, h]
  cases a
  cases b
  simp_all

/-- Every name of a list is active at first. -/
theorem mem_allActive {i : Nat} {name : Text} (h : names[i]? = some name) :
    ⟨i, name⟩ ∈ allActive names :=
  List.mem_map.2 ⟨(name, i), List.mem_zipIdx_iff_getElem?.2 h, rfl⟩

/-- **A name is retired where it first opens outside all places.** The rounds of the plan
retire a name exactly at the first offset where `{name` stands outside the spans that values
take the place of. -/
theorem mem_retirements_iff {i o : Nat} :
    ⟨i, o⟩ ∈ retirements template names ↔
      ∃ name, names[i]? = some name ∧
        FirstUncovered template name (placements template names) 0 o := by
  constructor
  · intro h
    obtain ⟨a, ha, rfl, huncovered, -⟩ :=
      firstUncovered_of_mem_retirementsFrom [] h
    exact ⟨a.name, getElem?_of_mem_allActive ha, huncovered⟩
  · rintro ⟨name, hname, huncovered⟩
    exact mem_retirementsFrom_of_firstUncovered [] (mem_allActive hname) huncovered

/-- No well-formed token of a name stands where the name is retired. -/
theorem locate?_eq_none_of_mem_retirements {i o : Nat} {name : Text}
    (h : ⟨i, o⟩ ∈ retirements template names) (hname : names[i]? = some name) :
    locate? template name o = none := by
  obtain ⟨a, ha, rfl, -, hlocate⟩ := firstUncovered_of_mem_retirementsFrom [] h
  rw [getElem?_of_mem_allActive ha] at hname
  obtain rfl := Option.some.inj hname
  exact hlocate

/-- No well-formed token of a name stands where it first opens outside all places. -/
theorem FirstUncovered.locate?_eq_none {name : Text} {o : Nat} (hname : name ∈ names)
    (h : FirstUncovered template name (placements template names) 0 o) :
    locate? template name o = none := by
  obtain ⟨i, hi⟩ := List.mem_iff_getElem?.1 hname
  exact locate?_eq_none_of_mem_retirements (mem_retirements_iff.2 ⟨name, hi, h⟩) hi

/-- All places for a name's value end in front of the token that the name is retired for. -/
theorem stop_le_of_mem_retirements {i o : Nat} {p : Placement}
    (h : ⟨i, o⟩ ∈ retirements template names) (hp : p ∈ placements template names)
    (hindex : p.index = i) : p.span.stop ≤ o :=
  stop_le_of_mem_retirementsFrom []
    (fun _ ha _ hb => eq_of_mem_allActive ha hb) h hp hindex

end

end SearchLink.Template
