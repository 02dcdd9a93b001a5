import SearchLink.Proofs.Template.TokenHere
import SearchLink.Template.Substitution

/-!
# `SearchLink.Proofs.Template.PlanStep`: a plan, one character at a time

`planFrom` works in rounds: it looks ahead for the nearest well-formed token of any active
name, and retires names by comparing offsets with it. This module says what a plan is in
terms of the first character alone, with the `opensHere` and `firstHere?` of the text.

* `planFrom_of_firstHere?`: where some active name has a well-formed token at the start, the
  plan takes the token of the first such name and goes on behind it with the same names.
* `planFrom_cons`: where none has, the plan copies the first character and goes on without
  the names that open there.

The look-ahead retires more than that: a name without any further opening is dropped too.
`planFrom_filter_occurs` says that such names make no difference. With a single name nothing
can stand in its way: `planFrom_singleton` goes from token to token.
-/

set_option autoImplicit false

namespace SearchLink.Template

/-- Whether a name still opens anywhere in a text. -/
def occurs (t : Text) (a : Active) : Bool := (findOpening? a.name t).isSome

/-! ### The nearest token of several names -/

/-- A name that opens somewhere in the rest of a text opens somewhere in the text. -/
theorem occurs_of_suffix {t r : Text} {a : Active} (hsuffix : r <:+ t)
    (h : occurs r a = true) : occurs t a = true :=
  opensIn_of_suffix hsuffix h

/-- Where some name has a token at the start, the nearest token is that of the first such
name. -/
theorem nearestToken?_of_firstHere? {t rest : Text} {active : List Active} {a : Active}
    {chain : Chain} (h : firstHere? Active.name t active = some (a, chain, rest)) :
    nearestToken? t active = some (a.index, ⟨[], chain, rest⟩) := by
  induction active with
  | nil => simp [firstHere?] at h
  | cons b bs ih =>
    rw [firstHere?] at h
    rw [nearestToken?]
    split at h
    · rename_i token hhere
      obtain ⟨rfl, rfl⟩ := Prod.mk.inj (Option.some.inj h)
      have hfirst := firstToken?_of_opensHere (opensHere_of_tokenHere? hhere)
      rw [hhere] at hfirst
      simp only [hfirst, Option.map_some]
      -- No token stands nearer than at the start, whatever the other names offer.
      cases nearestToken? t bs <;> simp
    · rename_i hhere
      rw [ih h]
      cases hfirst : firstToken? b.name t with
      | none => rfl
      | some k =>
        have hpos := firstToken?_before_pos hfirst hhere
        simp only [List.length_nil, if_pos hpos]

/-- Where no name has a token at the start, the nearest token is that of the rest, among the
names that do not open at the start. -/
theorem nearestToken?_cons {r : Text} {c : Char} {active : List Active}
    (h : ∀ a ∈ active, tokenHere? a.name (c :: r) = none) :
    nearestToken? (c :: r) active
      = (nearestToken? r (active.filter fun a => !opensHere a.name (c :: r))).map
          fun best => (best.1, { best.2 with before := c :: best.2.before }) := by
  induction active with
  | nil => rfl
  | cons a as ih =>
    have hrest := ih fun b hb => h b (List.mem_cons_of_mem _ hb)
    cases hopens : opensHere a.name (c :: r) with
    | true =>
      -- The first opening of `a` is malformed, so `a` offers no token at all in this round.
      have hfirst := firstToken?_of_opensHere hopens
      rw [h a List.mem_cons_self] at hfirst
      simp only [nearestToken?, hfirst, Option.map_none, hrest, List.filter_cons, hopens,
        Bool.not_true, Bool.false_eq_true, if_false]
    | false =>
      simp only [nearestToken?, firstToken?_cons_of_not_opensHere hopens, hrest,
        List.filter_cons, hopens, Bool.not_false, if_true]
      cases firstToken? a.name r with
      | none => rfl
      | some k =>
        cases nearestToken? r (as.filter fun a => !opensHere a.name (c :: r)) with
        | none => rfl
        | some best =>
          -- Both tokens move by one character, so the nearer one stays the nearer one.
          simp only [Option.map_some, List.length_cons, Nat.add_lt_add_iff_right]
          split <;> rfl

/-- The nearest token is the first token of one of the names. -/
theorem exists_of_nearestToken? {t : Text} {active : List Active} {i : Nat} {k : Token}
    (h : nearestToken? t active = some (i, k)) :
    ∃ a ∈ active, a.index = i ∧ firstToken? a.name t = some k := by
  induction active generalizing i k with
  | nil => simp [nearestToken?] at h
  | cons a as ih =>
    have hrest : ∀ best, nearestToken? t as = some best → best = (i, k) →
        ∃ b ∈ a :: as, b.index = i ∧ firstToken? b.name t = some k := by
      rintro best hbest rfl
      obtain ⟨b, hb, hindex, hfirst⟩ := ih hbest
      exact ⟨b, List.mem_cons_of_mem a hb, hindex, hfirst⟩
    simp only [nearestToken?] at h
    split at h
    · exact hrest _ h rfl
    · rename_i k' hk' _
      obtain ⟨rfl, rfl⟩ := Prod.mk.inj (Option.some.inj h)
      exact ⟨a, List.mem_cons_self, rfl, hk'⟩
    · rename_i k' best hk' hbest
      split at h
      · exact hrest best hbest (Option.some.inj h)
      · obtain ⟨rfl, rfl⟩ := Prod.mk.inj (Option.some.inj h)
        exact ⟨a, List.mem_cons_self, rfl, hk'⟩

/-- Names that no longer open anywhere have no nearest token. -/
theorem nearestToken?_filter_occurs (t : Text) (active : List Active) :
    nearestToken? t (active.filter (occurs t)) = nearestToken? t active := by
  induction active with
  | nil => rfl
  | cons a as ih =>
    cases hoccurs : occurs t a with
    | true => simp only [List.filter_cons, hoccurs, if_true, nearestToken?, ih]
    | false =>
      have hfirst : firstToken? a.name t = none := by
        have hopening : findOpening? a.name t = none := by simpa [occurs] using hoccurs
        simp only [firstToken?, hopening, Option.bind_eq_bind, Option.bind_none]
      simp only [List.filter_cons, hoccurs, Bool.false_eq_true, if_false, ih, nearestToken?,
        hfirst]

/-! ### Which names stay active -/

/-- A name that stays active still opens somewhere. -/
theorem occurs_of_staysActive {t before : Text} {a : Active}
    (h : staysActive t before a = true) : occurs t a = true := by
  unfold staysActive at h
  unfold occurs
  split at h
  · simp at h
  · rename_i o ho
    simp [ho]

/-- In front of a token at the start nothing can be malformed: every name that still opens
stays active. -/
theorem staysActive_nil (t : Text) (a : Active) : staysActive t [] a = occurs t a := by
  unfold staysActive occurs
  cases findOpening? a.name t <;> simp

/-- A name that opens at the start without a token there is retired when the next token
stands further on. -/
theorem staysActive_cons_of_opensHere {r before : Text} {c : Char} {a : Active}
    (hopens : opensHere a.name (c :: r) = true) (hhere : tokenHere? a.name (c :: r) = none) :
    staysActive (c :: r) (c :: before) a = false := by
  obtain ⟨after, hafter⟩ := Option.isSome_iff_exists.1 hopens
  -- Its first opening is the one at the start: no chain follows it, and it lies in front.
  have hchain : readChain after = none := by simpa [tokenHere?, hafter] using hhere
  simp [staysActive, findOpening?_of_readName? hafter, hchain]

/-- A name that does not open at the start stays active as it does in the rest. -/
theorem staysActive_cons_of_not_opensHere {r before : Text} {c : Char} {a : Active}
    (hopens : opensHere a.name (c :: r) = false) :
    staysActive (c :: r) (c :: before) a = staysActive r before a := by
  unfold staysActive
  rw [findOpening?_cons_of_not_opensHere hopens]
  cases findOpening? a.name r <;> simp

/-! ### The plan -/

/-- Puts a character in front of the first literal piece. -/
def consLiteral (c : Char) : List Piece → List Piece
  | .literal t :: ps => .literal (c :: t) :: ps
  | ps => .literal [c] :: ps

/-- Without text there is nothing to plan. -/
theorem planFrom_nil (active : List Active) : planFrom [] active = [.literal []] := by
  have hnone : nearestToken? [] active = none := by
    induction active with
    | nil => rfl
    | cons a as ih => simp only [nearestToken?, firstToken?, findOpening?, Option.bind_eq_bind,
        Option.bind_none, ih]
  rw [planFrom]
  split
  · rfl
  · rename_i hbest
    rw [hnone] at hbest
    simp at hbest

/-- A plan whose nearest token is known. -/
theorem planFrom_of_nearestToken? {t : Text} {active : List Active} {i : Nat} {k : Token}
    (h : nearestToken? t active = some (i, k)) :
    planFrom t active
      = .literal k.before :: .value i k.chain ::
          planFrom k.rest (active.filter (staysActive t k.before)) := by
  rw [planFrom]
  split
  · rename_i hbest
    rw [h] at hbest
    simp at hbest
  · rename_i j k' hbest
    rw [h] at hbest
    obtain ⟨rfl, rfl⟩ := Prod.mk.inj (Option.some.inj hbest)
    rfl

/-- A plan without any token. -/
theorem planFrom_of_nearestToken?_eq_none {t : Text} {active : List Active}
    (h : nearestToken? t active = none) : planFrom t active = [.literal t] := by
  rw [planFrom]
  split
  · rfl
  · rename_i hbest
    rw [h] at hbest
    simp at hbest

/-- Names that no longer open anywhere make no difference to a plan. -/
theorem planFrom_filter_occurs (t : Text) (active : List Active) :
    planFrom t (active.filter (occurs t)) = planFrom t active := by
  cases hbest : nearestToken? t active with
  | none =>
    rw [planFrom_of_nearestToken?_eq_none hbest, planFrom_of_nearestToken?_eq_none]
    rw [nearestToken?_filter_occurs, hbest]
  | some best =>
    obtain ⟨i, k⟩ := best
    rw [planFrom_of_nearestToken? hbest, planFrom_of_nearestToken? (i := i) (k := k)
      (by rw [nearestToken?_filter_occurs, hbest]), List.filter_filter]
    -- Whoever stays active in this round still occurs, so the filter takes nobody away.
    have hsame : (fun a => staysActive t k.before a && occurs t a) = staysActive t k.before := by
      funext a
      cases hstays : staysActive t k.before a with
      | false => rfl
      | true => simp [occurs_of_staysActive hstays]
    rw [hsame]

/-- Where some active name has a token at the start, the plan takes the token of the first
such name and goes on behind it. No name is retired. -/
theorem planFrom_of_firstHere? {t rest : Text} {active : List Active} {a : Active}
    {chain : Chain} (h : firstHere? Active.name t active = some (a, chain, rest)) :
    planFrom t active = .literal [] :: .value a.index chain :: planFrom rest active := by
  rw [planFrom_of_nearestToken? (nearestToken?_of_firstHere? h)]
  have hsuffix : rest <:+ t := tokenHere?_suffix (mem_of_firstHere? h).2
  -- The round drops the names that do not open in `t`. They do not open in `rest` either.
  have hstays : active.filter (staysActive t []) = active.filter (occurs t) :=
    List.filter_congr fun a _ => staysActive_nil t a
  have hrest : (active.filter (occurs t)).filter (occurs rest) = active.filter (occurs rest) := by
    rw [List.filter_filter]
    refine List.filter_congr fun a _ => ?_
    cases hoccurs : occurs rest a with
    | false => rfl
    | true => simp [occurs_of_suffix hsuffix hoccurs]
  simp only [hstays]
  rw [← planFrom_filter_occurs rest (active.filter (occurs t)), hrest, planFrom_filter_occurs]

/-- Where no active name has a token at the start, the plan copies the first character and
goes on without the names that open there. -/
theorem planFrom_cons {r : Text} {c : Char} {active : List Active}
    (h : ∀ a ∈ active, tokenHere? a.name (c :: r) = none) :
    planFrom (c :: r) active
      = consLiteral c (planFrom r (active.filter fun a => !opensHere a.name (c :: r))) := by
  have hnearest := nearestToken?_cons h
  cases hbest : nearestToken? r (active.filter fun a => !opensHere a.name (c :: r)) with
  | none =>
    rw [hbest] at hnearest
    rw [planFrom_of_nearestToken?_eq_none hnearest, planFrom_of_nearestToken?_eq_none hbest]
    rfl
  | some best =>
    obtain ⟨i, k⟩ := best
    rw [hbest] at hnearest
    rw [planFrom_of_nearestToken? hnearest, planFrom_of_nearestToken? hbest]
    -- The names that open here are those that the round retires in front of its token.
    have hstays : active.filter (staysActive (c :: r) (c :: k.before))
        = (active.filter fun a => !opensHere a.name (c :: r)).filter
            (staysActive r k.before) := by
      rw [List.filter_filter]
      refine List.filter_congr fun a ha => ?_
      cases hopens : opensHere a.name (c :: r) with
      | true => simp [staysActive_cons_of_opensHere hopens (h a ha)]
      | false => simp [staysActive_cons_of_not_opensHere hopens]
    simp only [hstays]
    rfl

/-! ### One name -/

section
variable {a : Active} {t : Text}

/-- With one name the nearest token is its first one. -/
theorem nearestToken?_singleton :
    nearestToken? t [a] = (firstToken? a.name t).map fun k => (a.index, k) := by
  cases h : firstToken? a.name t <;> simp [nearestToken?, h]

/-- A single name with a token stays. -/
theorem filter_staysActive_singleton {k : Token} (before : Text)
    (h : firstToken? a.name t = some k) : [a].filter (staysActive t before) = [a] := by
  simp only [firstToken?, Option.bind_eq_bind, Option.bind_eq_some_iff, Prod.exists] at h
  obtain ⟨o, ho, chain, rest, hchain, -⟩ := h
  simp [staysActive, ho, hchain]

/-- The plan for one name with a token. -/
theorem planFrom_singleton {k : Token} (h : firstToken? a.name t = some k) :
    planFrom t [a] = .literal k.before :: .value a.index k.chain :: planFrom k.rest [a] := by
  have hbest : nearestToken? t [a] = some (a.index, k) := by
    rw [nearestToken?_singleton, h, Option.map_some]
  rw [planFrom_of_nearestToken? hbest, filter_staysActive_singleton _ h]

end

/-! ### The texts -/

/-- The trimmed text at an index; past the end both sides are empty. -/
theorem getD_map_trim (raws : List Text) (i : Nat) :
    (raws.map Text.trimSelection).getD i [] = Text.trimSelection (raws.getD i []) := by
  simp only [List.getD_eq_getElem?_getD, List.getElem?_map]
  cases raws[i]? <;> rfl

end SearchLink.Template
