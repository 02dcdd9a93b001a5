import SearchLink.Proofs.Regex.GroupNames
import SearchLink.Proofs.Text.ByteRange
import SearchLink.Proofs.Text.Numeral
import SearchLink.Template.Apply

/-!
# `SearchLink.Proofs.Template.TargetReading`: what a replacement target puts in

A target goes through two languages. `expandTarget` turns it into an expansion, and `Regex.expand`
reads that once more for every match. `TargetReading` is the reading of the target itself, from
left to right: `$$`, `$&`, numbers of groups, names in angles, and everything else as it stands.

* `readGroupNumber?_eq_some_iff`: which digits are taken for the number of a group.
* `TargetReading.unique` and `exists_targetReading`: every target has one reading.
* `expand_expandTarget`: what is put in for a match is what the parts of the reading put in. The
  braces that are written keep a reference apart from what follows it, and a doubled dollar sign is
  read as one.
* `replacement_of_numbers` and `replacement_of_names` say this of a whole modification.

For names there are two views of a part. `TargetPart.text` is what the name stands for, the group
with this very name. `TargetPart.inserted` is what is put in. They differ for names that are
numbers, since an expansion takes them for the number of a group, and for names of groups that an
expansion cannot write; `replacement_of_names_differs` has one of each.
-/

set_option autoImplicit false

namespace SearchLink.Regex

/-! ### Expansions -/

section
variable (re : Regex) (s : Segment) (r : Text)

/-- Two dollar signs are one. -/
theorem expand_dollar : expand re s ('$' :: '$' :: r) = '$' :: expand re s r := by
  rw [expand]

/-- All but a dollar sign is copied. -/
theorem expand_cons {c : Char} (hc : c ≠ '$') : expand re s (c :: r) = c :: expand re s r := by
  rw [expand]
  · simp [hc]
  · simp [hc]

/-- A reference in braces is read up to its closing brace, whatever follows. -/
theorem expand_braced {name : Text} (hname : '\x7d' ∉ name) :
    expand re s ('$' :: '\x7b' :: (name ++ '\x7d' :: r))
      = (Reference.ofText name).resolve re s ++ expand re s r := by
  have htake := Text.takeWhile_append_mark r hname
  have hdrop := Text.dropWhile_append_mark r hname
  have hread : readReference ('\x7b' :: (name ++ '\x7d' :: r))
      = some (.ofText name, r) := by
    simp only [readReference, hdrop, htake]
  rw [expand]
  · split
    · rename_i ref rest h
      rw [hread] at h
      obtain ⟨rfl, rfl⟩ := Prod.mk.inj (Option.some.inj h)
      rfl
    · rename_i h
      rw [hread] at h
      simp at h
  · simp

end

/-- The whole match is its group 0. -/
theorem Segment.group_zero (s : Segment) : s.group 0 = s.whole := by
  cases s with
  | mk gap groups => cases groups <;> rfl

/-- A number that fits 64 bits refers to the group with this number. -/
theorem ofText_of_natural? {t : Text} {n : Nat} (h : Text.natural? t = some n)
    (hn : n < UInt64.size) : Reference.ofText t = .number n := by
  simp only [Reference.ofText, h, hn, if_true]

/-- A name that is no number refers to the group with this name. -/
theorem ofText_of_natural?_eq_none {t : Text} (h : Text.natural? t = none) :
    Reference.ofText t = .named t := by
  simp only [Reference.ofText, h]

/-- Digits refer to the group with the number that they were written for. -/
theorem ofText_ofNatural {n : Nat} (hn : n < UInt64.size) :
    Reference.ofText (Text.ofNatural n) = .number n :=
  ofText_of_natural? (Text.natural?_eq_some_iff.2
    ⟨Text.isDigits_ofNatural n, Nat.ofDigitChars_ten_toDigits.symm⟩) hn

end SearchLink.Regex

namespace SearchLink.Template

/-! ### The reading of a target -/

/-- A part of a replacement target. -/
inductive TargetPart where
  /-- A character that is copied. -/
  | char (c : Char)
  /-- The whole match. -/
  | whole
  /-- The group with a number. -/
  | group (n : Nat)
  /-- The group with a name. -/
  | named (name : Text)
  deriving Repr, DecidableEq

/-- Two digits at the start of a text, or else one, that are the number of a group. -/
inductive GroupNumber (groups : Nat) : Text → Nat → Text → Prop where
  /-- Two digits. -/
  | two {d e : Char} {n : Nat} {r : Text} : Text.natural? [d, e] = some n → 1 ≤ n → n < groups →
      GroupNumber groups (d :: e :: r) n r
  /-- One digit, where it is not the first of two. -/
  | one {d : Char} {n : Nat} {r : Text} : Text.natural? [d] = some n → 1 ≤ n → n < groups →
      (∀ e r' m, r = e :: r' → Text.natural? [d, e] = some m → 1 ≤ m → ¬ m < groups) →
      GroupNumber groups (d :: r) n r

/-- What the text behind a dollar sign makes of it, and where the target goes on. Names are
known where the pattern has a group with a name. -/
inductive TargetReference (groups : Nat) (named : Bool) : Text → TargetPart → Text → Prop where
  /-- A second dollar sign: one dollar sign. -/
  | dollar {r : Text} : TargetReference groups named ('$' :: r) (.char '$') r
  /-- An ampersand: the whole match. -/
  | whole {r : Text} : TargetReference groups named ('&' :: r) .whole r
  /-- The number of a group. -/
  | number {t r : Text} {n : Nat} : GroupNumber groups t n r →
      TargetReference groups named t (.group n) r
  /-- A name in angles, up to the first closing one. -/
  | named {name r : Text} : named = true → '>' ∉ name →
      TargetReference groups named ('<' :: (name ++ '>' :: r)) (.named name) r

/-- The reading of a target from left to right. -/
inductive TargetReading (groups : Nat) (named : Bool) : Text → List TargetPart → Prop where
  /-- The end. -/
  | nil : TargetReading groups named [] []
  /-- A character that is no dollar sign is copied. -/
  | char {c : Char} {r : Text} {parts : List TargetPart} : c ≠ '$' →
      TargetReading groups named r parts → TargetReading groups named (c :: r) (.char c :: parts)
  /-- A reference. -/
  | reference {t r : Text} {part : TargetPart} {parts : List TargetPart} :
      TargetReference groups named t part r → TargetReading groups named r parts →
      TargetReading groups named ('$' :: t) (part :: parts)
  /-- Any other dollar sign is copied. -/
  | literal {t : Text} {parts : List TargetPart} :
      (∀ part r, ¬ TargetReference groups named t part r) → TargetReading groups named t parts →
      TargetReading groups named ('$' :: t) (.char '$' :: parts)

/-- What a part of a target stands for in a match. A group that took no part stands for
nothing, and so does a name that no group has. -/
def TargetPart.text (re : Regex) (s : Regex.Segment) : TargetPart → Text
  | .char c => [c]
  | .whole => s.whole
  | .group n => s.group n
  | .named name => (Regex.Reference.named name).resolve re s

/-- What a part of a target puts in the place of a match. This is what the part stands for,
except for names: digits are taken for the number of a group, as long as they fit 64 bits, and a
name with other characters than letters, digits and underscores of ASCII puts in nothing. -/
def TargetPart.inserted (re : Regex) (s : Regex.Segment) : TargetPart → Text
  | .named name =>
    match Text.natural? name with
    | some n => if n < UInt64.size then s.group n else TargetPart.text re s (.named name)
    | none => if isReferableName name then TargetPart.text re s (.named name) else []
  | part => part.text re s

/-! ### Numbers of groups -/

/-- The value of one digit. -/
theorem natural?_one (d : Char) : Text.natural? [d] = Text.digitValue? d := by
  simp [Text.natural?, Text.naturalFrom]

/-- The value of two digits. -/
theorem natural?_two (d e : Char) :
    Text.natural? [d, e]
      = (Text.digitValue? d).bind fun a =>
          (Text.digitValue? e).bind fun b => some (10 * a + b) := by
  simp [Text.natural?, Text.naturalFrom]

/-- A digit has a value below 10. -/
theorem le_of_digitValue? {d : Char} {n : Nat} (h : Text.digitValue? d = some n) : n ≤ 9 := by
  rw [Text.digitValue?_eq] at h
  split at h
  · rename_i hdigit
    have hle : d.toNat ≤ 57 := (Char.isDigit_iff_toNat.1 hdigit).2
    have hn := Option.some.inj h
    have hzero : '0'.toNat = 48 := rfl
    omega
  · simp at h

/-- The numbers that are read have one digit or two. -/
theorem GroupNumber.le {groups n : Nat} {t r : Text} (h : GroupNumber groups t n r) : n ≤ 99 := by
  cases h with
  | @two d e _ _ hvalue _ _ =>
    rw [natural?_two] at hvalue
    obtain ⟨a, ha, hvalue⟩ := Option.bind_eq_some_iff.1 hvalue
    obtain ⟨b, hb, hvalue⟩ := Option.bind_eq_some_iff.1 hvalue
    have hn := Option.some.inj hvalue
    have hale := le_of_digitValue? ha
    have hble := le_of_digitValue? hb
    omega
  | one hvalue _ _ _ =>
    rw [natural?_one] at hvalue
    have hle := le_of_digitValue? hvalue
    omega

/-- Where the number of a group is read, a digit stands. -/
theorem GroupNumber.exists_digit {groups n : Nat} {t r : Text} (h : GroupNumber groups t n r) :
    ∃ d r', t = d :: r' ∧ (Text.digitValue? d).isSome := by
  cases h with
  | @two d e _ r hvalue _ _ =>
    rw [natural?_two] at hvalue
    obtain ⟨a, ha, -⟩ := Option.bind_eq_some_iff.1 hvalue
    exact ⟨d, e :: r, rfl, by rw [ha]; rfl⟩
  | @one d _ r hvalue _ _ _ =>
    rw [natural?_one] at hvalue
    exact ⟨d, r, rfl, by rw [hvalue]; rfl⟩

/-- The marks that begin other references are no digits. -/
theorem not_groupNumber_of_mark {groups n : Nat} {c : Char} {t r : Text}
    (hc : Text.digitValue? c = none) : ¬ GroupNumber groups (c :: t) n r := by
  intro h
  obtain ⟨d, r', heq, hdigit⟩ := h.exists_digit
  obtain ⟨rfl, -⟩ := List.cons.inj heq
  rw [hc] at hdigit
  simp at hdigit

/-- Whether a number is that of a group, as it is tested. -/
theorem isGroup_iff {groups n : Nat} :
    (decide (0 < n) && decide (n < groups)) = true ↔ 1 ≤ n ∧ n < groups := by
  rw [Bool.and_eq_true, decide_eq_true_eq, decide_eq_true_eq, Nat.succ_le_iff]

/-- What is read is the number of a group. -/
theorem groupNumber_of_read {groups n : Nat} {t r : Text}
    (h : readGroupNumber? groups t = some (n, r)) : GroupNumber groups t n r := by
  unfold readGroupNumber? at h
  split at h
  · simp at h
  · rename_i d r₀
    split at h
    · simp at h
    · rename_i a ha
      dsimp only at h
      split at h
      · -- Two digits are the number of a group.
        rename_i found hfound
        obtain rfl := Option.some.inj h
        split at hfound
        · simp at hfound
        · rename_i e r'
          obtain ⟨b, hb, hgroup⟩ := Option.bind_eq_some_iff.1 hfound
          split at hgroup
          · rename_i hrange
            obtain ⟨rfl, rfl⟩ := Prod.mk.inj (Option.some.inj hgroup)
            obtain ⟨hpos, hlt⟩ := isGroup_iff.1 hrange
            refine .two ?_ hpos hlt
            rw [natural?_two, ha, hb]
            rfl
          · simp at hgroup
      · rename_i htwo
        split at h
        · rename_i hrange
          obtain ⟨rfl, rfl⟩ := Prod.mk.inj (Option.some.inj h)
          obtain ⟨hpos, hlt⟩ := isGroup_iff.1 hrange
          refine .one (by rw [natural?_one, ha]) hpos hlt ?_
          rintro e r' m rfl hvalue hpos' hlt'
          -- Had two digits been the number of a group, they would have been taken.
          rw [natural?_two, ha, Option.bind_some] at hvalue
          obtain ⟨b, hb, hm⟩ := Option.bind_eq_some_iff.1 hvalue
          obtain rfl := Option.some.inj hm
          have hrange' := isGroup_iff.2 ⟨hpos', hlt'⟩
          simp only [hb, Option.bind_some, hrange', if_true, reduceCtorEq] at htwo
        · simp at h

/-- The number of a group is read. -/
theorem GroupNumber.read {groups n : Nat} {t r : Text} (h : GroupNumber groups t n r) :
    readGroupNumber? groups t = some (n, r) := by
  cases h with
  | @two d e _ r hvalue hpos hlt =>
    rw [natural?_two] at hvalue
    obtain ⟨a, ha, hvalue⟩ := Option.bind_eq_some_iff.1 hvalue
    obtain ⟨b, hb, hvalue⟩ := Option.bind_eq_some_iff.1 hvalue
    obtain rfl := Option.some.inj hvalue
    have hrange := isGroup_iff.2 ⟨hpos, hlt⟩
    simp only [readGroupNumber?, ha, hb, Option.bind_some, hrange, if_true]
  | @one d _ r hvalue hpos hlt hone =>
    rw [natural?_one] at hvalue
    have hrange := isGroup_iff.2 ⟨hpos, hlt⟩
    cases r with
    | nil => simp only [readGroupNumber?, hvalue, hrange, if_true]
    | cons e r =>
      cases hb : Text.digitValue? e with
      | none => simp only [readGroupNumber?, hvalue, hb, Option.bind_none, hrange, if_true]
      | some b =>
        -- The two digits are the number of no group, so the first one is taken alone.
        have htwo : (decide (0 < 10 * n + b) && decide (10 * n + b < groups)) = false := by
          have hvalue' : Text.natural? [d, e] = some (10 * n + b) := by
            rw [natural?_two, hvalue, hb]
            rfl
          have hnot := hone e r (10 * n + b) rfl hvalue' (by omega)
          rw [Bool.eq_false_iff]
          exact fun hrange' => hnot (isGroup_iff.1 hrange').2
        simp only [readGroupNumber?, hvalue, hb, Option.bind_some, htwo, Bool.false_eq_true,
          if_false, hrange, if_true]

/-- The number of a group is read off the start of a text as two digits or else one. -/
theorem readGroupNumber?_eq_some_iff {groups n : Nat} {t r : Text} :
    readGroupNumber? groups t = some (n, r) ↔ GroupNumber groups t n r :=
  ⟨groupNumber_of_read, GroupNumber.read⟩

/-! ### Targets as expansions -/

section
variable {groups : Nat} {named : Bool}

/-- A character that is no dollar sign is written as it is. -/
theorem expandTarget_cons {c : Char} (hc : c ≠ '$') (r : Text) :
    expandTarget groups named (c :: r) = c :: expandTarget groups named r := by
  rw [expandTarget]
  all_goals simp [hc]

/-- The number of a group is written in braces. -/
theorem expandTarget_number {t r : Text} {n : Nat} (h : GroupNumber groups t n r) :
    expandTarget groups named ('$' :: t)
      = braced (Text.ofNatural n) ++ expandTarget groups named r := by
  have hread := readGroupNumber?_eq_some_iff.2 h
  rw [expandTarget]
  · split
    · rename_i n' rest hn
      rw [hread] at hn
      obtain ⟨rfl, rfl⟩ := Prod.mk.inj (Option.some.inj hn)
      rfl
    · rename_i hn
      rw [hread] at hn
      simp at hn
  -- None of the other references begins with a digit.
  all_goals
    rintro r' rfl
    exact not_groupNumber_of_mark (by decide) h

/-- A name in angles is written in braces, if it can be. -/
theorem expandTarget_named {name r : Text} (hnamed : named = true) (hname : '>' ∉ name) :
    expandTarget groups named ('$' :: '<' :: (name ++ '>' :: r))
      = (if isReferableName name then braced name else []) ++ expandTarget groups named r := by
  have htake := Text.takeWhile_append_mark r hname
  have hdrop := Text.dropWhile_append_mark r hname
  have hcloses : (named && (name ++ '>' :: r).contains '>') = true := by simp [hnamed]
  rw [expandTarget, if_pos hcloses]
  simp only [htake, hdrop, List.drop_succ_cons, List.drop_zero]

/-- A dollar sign that begins no reference is doubled. -/
theorem expandTarget_literal {t : Text}
    (h : ∀ part r, ¬ TargetReference groups named t part r) :
    expandTarget groups named ('$' :: t) = '$' :: '$' :: expandTarget groups named t := by
  have hnumber : readGroupNumber? groups t = none := by
    rw [Option.eq_none_iff_forall_ne_some]
    rintro ⟨n, r⟩ hread
    exact h _ _ (.number (readGroupNumber?_eq_some_iff.1 hread))
  by_cases hangle : ∃ r, t = '<' :: r
  · obtain ⟨r, rfl⟩ := hangle
    have hcloses : (named && r.contains '>') = false := by
      rw [Bool.eq_false_iff]
      intro hcloses
      rw [Bool.and_eq_true, List.contains_iff_mem] at hcloses
      obtain ⟨name, r', rfl, hname⟩ := List.eq_append_cons_of_mem hcloses.2
      exact h _ _ (.named hcloses.1 hname)
    rw [expandTarget, hcloses, if_neg Bool.false_ne_true, expandTarget_cons (by decide)]
  · rw [expandTarget]
    · split
      · rename_i hn
        rw [hnumber] at hn
        simp at hn
      · rfl
    · rintro r rfl
      exact h _ _ .dollar
    · rintro r rfl
      exact h _ _ .whole
    · rintro r rfl
      exact hangle ⟨r, rfl⟩

end

/-! ### What is put in -/

/-- A name that can be referred to holds no closing brace. -/
theorem brace_not_mem_of_isReferableName {name : Text} (h : isReferableName name = true) :
    '\x7d' ∉ name := by
  intro hmem
  simp only [isReferableName, Bool.and_eq_true, List.all_eq_true] at h
  exact absurd (h.2 _ hmem) (by decide)

/-- A reference in braces in front of an expansion. -/
theorem expand_braced_append (re : Regex) (s : Regex.Segment) (r : Text) {name : Text}
    (hname : '\x7d' ∉ name) :
    Regex.expand re s (braced name ++ r)
      = (Regex.Reference.ofText name).resolve re s ++ Regex.expand re s r := by
  have hbraced : braced name ++ r = '$' :: '\x7b' :: (name ++ '\x7d' :: r) := by
    simp [braced]
  rw [hbraced, Regex.expand_braced re s r hname]

/-- Digits can be referred to. -/
theorem isReferableName_of_natural? {name : Text} {n : Nat} (h : Text.natural? name = some n) :
    isReferableName name = true := by
  obtain ⟨⟨hne, hdigits⟩, -⟩ := Text.natural?_eq_some_iff.1 h
  have hall : name.all Regex.isReferenceChar = true := by
    rw [List.all_eq_true]
    intro c hc
    simp [Regex.isReferenceChar, Char.isAlphanum, hdigits c hc]
  simp [isReferableName, hne, hall]

/-- A name puts in what its reference in braces is resolved to, if it can be referred to. -/
theorem inserted_named (re : Regex) (s : Regex.Segment) (name : Text) :
    TargetPart.inserted re s (.named name)
      = if isReferableName name then (Regex.Reference.ofText name).resolve re s else [] := by
  cases hnumber : Text.natural? name with
  | none =>
    simp only [TargetPart.inserted, hnumber, Regex.ofText_of_natural?_eq_none hnumber,
      TargetPart.text]
  | some n =>
    rw [if_pos (isReferableName_of_natural? hnumber)]
    by_cases hn : n < UInt64.size
    · simp only [TargetPart.inserted, hnumber, hn, if_true, Regex.ofText_of_natural? hnumber hn]
      rfl
    · simp only [TargetPart.inserted, hnumber, hn, if_false, Regex.Reference.ofText]
      rfl

/-- **A target puts in what its parts do**, one after the other. -/
theorem expand_expandTarget {re : Regex} {groups : Nat} {named : Bool} {target : Text}
    {parts : List TargetPart} (s : Regex.Segment) (h : TargetReading groups named target parts) :
    Regex.expand re s (expandTarget groups named target)
      = parts.flatMap (TargetPart.inserted re s) := by
  induction h with
  | nil =>
    rw [expandTarget, Regex.expand]
    rfl
  | char hc _ ih =>
    rw [expandTarget_cons hc, Regex.expand_cons _ _ _ hc, ih]
    rfl
  | @reference t r part parts href _ ih =>
    rw [List.flatMap_cons, ← ih]
    cases href with
    | dollar =>
      rw [expandTarget, Regex.expand_dollar]
      rfl
    | whole =>
      have hzero : Regex.Reference.ofText ['0'] = .number 0 := by decide
      rw [expandTarget, expand_braced_append _ _ _ (by decide), hzero]
      simp only [Regex.Reference.resolve, Regex.Segment.group_zero]
      rfl
    | @number _ _ n hnumber =>
      have hdigits : '\x7d' ∉ Text.ofNatural n := fun hmem =>
        absurd ((Text.isDigits_ofNatural n).2 _ hmem) (by decide)
      have hfits : n < UInt64.size := Nat.lt_of_le_of_lt hnumber.le (by decide)
      rw [expandTarget_number hnumber, expand_braced_append _ _ _ hdigits,
        Regex.ofText_ofNatural hfits]
      rfl
    | @named name _ hnamed hname =>
      rw [expandTarget_named hnamed hname, inserted_named]
      cases hrefer : isReferableName name with
      | false => rfl
      | true =>
        rw [if_pos rfl, expand_braced_append _ _ _ (brace_not_mem_of_isReferableName hrefer)]
        rfl
  | literal hnone _ ih =>
    rw [expandTarget_literal hnone, Regex.expand_dollar, ih]
    rfl

/-! ### There is one reading -/

/-- What stands behind a dollar sign makes one thing of it. -/
theorem TargetReference.unique {groups : Nat} {named : Bool} {t r r' : Text}
    {part part' : TargetPart} (h : TargetReference groups named t part r)
    (h' : TargetReference groups named t part' r') : part = part' ∧ r = r' := by
  cases h with
  | dollar =>
    cases h' with
    | dollar => exact ⟨rfl, rfl⟩
    | number h' => exact absurd h' (not_groupNumber_of_mark (by decide))
  | whole =>
    cases h' with
    | whole => exact ⟨rfl, rfl⟩
    | number h' => exact absurd h' (not_groupNumber_of_mark (by decide))
  | number h =>
    cases h' with
    | dollar => exact absurd h (not_groupNumber_of_mark (by decide))
    | whole => exact absurd h (not_groupNumber_of_mark (by decide))
    | number h' =>
      have hread := (readGroupNumber?_eq_some_iff.2 h).symm.trans
        (readGroupNumber?_eq_some_iff.2 h')
      obtain ⟨rfl, rfl⟩ := Prod.mk.inj (Option.some.inj hread)
      exact ⟨rfl, rfl⟩
    | named _ _ => exact absurd h (not_groupNumber_of_mark (by decide))
  | @named name r _ hname =>
    generalize htext : '<' :: (name ++ '>' :: r) = t at h'
    cases h' with
    | dollar => simp at htext
    | whole => simp at htext
    | number h' =>
      subst htext
      exact absurd h' (not_groupNumber_of_mark (by decide))
    | @named name' r' _ hname' =>
      obtain ⟨-, htext⟩ := List.cons.inj htext
      have hnames := congrArg (List.takeWhile (· ≠ '>')) htext
      rw [Text.takeWhile_append_mark r hname, Text.takeWhile_append_mark r' hname'] at hnames
      subst hnames
      exact ⟨rfl, (List.cons.inj (List.append_cancel_left htext)).2⟩

/-- Behind a reference the target goes on. -/
theorem TargetReference.suffix {groups : Nat} {named : Bool} {t r : Text} {part : TargetPart}
    (h : TargetReference groups named t part r) : r <:+ t := by
  cases h with
  | dollar => exact ⟨['$'], rfl⟩
  | whole => exact ⟨['&'], rfl⟩
  | number h =>
    cases h with
    | @two d e _ _ => exact ⟨[d, e], rfl⟩
    | @one d _ _ => exact ⟨[d], rfl⟩
  | @named name _ _ _ => exact ⟨'<' :: (name ++ ['>']), by simp⟩

/-- Every target can be read. -/
theorem exists_targetReading (groups : Nat) (named : Bool) (target : Text) :
    ∃ parts, TargetReading groups named target parts := by
  induction hn : target.length using Nat.strongRecOn generalizing target with
  | _ n ih =>
    subst hn
    cases target with
    | nil => exact ⟨[], .nil⟩
    | cons c t =>
      by_cases hc : c = '$'
      · subst hc
        by_cases href : ∃ part r, TargetReference groups named t part r
        · obtain ⟨part, r, href⟩ := href
          have hlen := href.suffix.length_le
          obtain ⟨parts, hparts⟩ := ih r.length (by simp only [List.length_cons]; omega) r rfl
          exact ⟨_, .reference href hparts⟩
        · obtain ⟨parts, hparts⟩ := ih t.length (by simp) t rfl
          exact ⟨_, .literal (fun part r h => href ⟨part, r, h⟩) hparts⟩
      · obtain ⟨parts, hparts⟩ := ih t.length (by simp) t rfl
        exact ⟨_, .char hc hparts⟩

/-- No target can be read in two ways. -/
theorem TargetReading.unique {groups : Nat} {named : Bool} {target : Text}
    {parts parts' : List TargetPart} (h : TargetReading groups named target parts)
    (h' : TargetReading groups named target parts') : parts = parts' := by
  induction h generalizing parts' with
  | nil => cases h' with
    | nil => rfl
  | char hc _ ih =>
    cases h' with
    | char _ h' => rw [ih h']
    | reference => exact absurd rfl hc
    | literal => exact absurd rfl hc
  | reference href _ ih =>
    cases h' with
    | char hc _ => exact absurd rfl hc
    | reference href' h' =>
      obtain ⟨rfl, rfl⟩ := href.unique href'
      rw [ih h']
    | literal hnone _ => exact absurd href (hnone _ _)
  | literal hnone _ ih =>
    cases h' with
    | char hc _ => exact absurd rfl hc
    | reference href' _ => exact absurd href' (hnone _ _)
    | literal _ h' => rw [ih h']

/-! ### Targets without names -/

/-- Without names no part is a name. -/
theorem TargetReading.named_of_mem {groups : Nat} {named : Bool} {target name : Text}
    {parts : List TargetPart} (h : TargetReading groups named target parts)
    (hmem : .named name ∈ parts) : named = true := by
  induction h with
  | nil => simp at hmem
  | char _ _ ih =>
    rcases List.mem_cons.1 hmem with heq | hmem
    · simp at heq
    · exact ih hmem
  | reference href _ ih =>
    rcases List.mem_cons.1 hmem with rfl | hmem
    · cases href with
      | named hnamed _ => exact hnamed
    · exact ih hmem
  | literal _ _ ih =>
    rcases List.mem_cons.1 hmem with heq | hmem
    · simp at heq
    · exact ih hmem

/-- A target in which no name opens reads the same whether names are known or not. -/
theorem TargetReading.of_not_infix {groups : Nat} {target : Text} {parts : List TargetPart}
    (h : TargetReading groups false target parts) (hplain : ¬ ['$', '<'] <:+: target) :
    TargetReading groups true target parts := by
  induction h with
  | nil => exact .nil
  | char hc _ ih => exact .char hc (ih fun hr => hplain (List.infix_cons hr))
  | reference href _ ih =>
    have hrest := ih fun hr => hplain (List.infix_cons (hr.trans href.suffix.isInfix))
    cases href with
    | dollar => exact .reference .dollar hrest
    | whole => exact .reference .whole hrest
    | number hnumber => exact .reference (.number hnumber) hrest
    | named hnamed _ => simp at hnamed
  | literal hnone _ ih =>
    refine .literal (fun part r href => ?_) (ih fun hr => hplain (List.infix_cons hr))
    cases href with
    | dollar => exact hnone _ _ .dollar
    | whole => exact hnone _ _ .whole
    | number hnumber => exact hnone _ _ (.number hnumber)
    | @named name r _ _ => exact hplain ⟨[], name ++ '>' :: r, rfl⟩

/-! ### Modifications -/

/-- A pattern with a target replaces each match by what the parts of the target put in. -/
theorem apply_regexReplacement {source flags target : Text} {re : Regex}
    (hre : compilePattern? source flags = some re) {parts : List TargetPart}
    (h : TargetReading re.groupCount re.hasNamedGroup target parts) (registry : Registry)
    (t : Text) :
    Modification.apply registry t (.regexReplacement source flags target)
      = ((re.segments t).1.flatMap fun s => s.gap ++ parts.flatMap (TargetPart.inserted re s)) ++
          (re.segments t).2 := by
  simp only [Modification.apply, replacePattern, hre, Regex.replaceMatches,
    expand_expandTarget _ h]

/-- **Numbers of groups and dollar signs.** Take a pattern that compiles, and a target in which no
name opens, or any target if no group of the pattern has a name. The target has one reading, and
what is put in for a match is what its parts stand for. -/
theorem replacement_of_numbers {source flags : Text} {re : Regex}
    (hre : compilePattern? source flags = some re) {target : Text}
    (htarget : re.hasNamedGroup = false ∨ ¬ ['$', '<'] <:+: target) :
    ∃ parts, TargetReading re.groupCount false target parts ∧
      (∀ parts', TargetReading re.groupCount false target parts' → parts' = parts) ∧
      (∀ s, Regex.expand re s (expandTarget re.groupCount re.hasNamedGroup target)
        = parts.flatMap (TargetPart.text re s)) ∧
      ∀ registry t, Modification.apply registry t (.regexReplacement source flags target)
        = ((re.segments t).1.flatMap fun s => s.gap ++ parts.flatMap (TargetPart.text re s)) ++
            (re.segments t).2 := by
  obtain ⟨parts, hparts⟩ := exists_targetReading re.groupCount false target
  have hreading : TargetReading re.groupCount re.hasNamedGroup target parts := by
    cases hnamed : re.hasNamedGroup with
    | false => exact hparts
    | true =>
      rw [hnamed] at htarget
      exact hparts.of_not_infix (htarget.resolve_left (by simp))
  -- No part is a name, so each one puts in what it stands for.
  have htext : ∀ s, parts.flatMap (TargetPart.inserted re s)
      = parts.flatMap (TargetPart.text re s) := by
    intro s
    refine List.flatMap_congr fun part hpart => ?_
    cases part with
    | named name =>
      have hnamed := hparts.named_of_mem hpart
      simp at hnamed
    | _ => rfl
  refine ⟨parts, hparts, fun parts' h => h.unique hparts, fun s => ?_, fun registry t => ?_⟩
  · rw [expand_expandTarget s hreading, htext]
  · simp only [apply_regexReplacement hre hreading registry t, htext]

/-- Two digits fall back to one, a leading zero counts as a digit, and what a doubled dollar sign
leaves is not read again. The second group takes no part in the second match. -/
theorem replacement_of_numbers_fallback :
    let source := "(a)(b)?".toList
    let target := "$10$01$2$3$$1$&$".toList
    ∃ re parts, compilePattern? source ['g'] = some re ∧ re.hasNamedGroup = false ∧
      TargetReading re.groupCount false target parts ∧
      ((re.segments "ab-a".toList).1.flatMap fun s =>
          s.gap ++ parts.flatMap (TargetPart.text re s)) ++ (re.segments "ab-a".toList).2
        = "a0ab$3$1ab$-a0a$3$1a$".toList := by
  intro source target
  obtain ⟨re, hre⟩ : ∃ re, compilePattern? source ['g'] = some re :=
    Option.isSome_iff_exists.1 (by decide +kernel)
  have hnamed : re.hasNamedGroup = false := by
    have hall : (compilePattern? source ['g']).all (fun re => !re.hasNamedGroup) = true := by
      decide +kernel
    rw [hre] at hall
    simpa using hall
  have htarget : re.hasNamedGroup = false ∨ ¬ ['$', '<'] <:+: target := .inl hnamed
  obtain ⟨parts, hparts, -, -, happly⟩ := replacement_of_numbers hre htarget
  refine ⟨re, parts, hre, hnamed, hparts, ?_⟩
  rw [← happly Registry.standard "ab-a".toList]
  decide +kernel

/-- **Names of groups.** Take a pattern that compiles and has a group with a name. A target has one
reading. A name in it stands for the one group with this very name, and for nothing if there is
none. What is put in for a match is what the parts stand for, as long as no name is a number, and
the names of groups that are referred to are made of letters, digits and underscores of ASCII. In
any case it is what `TargetPart.inserted` says. -/
theorem replacement_of_names {source flags : Text} {re : Regex}
    (hre : compilePattern? source flags = some re) (hnamed : re.hasNamedGroup = true)
    (target : Text) :
    ∃ parts, TargetReading re.groupCount true target parts ∧
      (∀ parts', TargetReading re.groupCount true target parts' → parts' = parts) ∧
      (∀ s name n, (n, some name) ∈ re.expr.groups →
        TargetPart.text re s (.named name) = s.group n) ∧
      (∀ s name, (∀ n, (n, some name) ∉ re.expr.groups) →
        TargetPart.text re s (.named name) = []) ∧
      ((∀ name, .named name ∈ parts → Text.natural? name = none ∧
          ∀ n, (n, some name) ∈ re.expr.groups → isReferableName name = true) →
        ∀ s, Regex.expand re s (expandTarget re.groupCount re.hasNamedGroup target)
          = parts.flatMap (TargetPart.text re s)) ∧
      (∀ s, Regex.expand re s (expandTarget re.groupCount re.hasNamedGroup target)
        = parts.flatMap (TargetPart.inserted re s)) ∧
      ∀ registry t, Modification.apply registry t (.regexReplacement source flags target)
        = ((re.segments t).1.flatMap fun s =>
            s.gap ++ parts.flatMap (TargetPart.inserted re s)) ++ (re.segments t).2 := by
  obtain ⟨parts, hparts⟩ := exists_targetReading re.groupCount true target
  obtain ⟨f, -, hcompile⟩ := Option.bind_eq_some_iff.1 hre
  have hgroup : ∀ s name n, (n, some name) ∈ re.expr.groups →
      TargetPart.text re s (.named name) = s.group n := by
    intro s name n hmem
    simp only [TargetPart.text, Regex.Reference.resolve,
      (Regex.groupIndex?_eq_some_iff hcompile).2 hmem, Option.map_some, Option.getD_some]
  have hnone : ∀ s name, (∀ n, (n, some name) ∉ re.expr.groups) →
      TargetPart.text re s (.named name) = [] := by
    intro s name hmissing
    have hindex : re.groupIndex? name = none := by
      rw [Option.eq_none_iff_forall_ne_some]
      exact fun n hn => hmissing n ((Regex.groupIndex?_eq_some_iff hcompile).1 hn)
    simp only [TargetPart.text, Regex.Reference.resolve, hindex, Option.map_none,
      Option.getD_none]
  have hreading : TargetReading re.groupCount re.hasNamedGroup target parts := by
    rw [hnamed]
    exact hparts
  refine ⟨parts, hparts, fun parts' h => h.unique hparts, hgroup, hnone, fun hplain s => ?_,
    fun s => expand_expandTarget s hreading, apply_regexReplacement hre hreading⟩
  rw [expand_expandTarget s hreading]
  refine List.flatMap_congr fun part hpart => ?_
  cases part with
  | named name =>
    obtain ⟨hnumber, hreferable⟩ := hplain name hpart
    simp only [TargetPart.inserted, hnumber]
    split
    · rfl
    · -- A name that is not passed on is the name of no group.
      rename_i hnot
      exact (hnone s name fun n hmem => hnot (hreferable n hmem)).symm
  | _ => rfl

/-- A name that no group has stands for nothing, and so does one whose group takes no part. An
angle that is not closed is copied. -/
theorem replacement_of_names_missing :
    let source := "(?<_>a)|(?<__>b)".toList
    let target := "[$<_>$<__>$<year>]$<_".toList
    ∃ re parts, compilePattern? source ['g'] = some re ∧ re.hasNamedGroup = true ∧
      TargetReading re.groupCount true target parts ∧
      ((re.segments "abc".toList).1.flatMap fun s =>
          s.gap ++ parts.flatMap (TargetPart.inserted re s)) ++ (re.segments "abc".toList).2
        = "[a]$<_[b]$<_c".toList := by
  intro source target
  obtain ⟨re, hre⟩ : ∃ re, compilePattern? source ['g'] = some re :=
    Option.isSome_iff_exists.1 (by decide +kernel)
  have hnamed : re.hasNamedGroup = true := by
    have hall : (compilePattern? source ['g']).all (fun re => re.hasNamedGroup) = true := by
      decide +kernel
    rw [hre] at hall
    simpa using hall
  obtain ⟨parts, hparts, -, -, -, -, -, happly⟩ := replacement_of_names hre hnamed target
  refine ⟨re, parts, hre, hnamed, hparts, ?_⟩
  rw [← happly Registry.standard "abc".toList]
  decide +kernel

/-- A name is not always resolved to the group that has it. No group of `(?<_>a)` is called `1`, but
`$<1>` puts in group 1. A group of `(?<_.>a)` is called `_.`, but `$<_.>` puts in nothing. -/
theorem replacement_of_names_differs :
    (∃ re, compilePattern? "(?<_>a)".toList ['g'] = some re ∧ re.hasNamedGroup = true ∧
      (∀ n, (n, some ['1']) ∉ re.expr.groups) ∧
      Modification.apply Registry.standard "ab".toList
          (.regexReplacement "(?<_>a)".toList ['g'] "[$<1>]".toList)
        = "[a]b".toList) ∧
    ∃ re, compilePattern? "(?<_.>a)".toList ['g'] = some re ∧ re.hasNamedGroup = true ∧
      (1, some ['_', '.']) ∈ re.expr.groups ∧
      Modification.apply Registry.standard "ab".toList
          (.regexReplacement "(?<_.>a)".toList ['g'] "[$<_.>]".toList)
        = "[]b".toList := by
  have hgroups : (compilePattern? "(?<_>a)".toList ['g']).map (·.expr.groups)
      = some [(1, some ['_'])] := by
    decide +kernel
  have hgroups' : (compilePattern? "(?<_.>a)".toList ['g']).map (·.expr.groups)
      = some [(1, some ['_', '.'])] := by
    decide +kernel
  obtain ⟨re, hre, hexpr⟩ := Option.map_eq_some_iff.1 hgroups
  obtain ⟨re', hre', hexpr'⟩ := Option.map_eq_some_iff.1 hgroups'
  refine ⟨⟨re, hre, ?_, ?_, by decide +kernel⟩, re', hre', ?_, ?_, by decide +kernel⟩
  · rw [Regex.hasNamedGroup, hexpr]
    rfl
  · intro n
    simp [hexpr]
  · rw [Regex.hasNamedGroup, hexpr']
    rfl
  · simp [hexpr']

end SearchLink.Template
