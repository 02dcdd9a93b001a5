import SearchLink.Proofs.Template.Opening
import SearchLink.Proofs.Text.Numeral

/-!
# `SearchLink.Proofs.Template.Grammar`: the grammar of a token

What may stand behind a variable's name, said as relations between a written text and what
it stands for: `PlainText` and `PatternText` for the parts of a block, `BoundText` for a
bound of a slice, `BlockText` for a block and `ChainText` for the blocks and blanks of a
token with the closing brace.

The readers follow these relations exactly. `readPlain_eq_some_iff`,
`readPattern_eq_some_iff` and `readUntil_eq_some_iff` say so for the parts,
`readBlock_eq_some_iff` for a block and `readChain_eq_some_iff` for a chain: a reader gives
`m` and the rest `r` exactly when the text is `w ++ r` for a `w` that stands for `m`. Since a
reader is a function, no text begins with two different chains (`ChainText.unique`).

The last section puts this together with the search for the name, in byte offsets.
-/

set_option autoImplicit false

namespace SearchLink.Template

/-! ### The relations -/

/-- A plain part and what it stands for. A backslash takes the next character as it stands;
braces and bars occur only behind one. -/
inductive PlainText : Text → Text → Prop
  | nil : PlainText [] []
  | escaped {w t : Text} (c : Char) : PlainText w t → PlainText ('\\' :: c :: w) (c :: t)
  | plain {w t : Text} {c : Char} :
      c ≠ '\\' → isBraceOrBar c = false → PlainText w t → PlainText (c :: w) (c :: t)

/-- The source of a pattern and what it stands for. A backslash makes a pair with the next
character. The pair `\/` stands for a slash and every other pair for itself; a slash occurs
only in a pair. -/
inductive PatternText : Text → Text → Prop
  | nil : PatternText [] []
  | slash {w t : Text} : PatternText w t → PatternText ('\\' :: '/' :: w) ('/' :: t)
  | pair {w t : Text} {c : Char} :
      c ≠ '/' → PatternText w t → PatternText ('\\' :: c :: w) ('\\' :: c :: t)
  | plain {w t : Text} {c : Char} :
      c ≠ '\\' → c ≠ '/' → PatternText w t → PatternText (c :: w) (c :: t)

/-- A bound of a slice: nothing for an open one, else a numeral of 64 bits. -/
inductive BoundText : Text → Option Int64 → Prop
  | unbounded : BoundText [] none
  | numeral {w : Text} {i : Int64} : Text.NumeralText w i.toInt → BoundText w (some i)

/-- Flags of a pattern hold no brace and no bar. -/
def IsFlagsText (flags : Text) : Prop := ∀ c ∈ flags, isBraceOrBar c = false

/-- A block and the modification it stands for. -/
inductive BlockText : Text → Modification → Prop
  | replacement {w v source target : Text} :
      PlainText w source → ¬ "re/".toList <+: w → PlainText v target →
      BlockText ('{' :: (w ++ '|' :: (v ++ ['}']))) (.replacement source target)
  | regexMatch {w source flags : Text} :
      PatternText w source → IsFlagsText flags →
      BlockText ('{' :: ("re/".toList ++ (w ++ '/' :: (flags ++ ['}']))))
        (.regexMatch source flags)
  | regexReplacement {w v source flags target : Text} :
      PatternText w source → IsFlagsText flags → PlainText v target →
      BlockText ('{' :: ("re/".toList ++ (w ++ '/' :: (flags ++ '|' :: (v ++ ['}'])))))
        (.regexReplacement source flags target)
  | function {name : Text} :
      ')' ∉ name → BlockText ('(' :: (name ++ [')'])) (.function name)
  | index {w : Text} {i : Int64} :
      Text.NumeralText w i.toInt → i ≠ Int64.maxValue →
      BlockText ('[' :: (w ++ [']'])) (.slice (some i) (some (i + 1)))
  | slice {a b : Text} {start stop : Option Int64} :
      ']' ∉ a → ':' ∉ a → BoundText a start → BoundText b stop →
      BlockText ('[' :: (a ++ ':' :: (b ++ [']']))) (.slice start stop)

/-- Blanks and blocks up to a closing brace, and the modifications of the blocks in order. -/
inductive ChainText : Text → Chain → Prop
  | close : ChainText ['}'] []
  | blank {w : Text} {chain : Chain} : ChainText w chain → ChainText (' ' :: w) chain
  | block {b w : Text} {m : Modification} {chain : Chain} :
      BlockText b m → ChainText w chain → ChainText (b ++ w) (m :: chain)

/-! ### The parts of a block -/

/-- How a plain part is read on at a character that is no backslash. -/
theorem readPlain_cons_of_ne {stop c : Char} {r : Text} (hc : c ≠ '\\') :
    readPlain stop (c :: r)
      = if c = stop then some ([], r)
        else if isBraceOrBar c then none
        else (readPlain stop r).map fun part => (c :: part.1, part.2) := by
  rw [readPlain.eq_def]
  simp only [hc, if_false]

/-- How the source of a pattern is read on at a character that is no backslash. -/
theorem readPattern_cons_of_ne {c : Char} {r : Text} (hc : c ≠ '\\') :
    readPattern (c :: r)
      = if c = '/' then some ([], r)
        else (readPattern r).map fun part => (c :: part.1, part.2) := by
  rw [readPattern.eq_def]
  simp only [hc, if_false]

/-- A written plain part is read up to the mark behind it. -/
theorem readPlain_append (stop : Char) (hstop : isBraceOrBar stop = true) {w part : Text}
    (hw : PlainText w part) (r : Text) : readPlain stop (w ++ stop :: r) = some (part, r) := by
  induction hw with
  | nil =>
    have hslash : stop ≠ '\\' := by
      rintro rfl
      simp [isBraceOrBar] at hstop
    rw [List.nil_append, readPlain_cons_of_ne hslash, if_pos rfl]
  | escaped c _ ih => simp [readPlain, ih]
  | @plain w t c hc hplain _ ih =>
    have hne : c ≠ stop := by
      rintro rfl
      simp [hstop] at hplain
    simp [readPlain_cons_of_ne hc, hne, hplain, ih]

/-- A plain part is read up to the mark that ends it. -/
theorem readPlain_eq_some_iff {stop : Char} (hstop : isBraceOrBar stop = true)
    {t part r : Text} :
    readPlain stop t = some (part, r) ↔ ∃ w, t = w ++ stop :: r ∧ PlainText w part := by
  constructor
  · intro h
    fun_induction readPlain stop t generalizing part r with
    | case1 => simp at h
    | case2 => simp at h
    | case3 d r' ih =>
      obtain ⟨⟨p, q⟩, hp, hq⟩ := Option.map_eq_some_iff.1 h
      obtain ⟨rfl, rfl⟩ := Prod.mk.inj hq
      obtain ⟨w, rfl, hw⟩ := ih hp
      exact ⟨'\\' :: d :: w, rfl, .escaped d hw⟩
    | case4 r' _ =>
      obtain ⟨rfl, rfl⟩ := Prod.mk.inj (Option.some.inj h)
      exact ⟨[], rfl, .nil⟩
    | case5 => simp at h
    | case6 c r' hc _ hplain ih =>
      obtain ⟨⟨p, q⟩, hp, hq⟩ := Option.map_eq_some_iff.1 h
      obtain ⟨rfl, rfl⟩ := Prod.mk.inj hq
      obtain ⟨w, rfl, hw⟩ := ih hp
      exact ⟨c :: w, rfl, .plain hc (by simpa using hplain) hw⟩
  · rintro ⟨w, rfl, hw⟩
    exact readPlain_append stop hstop hw r

/-- A written source of a pattern is read up to the slash behind it. -/
theorem readPattern_append {w part : Text} (hw : PatternText w part) (r : Text) :
    readPattern (w ++ '/' :: r) = some (part, r) := by
  induction hw with
  | nil => rw [List.nil_append, readPattern_cons_of_ne (by decide), if_pos rfl]
  | slash _ ih => simp [readPattern, ih]
  | pair hc _ ih => simp [readPattern, hc, ih]
  | plain hc hslash _ ih => simp [readPattern_cons_of_ne hc, hslash, ih]

/-- The source of a pattern is read up to the first slash outside of a pair. -/
theorem readPattern_eq_some_iff {t part r : Text} :
    readPattern t = some (part, r) ↔ ∃ w, t = w ++ '/' :: r ∧ PatternText w part := by
  constructor
  · intro h
    fun_induction readPattern t generalizing part r with
    | case1 => simp at h
    | case2 => simp at h
    | case3 d r' ih =>
      obtain ⟨⟨p, q⟩, hp, hq⟩ := Option.map_eq_some_iff.1 h
      obtain ⟨rfl, rfl⟩ := Prod.mk.inj hq
      obtain ⟨w, rfl, hw⟩ := ih hp
      refine ⟨'\\' :: d :: w, rfl, ?_⟩
      -- The pair `\/` stands for a slash, every other pair for itself.
      by_cases hd : d = '/'
      · subst hd
        exact .slash hw
      · simpa [hd] using PatternText.pair hd hw
    | case4 r' _ =>
      obtain ⟨rfl, rfl⟩ := Prod.mk.inj (Option.some.inj h)
      exact ⟨[], rfl, .nil⟩
    | case5 c r' hc hslash ih =>
      obtain ⟨⟨p, q⟩, hp, hq⟩ := Option.map_eq_some_iff.1 h
      obtain ⟨rfl, rfl⟩ := Prod.mk.inj hq
      obtain ⟨w, rfl, hw⟩ := ih hp
      exact ⟨c :: w, rfl, .plain hc hslash hw⟩
  · rintro ⟨w, rfl, hw⟩
    exact readPattern_append hw r

/-- A part without characters of a class is read up to one of that class. -/
theorem readUntil_append {stops : Char → Bool} {part : Text} {mark : Char}
    (hmark : stops mark = true) (hpart : ∀ c ∈ part, stops c = false) (r : Text) :
    readUntil stops (part ++ mark :: r) = some (part, mark, r) := by
  induction part with
  | nil => simp [readUntil, hmark]
  | cons c part ih =>
    obtain ⟨hc, hrest⟩ := List.forall_mem_cons.1 hpart
    simp [readUntil, hc, ih hrest]

/-- A part is read up to the first character of a class. -/
theorem readUntil_eq_some_iff {stops : Char → Bool} {t part r : Text} {mark : Char} :
    readUntil stops t = some (part, mark, r) ↔
      t = part ++ mark :: r ∧ stops mark = true ∧ ∀ c ∈ part, stops c = false := by
  constructor
  · intro h
    fun_induction readUntil stops t generalizing part mark r with
    | case1 => simp at h
    | case2 c r' hc =>
      simp only [Option.some.injEq, Prod.mk.injEq] at h
      obtain ⟨rfl, rfl, rfl⟩ := h
      exact ⟨rfl, hc, by simp⟩
    | case3 c r' hc ih =>
      obtain ⟨⟨p, m, q⟩, hp, hq⟩ := Option.map_eq_some_iff.1 h
      simp only [Prod.mk.injEq] at hq
      obtain ⟨rfl, rfl, rfl⟩ := hq
      obtain ⟨rfl, hmark, hpart⟩ := ih hp
      exact ⟨rfl, hmark, List.forall_mem_cons.2 ⟨by simpa using hc, hpart⟩⟩
  · rintro ⟨rfl, hmark, hpart⟩
    exact readUntil_append hmark hpart r

/-- A numeral holds none of the marks of a slice. -/
theorem no_mark_of_numeralText {w : Text} {i : Int} (h : Text.NumeralText w i) :
    ∀ c ∈ w, (decide (c = ']') || decide (c = ':')) = false := by
  intro c hc
  have hchar := h.isNumeralChar c hc
  by_contra hstop
  simp only [Bool.not_eq_false, Bool.or_eq_true, decide_eq_true_eq] at hstop
  rcases hstop with rfl | rfl <;> exact absurd hchar (by decide)

/-- A bound holds none of the marks of a slice. -/
theorem BoundText.no_mark {w : Text} {b : Option Int64} (h : BoundText w b) :
    ∀ c ∈ w, (decide (c = ']') || decide (c = ':')) = false := by
  cases h with
  | unbounded => simp
  | numeral h => exact no_mark_of_numeralText h

/-- A bound is read off the texts for it. -/
theorem readBound_eq_some_iff {t : Text} {b : Option Int64} :
    readBound t = some b ↔ BoundText t b := by
  cases t with
  | nil =>
    constructor
    · intro h
      obtain rfl := Option.some.inj h
      exact .unbounded
    · intro h
      cases h with
      | unbounded => rfl
      | numeral h =>
        -- No numeral is empty.
        have hread := Text.int64?_eq_some_iff.2 h
        simp [Text.int64?, Text.integer?, Text.natural?] at hread
  | cons c r =>
    simp only [readBound, List.isEmpty_cons, Bool.false_eq_true, if_false]
    constructor
    · intro h
      obtain ⟨i, hi, rfl⟩ := Option.map_eq_some_iff.1 h
      exact .numeral (Text.int64?_eq_some_iff.1 hi)
    · intro h
      cases h with
      | numeral h => rw [Text.int64?_eq_some_iff.2 h, Option.map_some]

/-! ### A block -/

/-- The letters `re/` in front of a bar stand in front of it alone. -/
theorem re_prefix_of_append_bar {w r : Text} (h : "re/".toList <+: w ++ '|' :: r) :
    "re/".toList <+: w := by
  have hre : "re/".toList = ['r', 'e', '/'] := rfl
  rw [hre] at h ⊢
  -- The bar is none of the three letters, so `w` has at least as many.
  match w with
  | [] => simp at h
  | [_] => simp at h
  | [_, _] => simp at h
  | a :: b :: c :: w => simpa using h

/-- A block in braces is read off what follows `{`. -/
theorem readBraces_append {w : Text} {m : Modification} (h : BlockText ('{' :: w) m)
    (r : Text) : readBraces (w ++ r) = some (m, r) := by
  cases h with
  | @replacement w v source target hw hre hv =>
    -- No part of the bar or of what follows it can complete the letters `re/`.
    have hnone : Text.stripStart? "re/".toList (w ++ '|' :: (v ++ '}' :: r)) = none := by
      rw [Option.eq_none_iff_forall_ne_some]
      intro r' hr'
      rw [Text.stripStart?_eq_some_iff] at hr'
      exact hre (re_prefix_of_append_bar ⟨r', hr'.symm⟩)
    simp only [readBraces, List.append_assoc, List.cons_append, List.nil_append, hnone,
      readPlain_append '|' rfl hw, readPlain_append '}' rfl hv, Option.bind_eq_bind,
      Option.bind_some]
  | @regexMatch w source flags hw hflags =>
    have hre := Text.stripStart?_eq_some_iff.2
      (rfl : "re/".toList ++ (w ++ '/' :: (flags ++ '}' :: r)) = _)
    have hread : readUntil isBraceOrBar (flags ++ '}' :: r) = some (flags, '}', r) :=
      readUntil_append rfl hflags r
    simp only [readBraces, List.append_assoc, List.cons_append, List.nil_append, hre,
      readPattern_append hw, hread, Option.bind_eq_bind, Option.bind_some, if_true]
  | @regexReplacement w v source flags target hw hflags hv =>
    have hre := Text.stripStart?_eq_some_iff.2
      (rfl : "re/".toList ++ (w ++ '/' :: (flags ++ '|' :: (v ++ '}' :: r))) = _)
    have hread : readUntil isBraceOrBar (flags ++ '|' :: (v ++ '}' :: r))
        = some (flags, '|', v ++ '}' :: r) := readUntil_append rfl hflags _
    simp only [readBraces, List.append_assoc, List.cons_append, List.nil_append, hre,
      readPattern_append hw, hread, readPlain_append '}' rfl hv, Option.bind_eq_bind,
      Option.bind_some, if_true]
    rfl

/-- What is read behind `{` is a block in braces. -/
theorem blockText_of_readBraces {t r : Text} {m : Modification}
    (h : readBraces t = some (m, r)) : ∃ w, t = w ++ r ∧ BlockText ('{' :: w) m := by
  unfold readBraces at h
  split at h
  · rename_i r₀ hr₀
    rw [Text.stripStart?_eq_some_iff] at hr₀
    subst hr₀
    simp only [Option.bind_eq_bind, Option.bind_eq_some_iff, Prod.exists] at h
    obtain ⟨source, r₁, h₁, flags, mark, r₂, h₂, h₃⟩ := h
    obtain ⟨w, rfl, hw⟩ := readPattern_eq_some_iff.1 h₁
    obtain ⟨rfl, -, hflags⟩ := readUntil_eq_some_iff.1 h₂
    split at h₃
    · rename_i hmark
      subst hmark
      simp only [Option.some.injEq, Prod.mk.injEq] at h₃
      obtain ⟨rfl, rfl⟩ := h₃
      exact ⟨_, by simp only [List.append_assoc, List.cons_append, List.nil_append],
        .regexMatch hw hflags⟩
    · split at h₃
      · rename_i hmark
        subst hmark
        simp only [Option.bind_eq_some_iff, Prod.exists] at h₃
        obtain ⟨target, r₃, h₃, h₄⟩ := h₃
        obtain ⟨v, rfl, hv⟩ := (readPlain_eq_some_iff rfl).1 h₃
        simp only [Option.some.injEq, Prod.mk.injEq] at h₄
        obtain ⟨rfl, rfl⟩ := h₄
        exact ⟨_, by simp only [List.append_assoc, List.cons_append, List.nil_append],
          .regexReplacement hw hflags hv⟩
      · simp at h₃
  · rename_i hnone
    simp only [Option.bind_eq_bind, Option.bind_eq_some_iff, Prod.exists] at h
    obtain ⟨source, r₁, h₁, target, r₂, h₂, h₃⟩ := h
    obtain ⟨w, rfl, hw⟩ := (readPlain_eq_some_iff rfl).1 h₁
    obtain ⟨v, rfl, hv⟩ := (readPlain_eq_some_iff rfl).1 h₂
    simp only [Option.some.injEq, Prod.mk.injEq] at h₃
    obtain ⟨rfl, rfl⟩ := h₃
    -- The reader has looked for `re/` in the raw text, before any escape.
    have hre : ¬ "re/".toList <+: w := by
      rintro ⟨w', rfl⟩
      rw [List.append_assoc, Text.stripStart?_eq_some_iff.2 rfl] at hnone
      simp at hnone
    exact ⟨_, by simp only [List.append_assoc, List.cons_append, List.nil_append],
      .replacement hw hre hv⟩

/-- A named function is read off what follows `(`. -/
theorem readFunction_append {w : Text} {m : Modification} (h : BlockText ('(' :: w) m)
    (r : Text) : readFunction (w ++ r) = some (m, r) := by
  cases h with
  | @function name hname =>
    have hread : readUntil (fun c => decide (c = ')')) (name ++ ')' :: r)
        = some (name, ')', r) := by
      refine readUntil_append (by decide) (fun c hc => ?_) r
      simp only [decide_eq_false_iff_not]
      rintro rfl
      exact hname hc
    simp only [readFunction, List.append_assoc, List.cons_append, List.nil_append, hread,
      Option.map_some]

/-- What is read behind `(` is a named function. -/
theorem blockText_of_readFunction {t r : Text} {m : Modification}
    (h : readFunction t = some (m, r)) : ∃ w, t = w ++ r ∧ BlockText ('(' :: w) m := by
  obtain ⟨⟨part, mark, r'⟩, h₁, h₂⟩ := Option.map_eq_some_iff.1 h
  obtain ⟨rfl, rfl⟩ := Prod.mk.inj h₂
  obtain ⟨rfl, hmark, hpart⟩ := readUntil_eq_some_iff.1 h₁
  obtain rfl : mark = ')' := by simpa using hmark
  refine ⟨part ++ [')'], by simp, .function fun hmem => ?_⟩
  simpa using hpart ')' hmem

/-- A slice is read off what follows `[`. -/
theorem readBrackets_append {w : Text} {m : Modification} (h : BlockText ('[' :: w) m)
    (r : Text) : readBrackets (w ++ r) = some (m, r) := by
  cases h with
  | @index w i hw hi =>
    have hread : readUntil (fun c => decide (c = ']') || decide (c = ':')) (w ++ ']' :: r)
        = some (w, ']', r) := readUntil_append (by decide) (no_mark_of_numeralText hw) r
    simp only [readBrackets, List.append_assoc, List.cons_append, List.nil_append, hread,
      Text.int64?_eq_some_iff.2 hw, singleIndex, if_neg hi, Option.bind_eq_bind,
      Option.bind_some, if_true]
  | @slice a b start stop _ _ ha hb =>
    -- Neither bound holds a mark, so each is read up to the mark written behind it.
    have hfirst : readUntil (fun c => decide (c = ']') || decide (c = ':'))
        (a ++ ':' :: (b ++ ']' :: r)) = some (a, ':', b ++ ']' :: r) :=
      readUntil_append (by decide) ha.no_mark _
    have hsecond : readUntil (fun c => decide (c = ']')) (b ++ ']' :: r) = some (b, ']', r) :=
      readUntil_append (by decide) (fun c hc => (Bool.or_eq_false_iff.1 (hb.no_mark c hc)).1) r
    simp only [readBrackets, List.append_assoc, List.cons_append, List.nil_append, hfirst,
      hsecond, readBound_eq_some_iff.2 ha, readBound_eq_some_iff.2 hb, Option.bind_eq_bind,
      Option.bind_some]
    rfl

/-- What is read behind `[` is a slice. -/
theorem blockText_of_readBrackets {t r : Text} {m : Modification}
    (h : readBrackets t = some (m, r)) : ∃ w, t = w ++ r ∧ BlockText ('[' :: w) m := by
  unfold readBrackets at h
  simp only [Option.bind_eq_bind, Option.bind_eq_some_iff, Prod.exists] at h
  obtain ⟨first, mark, r₁, h₁, h₂⟩ := h
  obtain ⟨rfl, hmark, hfirst⟩ := readUntil_eq_some_iff.1 h₁
  split at h₂
  · rename_i hclose
    subst hclose
    simp only [Option.bind_eq_some_iff, Option.some.injEq, Prod.mk.injEq] at h₂
    obtain ⟨i, hi, slice, hslice, rfl, rfl⟩ := h₂
    unfold singleIndex at hslice
    split at hslice
    · simp at hslice
    · rename_i hmax
      obtain rfl := Option.some.inj hslice
      exact ⟨first ++ [']'], by simp, .index (Text.int64?_eq_some_iff.1 hi) hmax⟩
  · rename_i hclose
    obtain rfl : mark = ':' := by simpa [hclose] using hmark
    simp only [Option.bind_eq_some_iff, Prod.exists] at h₂
    obtain ⟨second, mark₂, r₂, h₃, start, hstart, stop, hstop, h₄⟩ := h₂
    obtain ⟨rfl, hmark₂, -⟩ := readUntil_eq_some_iff.1 h₃
    obtain rfl : mark₂ = ']' := by simpa using hmark₂
    simp only [Option.some.injEq, Prod.mk.injEq] at h₄
    obtain ⟨rfl, rfl⟩ := h₄
    refine ⟨first ++ ':' :: (second ++ [']']), by simp, .slice (fun hmem => ?_) (fun hmem => ?_)
      (readBound_eq_some_iff.1 hstart) (readBound_eq_some_iff.1 hstop)⟩
    · simpa using hfirst ']' hmem
    · simpa using hfirst ':' hmem

/-- A block is read exactly where one is written. -/
theorem readBlock_eq_some_iff {t r : Text} {m : Modification} :
    readBlock t = some (m, r) ↔ ∃ w, t = w ++ r ∧ BlockText w m := by
  constructor
  · intro h
    cases t with
    | nil => simp [readBlock] at h
    | cons c t =>
      simp only [readBlock] at h
      split at h
      · rename_i hc
        subst hc
        obtain ⟨w, rfl, hw⟩ := blockText_of_readBraces h
        exact ⟨'{' :: w, rfl, hw⟩
      · split at h
        · rename_i hc
          subst hc
          obtain ⟨w, rfl, hw⟩ := blockText_of_readFunction h
          exact ⟨'(' :: w, rfl, hw⟩
        · split at h
          · rename_i hc
            subst hc
            obtain ⟨w, rfl, hw⟩ := blockText_of_readBrackets h
            exact ⟨'[' :: w, rfl, hw⟩
          · simp at h
  · rintro ⟨w, rfl, hw⟩
    -- The opening mark decides which of the three readers a block goes to.
    have hbraces : ∀ w, BlockText ('{' :: w) m → readBlock ('{' :: w ++ r) = some (m, r) :=
      fun w hw => readBraces_append hw r
    have hfunction : ∀ w, BlockText ('(' :: w) m → readBlock ('(' :: w ++ r) = some (m, r) :=
      fun w hw => readFunction_append hw r
    have hbrackets : ∀ w, BlockText ('[' :: w) m → readBlock ('[' :: w ++ r) = some (m, r) :=
      fun w hw => readBrackets_append hw r
    cases hw with
    | replacement hw hre hv => exact hbraces _ (.replacement hw hre hv)
    | regexMatch hw hflags => exact hbraces _ (.regexMatch hw hflags)
    | regexReplacement hw hflags hv => exact hbraces _ (.regexReplacement hw hflags hv)
    | function hname => exact hfunction _ (.function hname)
    | index hw hi => exact hbrackets _ (.index hw hi)
    | slice hclose hcolon ha hb => exact hbrackets _ (.slice hclose hcolon ha hb)

/-! ### A chain -/

/-- Where a block is read, the chain goes on behind it. -/
theorem readChain_of_readBlock {t rest : Text} {m : Modification}
    (h : readBlock t = some (m, rest)) :
    readChain t = (readChain rest).map fun part => (m :: part.1, part.2) := by
  cases t with
  | nil => simp [readBlock] at h
  | cons c r =>
    -- Neither the closing brace nor a blank opens a block.
    have hclose : c ≠ '}' := by
      rintro rfl
      simp [readBlock] at h
    have hblank : c ≠ ' ' := by
      rintro rfl
      simp [readBlock] at h
    rw [readChain, if_neg hclose, if_neg hblank]
    split
    · rename_i hblock
      rw [h] at hblock
      simp at hblock
    · rename_i m' rest' hblock
      rw [h] at hblock
      obtain ⟨rfl, rfl⟩ := Prod.mk.inj (Option.some.inj hblock)
      rfl

/-- A written chain is read off the text that it begins. -/
theorem readChain_append {w : Text} {chain : Chain} (h : ChainText w chain) (r : Text) :
    readChain (w ++ r) = some (chain, r) := by
  induction h with
  | close => rw [List.cons_append, readChain, if_pos rfl, List.nil_append]
  | blank _ ih => rw [List.cons_append, readChain, if_neg (by decide), if_pos rfl, ih]
  | @block b w m chain hb _ ih =>
    have hread : readBlock (b ++ w ++ r) = some (m, w ++ r) :=
      readBlock_eq_some_iff.2 ⟨b, List.append_assoc b w r, hb⟩
    rw [readChain_of_readBlock hread, ih, Option.map_some]

/-- A chain is read exactly where one is written. -/
theorem readChain_eq_some_iff {t r : Text} {chain : Chain} :
    readChain t = some (chain, r) ↔ ∃ w, t = w ++ r ∧ ChainText w chain := by
  constructor
  · intro h
    -- One case for the end of the text, a brace, a blank, a malformed block and a block.
    fun_induction readChain t generalizing chain r with
    | case1 => simp at h
    | case2 =>
      obtain ⟨rfl, rfl⟩ := Prod.mk.inj (Option.some.inj h)
      exact ⟨['}'], rfl, .close⟩
    | case3 r' _ ih =>
      obtain ⟨w, rfl, hw⟩ := ih h
      exact ⟨' ' :: w, rfl, .blank hw⟩
    | case4 => simp at h
    | case5 c r' _ _ m rest hblock ih =>
      obtain ⟨⟨p, q⟩, hp, hq⟩ := Option.map_eq_some_iff.1 h
      obtain ⟨rfl, rfl⟩ := Prod.mk.inj hq
      obtain ⟨b, hb, hblocktext⟩ := readBlock_eq_some_iff.1 hblock
      obtain ⟨w, rfl, hw⟩ := ih hp
      exact ⟨b ++ w, by rw [hb, List.append_assoc], .block hblocktext hw⟩
  · rintro ⟨w, rfl, hw⟩
    exact readChain_append hw r

/-- What a chain leaves is an end of the text. -/
theorem readChain_suffix {t r : Text} {chain : Chain} (h : readChain t = some (chain, r)) :
    r <:+ t := by
  obtain ⟨w, rfl, -⟩ := readChain_eq_some_iff.1 h
  exact List.suffix_append w r

/-- No text begins with two different chains, and none can be read in two ways. -/
theorem ChainText.unique {w w' r r' : Text} {chain chain' : Chain} (h : ChainText w chain)
    (h' : ChainText w' chain') (heq : w ++ r = w' ++ r') : w = w' ∧ chain = chain' := by
  have hread := readChain_append h r
  rw [heq, readChain_append h' r'] at hread
  obtain ⟨rfl, rfl⟩ := Prod.mk.inj (Option.some.inj hread)
  exact ⟨List.append_cancel_right heq, rfl⟩

/-- A chain ends with the closing brace of its token. -/
theorem ChainText.eq_append_brace {w : Text} {chain : Chain} (h : ChainText w chain) :
    ∃ w', w = w' ++ ['}'] := by
  induction h with
  | close => exact ⟨[], rfl⟩
  | blank _ ih =>
    obtain ⟨w', rfl⟩ := ih
    exact ⟨' ' :: w', rfl⟩
  | @block b _ _ _ _ _ ih =>
    obtain ⟨w', rfl⟩ := ih
    exact ⟨b ++ w', (List.append_assoc _ _ _).symm⟩

/-! ### A token -/

/-- Where the name stands first, the occurrence located is the chain written behind it. -/
theorem locate?_eq_some_iff_chainText {template name : Text} {start s a e : Nat}
    {chain : Chain} (hopens : FirstOpensAt template name start s a) :
    locate? template name start = some ⟨⟨s, e⟩, chain⟩ ↔
      ∃ w, template.sliceBytes? a e = some w ∧ ChainText w chain := by
  obtain ⟨front, t, word, o, rfl, rfl, ho, ht, hword, rfl, rfl⟩ := firstOpensAt_iff.1 hopens
  have hdrop : (front ++ t).dropBytes? front.utf8Size = some t := Text.dropBytes?_append front t
  have hsize : (front ++ t).utf8Size
      = front.utf8Size + o.before.utf8Size + word.utf8Size + o.after.utf8Size := by
    conv_lhs => rw [ht]
    simp only [Text.utf8Size_append]
    omega
  rw [locate?_eq_some_iff]
  constructor
  · rintro ⟨t', o', rest, ht', ho', hchain, hspan⟩
    rw [hdrop] at ht'
    obtain rfl := Option.some.inj ht'
    rw [ho] at ho'
    obtain rfl := Option.some.inj ho'
    obtain ⟨w, hafter, hw⟩ := readChain_eq_some_iff.1 hchain
    refine ⟨w, Text.sliceBytes?_eq_some_iff.2 ⟨front ++ o.before ++ word, rest, ?_, ?_, ?_⟩, hw⟩
    · rw [ht, hafter]
      simp only [List.append_assoc]
    · simp only [Text.utf8Size_append]
    · have hstop : e = (front ++ t).utf8Size - rest.utf8Size := congrArg Span.stop hspan
      rw [hstop, hsize, hafter, Text.utf8Size_append]
      omega
  · rintro ⟨w, hslice, hw⟩
    obtain ⟨p, r, hsplit, hp, rfl⟩ := Text.sliceBytes?_eq_some_iff.1 hslice
    -- The slice begins where the letters of the name end.
    have hcut : p ++ (w ++ r) = (front ++ o.before ++ word) ++ o.after := by
      rw [← List.append_assoc, ← hsplit]
      conv_lhs => rw [ht]
      simp only [List.append_assoc]
    obtain ⟨-, hafter⟩ := Text.append_inj_of_utf8Size hcut
      (by rw [hp]; simp only [Text.utf8Size_append])
    refine ⟨t, o, r, hdrop, ho, ?_, ?_⟩
    · rw [← hafter]
      exact readChain_append hw r
    · have hstop : (front ++ t).utf8Size - r.utf8Size
          = front.utf8Size + o.before.utf8Size + word.utf8Size + w.utf8Size := by
        rw [hsize, ← hafter, Text.utf8Size_append]
        omega
      rw [hstop]

/-- Nothing is located exactly when the name does not stand behind the offset, or when what
follows its first place is no chain. -/
theorem locate?_eq_none_iff {template name : Text} {start : Nat} :
    locate? template name start = none ↔
      ¬ ∃ s a e w chain, FirstOpensAt template name start s a ∧
        template.sliceBytes? a e = some w ∧ ChainText w chain := by
  rw [Option.eq_none_iff_forall_ne_some]
  constructor
  · rintro hnone ⟨s, a, e, w, chain, hopens, hslice, hw⟩
    exact hnone ⟨⟨s, e⟩, chain⟩
      ((locate?_eq_some_iff_chainText hopens).2 ⟨w, hslice, hw⟩)
  · rintro hnone ⟨⟨s, e⟩, chain⟩ hk
    -- Whatever is located lies at the first opening, with a chain behind it.
    obtain ⟨t, o, rest, ht, ho, -, hspan⟩ := locate?_eq_some_iff.1 hk
    obtain ⟨front, rfl, rfl⟩ := Text.dropBytes?_eq_some_iff.1 ht
    obtain ⟨word, hword⟩ := findOpening?_split ho
    have hopens : FirstOpensAt (front ++ t) name front.utf8Size s (s + word.utf8Size) :=
      firstOpensAt_iff.2 ⟨front, t, word, o, rfl, rfl, ho, hword.1, hword.2,
        congrArg Span.start hspan, rfl⟩
    obtain ⟨w, hslice, hw⟩ := (locate?_eq_some_iff_chainText hopens).1 hk
    exact hnone ⟨s, s + word.utf8Size, e, w, chain, hopens, hslice, hw⟩

/-- Behind one byte of a template at most one chain is written, and it has one end. -/
theorem ChainText.unique_of_sliceBytes? {template w w' : Text} {a e e' : Nat}
    {chain chain' : Chain} (hslice : template.sliceBytes? a e = some w)
    (hslice' : template.sliceBytes? a e' = some w') (h : ChainText w chain)
    (h' : ChainText w' chain') : e = e' ∧ chain = chain' := by
  obtain ⟨p, r, rfl, rfl, rfl⟩ := Text.sliceBytes?_eq_some_iff.1 hslice
  obtain ⟨p', r', hsplit, hp, rfl⟩ := Text.sliceBytes?_eq_some_iff.1 hslice'
  rw [List.append_assoc, List.append_assoc] at hsplit
  obtain ⟨-, htail⟩ := Text.append_inj_of_utf8Size hsplit hp.symm
  obtain ⟨rfl, rfl⟩ := h.unique h' htail
  exact ⟨rfl, rfl⟩

/-- **A token is located exactly as the grammar says.** Take the first place from `start` on
where the letters of `{name` stand, from byte `s` up to byte `a`. Then the span `(s, e)` and
the chain are located exactly when the bytes from `a` up to `e` are a text of the grammar
that stands for the chain. In every other case nothing is located. Behind `a` there is at
most one such text, with one end and one reading. -/
theorem located_iff_grammar (template name : Text) (start : Nat) :
    (∀ s a e chain, FirstOpensAt template name start s a →
      (locate? template name start = some ⟨⟨s, e⟩, chain⟩ ↔
        ∃ w, template.sliceBytes? a e = some w ∧ ChainText w chain)) ∧
    (locate? template name start = none ↔
      ¬ ∃ s a e w chain, FirstOpensAt template name start s a ∧
        template.sliceBytes? a e = some w ∧ ChainText w chain) ∧
    (∀ a e e' w w' chain chain', template.sliceBytes? a e = some w →
      template.sliceBytes? a e' = some w' → ChainText w chain → ChainText w' chain' →
      e = e' ∧ chain = chain') := by
  refine ⟨?_, locate?_eq_none_iff, ?_⟩
  · intro s a e chain hopens
    exact locate?_eq_some_iff_chainText hopens
  · intro a e e' w w' chain chain' hslice hslice' hw hw'
    exact hw.unique_of_sliceBytes? hslice hslice' hw'

/-- In `é={S {a|\|}[-1:]}x` the variable `s` stands from byte 3 on, with a replacement whose
target is a bar and a slice of the last character. -/
theorem located_iff_grammar_escaped :
    FirstOpensAt "é=\x7bS \x7ba|\\|\x7d[-1:]\x7dx".toList ['s'] 0 3 5 ∧
    locate? "é=\x7bS \x7ba|\\|\x7d[-1:]\x7dx".toList ['s'] 0
      = some ⟨⟨3, 18⟩, [.replacement ['a'] ['|'], .slice (some (-1)) none]⟩ := by
  have hopens : FirstOpensAt "é=\x7bS \x7ba|\\|\x7d[-1:]\x7dx".toList ['s'] 0 3 5 :=
    firstOpensAt_iff.2 ⟨[], _, "\x7bS".toList,
      ⟨"é=".toList, " \x7ba|\\|\x7d[-1:]\x7dx".toList⟩, rfl, rfl, by decide +kernel, rfl,
      .cons (by decide +kernel) (.cons (by decide +kernel) .nil), rfl, rfl⟩
  refine ⟨hopens, ((located_iff_grammar _ _ _).1 3 5 18 _ hopens).2
    ⟨" \x7ba|\\|\x7d[-1:]\x7d".toList, by decide +kernel, ?_⟩⟩
  have hsource : PlainText ['a'] ['a'] := .plain (by decide) (by decide) .nil
  have htarget : PlainText ['\\', '|'] ['|'] := .escaped '|' .nil
  have hstart : BoundText ['-', '1'] (some (-1)) :=
    .numeral (Text.int64?_eq_some_iff.1 (by decide +kernel))
  have hslice : BlockText "[-1:]".toList (.slice (some (-1)) none) :=
    .slice (by decide) (by decide) hstart .unbounded
  have hreplacement : BlockText "\x7ba|\\|\x7d".toList (.replacement ['a'] ['|']) :=
    .replacement hsource (by decide) htarget
  exact .blank (.block hreplacement (.block hslice .close))

end SearchLink.Template
