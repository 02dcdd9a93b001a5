import SearchLink.Proofs.Regex.ClassReading
import SearchLink.Proofs.Regex.WordMatch
import SearchLink.Proofs.Template.ShorthandClass
import SearchLink.Proofs.Template.TargetReading

/-!
# `SearchLink.Proofs.Template.LiteralPattern`: a literal replacement as one with a pattern

A replacement of a literal text can be written as a replacement with a pattern: with a backslash
in front of each mark of the source, and with each dollar sign of the target doubled. The two go
very different ways. The source passes `narrowShorthands`, the reader of patterns, the compiler and
the search, the target passes `expandTarget` and `expand`.

* `narrowShorthands_escapeMarks`: no backslash meets a letter, so nothing is written out.
* `parse?_escapeMarks`: the pattern is read as the word of the source's characters.
* `targetReading_doubleDollars`: the target is read as its own characters.
* `replaced_cutWord`: the cut of `segments_ofWord` at the occurrences, with a target in the place
  of each, is what `Text.replaceAll` gives.
* `replacement_eq_regexReplacement` is the whole, and says which sources are short enough for a
  pattern by the estimate of `Expr.footprint`.
-/

set_option autoImplicit false

namespace SearchLink.Template

open SearchLink.Regex (Expr ParseState Segment beginsWith cutWord isMeta parseLoop)
open SearchLink.Unicode (CodeSet)

/-! ### Literal sources and targets -/

/-- A text as a pattern for itself: a backslash stands in front of each mark. -/
def escapeMarks (s : Text) : Text := s.flatMap fun c => if isMeta c then ['\\', c] else [c]

/-- A text as a target for itself: each dollar sign is doubled. -/
def doubleDollars (t : Text) : Text := t.flatMap fun c => if c = '$' then ['$', '$'] else [c]

/-- The word of a text: one set for each character. -/
def literalWord (s : Text) : List CodeSet := s.map fun c => CodeSet.single c.toNat

theorem escapeMarks_mark {c : Char} (hc : isMeta c = true) (s : Text) :
    escapeMarks (c :: s) = '\\' :: c :: escapeMarks s := by
  rw [escapeMarks, List.flatMap_cons, if_pos hc]
  rfl

theorem escapeMarks_plain {c : Char} (hc : ¬ isMeta c = true) (s : Text) :
    escapeMarks (c :: s) = c :: escapeMarks s := by
  rw [escapeMarks, List.flatMap_cons, if_neg hc]
  rfl

/-- What holds of the marks of patterns, one by one, holds of all. -/
theorem of_isMeta {P : Char → Prop} [DecidablePred P]
    (h : ("\\.+*?()|[]\x7b\x7d^$#&-~".toList.all fun c => decide (P c)) = true) {c : Char}
    (hc : isMeta c = true) : P c :=
  of_decide_eq_true (List.all_eq_true.1 h c (List.contains_iff_mem.1 hc))

/-! ### The source -/

/-- Shorthands are made of a backslash and a letter, and no letter is a mark. -/
theorem narrowShorthands_escapeMarks (s : Text) :
    narrowShorthands false (escapeMarks s) = escapeMarks s := by
  induction s with
  | nil => rfl
  | cons c s ih =>
    by_cases hc : isMeta c = true
    · have hletter : shorthandClass? c = none ∧ c ≠ 'b' :=
        of_isMeta (P := fun c => shorthandClass? c = none ∧ c ≠ 'b') (by decide) hc
      rw [escapeMarks_mark hc]
      simp only [narrowShorthands, hletter.1, hletter.2, decide_false, Bool.false_and,
        Bool.false_eq_true, if_false, ih]
    · have hmarks : ['\\', '[', ']'].all isMeta = true := by decide
      have hcopy : c ∉ ['\\', '[', ']'] := fun hmem => hc (List.all_eq_true.1 hmarks c hmem)
      rw [escapeMarks_plain hc, narrowShorthands_cons hcopy, ih]

/-- A character as an item of a pattern. -/
def literalItem (c : Char) : Regex.Item := { expr := .set (CodeSet.single c.toNat) }

section
variable {st : ParseState} (hflags : st.flags = {})
include hflags

/-- A character that is no mark is read as itself. -/
theorem parseItem_plain {c : Char} (hc : ¬ isMeta c = true) (r : Text) :
    Regex.parseItem st c r = some (st.push (literalItem c) r) := by
  have hne : ∀ m, isMeta m = true → c ≠ m := fun m hm h => hc (h ▸ hm)
  simp only [Regex.parseItem, hne '(' rfl, hne ')' rfl, hne '|' rfl, hne '[' rfl, hne '?' rfl,
    hne '*' rfl, hne '+' rfl, hne '{' rfl, hne '\\' rfl, hne '.' rfl, hne '^' rfl, hne '$' rfl,
    if_false, hflags]
  rfl

/-- A mark with a backslash in front of it is read as itself. -/
theorem parseItem_escaped {c : Char} (hc : isMeta c = true) (r : Text) :
    Regex.parseItem st '\\' (c :: r) = some (st.push (literalItem c) r) := by
  have hplain : c.isDigit = false ∧ c ∉ ['x', 'u', 'U', 'p', 'P'] ∧ c.toLower ∉ ['d', 's', 'w'] :=
    of_isMeta (P := fun c => c.isDigit = false ∧ c ∉ ['x', 'u', 'U', 'p', 'P'] ∧
      c.toLower ∉ ['d', 's', 'w']) (by decide) hc
  simp only [List.mem_cons, List.not_mem_nil, or_false, not_or] at hplain
  have hread : Regex.readEscape {} (c :: r) = some (.literal c false, r) := by
    simp [Regex.readEscape, Regex.isEscapable, hplain, hc]
  show (Regex.readEscape st.flags (c :: r)).bind _ = _
  rw [hflags, hread]
  rfl

/-- Characters and escaped marks are read one by one. -/
theorem parseLoop_escapeMarks {s : Text} (hrest : st.rest = escapeMarks s) {fuel : Nat}
    (hfuel : s.length ≤ fuel) :
    parseLoop fuel st
      = some { st with items := (s.map literalItem).reverse ++ st.items, rest := [] } := by
  induction s generalizing st fuel with
  | nil =>
    rw [Regex.parseLoop_of_rest_eq_nil hrest]
    obtain ⟨flags, items, branches, frames, captures, names, rest⟩ := st
    obtain rfl : rest = [] := hrest
    rfl
  | cons c s ih =>
    obtain ⟨fuel, rfl⟩ := Nat.exists_eq_succ_of_ne_zero
      (Nat.ne_of_gt (Nat.lt_of_lt_of_le (Nat.succ_pos s.length) hfuel))
    -- With a backslash or without, one item is read, and the rest is escaped as well.
    have hstep : parseLoop (fuel + 1) st
        = parseLoop fuel (st.push (literalItem c) (escapeMarks s)) := by
      have hverbose : st.flags.verbose = false := by rw [hflags]
      by_cases hc : isMeta c = true
      · rw [escapeMarks_mark hc] at hrest
        rw [Regex.parseLoop_of_rest_eq_cons hverbose hrest, parseItem_escaped hflags hc]
        rfl
      · rw [escapeMarks_plain hc] at hrest
        rw [Regex.parseLoop_of_rest_eq_cons hverbose hrest, parseItem_plain hflags hc]
        rfl
    have hpush : (st.push (literalItem c) (escapeMarks s)).flags = {} := hflags
    rw [hstep, ih hpush rfl (Nat.le_of_succ_le_succ hfuel)]
    simp [ParseState.push]

end

/-- Every character takes up text. -/
theorem length_le_length_escapeMarks (s : Text) : s.length ≤ (escapeMarks s).length := by
  induction s with
  | nil => exact Nat.le_refl 0
  | cons c s ih =>
    by_cases hc : isMeta c = true
    · rw [escapeMarks_mark hc]
      simp only [List.length_cons]
      omega
    · rw [escapeMarks_plain hc]
      exact Nat.succ_le_succ ih

/-- Characters in a row do not nest. -/
theorem depth_literalItems (s : Text) : (Regex.sequenceItem (s.map literalItem)).depth ≤ 1 := by
  have hflat : Regex.maxItemDepth (s.map literalItem) = 0 := by
    rw [Regex.maxItemDepth, List.map_map]
    induction s with
    | nil => rfl
    | cons c s ih => exact ih
  simp only [Regex.sequenceItem, hflat]
  split <;> omega

/-- The pattern is read as the word of the source's characters. -/
theorem parse?_escapeMarks (s : Text) :
    Regex.parse? {} (escapeMarks s) = some (.word (literalWord s)) := by
  have hexprs : (s.map literalItem).map Regex.Item.expr = (literalWord s).map Expr.set := by
    rw [literalWord, List.map_map, List.map_map]
    rfl
  have hdepth : (Regex.sequenceItem (s.map literalItem)).depth ≤ Regex.maxDepth :=
    Nat.le_trans (depth_literalItems s) (by decide)
  rw [Regex.parse?, parseLoop_escapeMarks (s := s) rfl rfl (length_le_length_escapeMarks s)]
  simp [ParseState.close, Regex.choiceItem, Regex.maxItemDepth, hdepth]
  simp [Regex.sequenceItem, Expr.word, Expr.choice, hexprs]

/-! ### Its size -/

/-- Each byte of a source takes one state. -/
theorem footprint_literalWord {s : Text} (hs : s ≠ []) :
    (Expr.word (literalWord s)).footprint = 32 * Text.utf8Size s := by
  have hlength : ∀ c : Char, Regex.utf8Length c.toNat = c.utf8Size := fun c => by
    simp only [Regex.utf8Length, Char.utf8Size, UInt32.le_iff_toNat_le]
    rfl
  have hset : ∀ c : Char, (Expr.set (CodeSet.single c.toNat)).footprint = 32 * c.utf8Size := by
    intro c
    rw [← hlength]
    exact if_pos rfl
  induction s with
  | nil => exact absurd rfl hs
  | cons c s ih =>
    cases s with
    | nil => exact hset c
    | cons d s =>
      have hrest := ih (by simp)
      calc (Expr.word (literalWord (c :: d :: s))).footprint
          = (Expr.set (CodeSet.single c.toNat)).footprint
            + (Expr.word (literalWord (d :: s))).footprint := rfl
        _ = 32 * Text.utf8Size (c :: d :: s) := by
          rw [hset, hrest, ← Nat.mul_add]
          rfl

/-- The pattern compiles unless it is too large, and takes the word of the source's characters. -/
theorem compilePattern?_escapeMarks (s : Text) :
    compilePattern? (escapeMarks s) ['g']
      = if (Expr.word (literalWord s)).fits then some (Regex.ofWord (literalWord s)) else none := by
  show Regex.compile? {} (narrowShorthands false (escapeMarks s)) = _
  rw [narrowShorthands_escapeMarks, Regex.compile?, parse?_escapeMarks]
  rfl

/-! ### The target -/

/-- A target in which dollar signs are doubled is read as its own characters. -/
theorem targetReading_doubleDollars (groups : Nat) (named : Bool) (t : Text) :
    TargetReading groups named (doubleDollars t) (t.map .char) := by
  induction t with
  | nil => exact .nil
  | cons c t ih =>
    by_cases hc : c = '$'
    · have hdouble : doubleDollars (c :: t) = '$' :: '$' :: doubleDollars t := by
        rw [doubleDollars, List.flatMap_cons, if_pos hc]
        rfl
      rw [hdouble, List.map_cons, hc]
      exact .reference .dollar ih
    · have hcopy : doubleDollars (c :: t) = c :: doubleDollars t := by
        rw [doubleDollars, List.flatMap_cons, if_neg hc]
        rfl
      rw [hcopy, List.map_cons]
      exact .char hc ih

/-- Characters put in themselves. -/
theorem flatMap_inserted_char (re : Regex) (s : Segment) (t : Text) :
    (t.map TargetPart.char).flatMap (TargetPart.inserted re s) = t := by
  rw [List.flatMap_map]
  exact List.flatMap_singleton' t

/-! ### The cut -/

/-- A text begins with the word of a source where it begins with the source. -/
theorem stripStart?_eq (s t : Text) :
    Text.stripStart? s t
      = if beginsWith (literalWord s) t then some (t.drop s.length) else none := by
  induction s generalizing t with
  | nil => rfl
  | cons c s ih =>
    cases t with
    | nil => rfl
    | cons d t =>
      have hfirst : (CodeSet.single c.toNat).contains d = decide (d = c) :=
        CodeSet.contains_single d c
      rw [literalWord, List.map_cons, ← literalWord, beginsWith, hfirst, Text.stripStart?, ih]
      by_cases h : c = d
      · simp [h]
      · simp [h, Ne.symm h]

/-- A cut at the occurrences of a source, with a target in the place of each. -/
theorem replaced_cutWord {s : Text} (hs : s ≠ []) (target gap t : Text) :
    ((cutWord (literalWord s) gap t).1.flatMap fun segment => segment.gap ++ target) ++
        (cutWord (literalWord s) gap t).2
      = gap ++ Text.replaceAll s target t := by
  -- Both go through the text in the same steps: behind an occurrence, or one character further on.
  fun_induction cutWord (literalWord s) gap t with
  | case1 gap => simp [Text.replaceAll]
  | case2 gap c r hbegins segments tail hcut ih =>
    have hlength : (literalWord s).length = s.length := List.length_map _
    have hrest : (c :: r).drop s.length = r.drop ((literalWord s).length - 1) := by
      rw [hlength]
      obtain ⟨d, u, rfl⟩ := List.exists_cons_of_ne_nil hs
      rfl
    have hstrip : Text.stripStart? s (c :: r) = some (r.drop ((literalWord s).length - 1)) := by
      rw [stripStart?_eq, if_pos hbegins, hrest]
    have hshorter : (r.drop ((literalWord s).length - 1)).length < (c :: r).length := by
      simp only [List.length_drop, List.length_cons]
      omega
    have hreplace : Text.replaceAll s target (c :: r)
        = target ++ Text.replaceAll s target (r.drop ((literalWord s).length - 1)) := by
      rw [Text.replaceAll]
      simp only [hstrip, hshorter, dif_pos]
    rw [hcut] at ih
    rw [hreplace, List.flatMap_cons, List.append_assoc, List.append_assoc, ih, List.nil_append]
  | case3 gap c r hnot ih =>
    have hstrip : Text.stripStart? s (c :: r) = none := by
      rw [stripStart?_eq, if_neg hnot]
    rw [ih, Text.replaceAll]
    simp [hstrip]

/-- Where nothing is looked for, nothing is replaced. -/
theorem replaceAll_nil (target t : Text) : Text.replaceAll [] target t = t := by
  induction t with
  | nil => rw [Text.replaceAll]
  | cons c r ih =>
    rw [Text.replaceAll]
    simp [Text.stripStart?, ih]

/-! ### Replacements -/

/-- **Literal replacements.** A replacement of a literal text is the replacement of the pattern in
which its marks have backslashes, by the target in which dollar signs are doubled, as long as the
pattern compiles. By the estimate of `Expr.footprint`, which is this library's own, it does if, and
only if, the source has at most 327672 bytes. A replacement of the empty text changes nothing. -/
theorem replacement_eq_regexReplacement {source : Text} (hne : source ≠ []) (target : Text)
    (registry : Registry) (t : Text) :
    ((compilePattern? (escapeMarks source) ['g']).isSome = true →
      Modification.apply registry t (.replacement source target)
        = Modification.apply registry t
            (.regexReplacement (escapeMarks source) ['g'] (doubleDollars target))) ∧
    ((compilePattern? (escapeMarks source) ['g']).isSome = true ↔
      32 * Text.utf8Size source + 256 ≤ Regex.maxFootprint) ∧
    Modification.apply registry t (.replacement [] target) = t := by
  have hcompile := compilePattern?_escapeMarks source
  refine ⟨fun hsome => ?_, ?_, replaceAll_nil target t⟩
  · have hre : compilePattern? (escapeMarks source) ['g']
        = some (Regex.ofWord (literalWord source)) := by
      split at hcompile
      · exact hcompile
      · rw [hcompile] at hsome
        simp at hsome
    have hword : literalWord source ≠ [] := by simpa [literalWord] using hne
    symm
    calc Modification.apply registry t
          (.regexReplacement (escapeMarks source) ['g'] (doubleDollars target))
        = (((Regex.ofWord (literalWord source)).segments t).1.flatMap fun s =>
              s.gap ++ (target.map TargetPart.char).flatMap (TargetPart.inserted _ s)) ++
            ((Regex.ofWord (literalWord source)).segments t).2 :=
          apply_regexReplacement hre (targetReading_doubleDollars _ _ target) registry t
      _ = ((cutWord (literalWord source) [] t).1.flatMap fun s => s.gap ++ target) ++
            (cutWord (literalWord source) [] t).2 := by
          simp only [flatMap_inserted_char, Regex.segments_ofWord hword]
      _ = Text.replaceAll source target t := replaced_cutWord hne target [] t
  · have hfits : (Expr.word (literalWord source)).fits = true ↔
        32 * Text.utf8Size source + 256 ≤ Regex.maxFootprint := by
      rw [Expr.fits, decide_eq_true_iff, footprint_literalWord hne]
    rw [← hfits, hcompile]
    split <;> simp [*]

/-- Marks, a backslash in front of a letter and a dollar sign in front of a digit are not read as
anything else, and an occurrence that overlaps the one before is passed over. -/
theorem replacement_eq_regexReplacement_marks :
    escapeMarks "\\d.\\d".toList = "\\\\d\\.\\\\d".toList ∧
      doubleDollars "$1&".toList = "$$1&".toList ∧
      Modification.apply Registry.standard "\\d.\\d.\\d 1.1".toList
          (.regexReplacement (escapeMarks "\\d.\\d".toList) ['g'] (doubleDollars "$1&".toList))
        = "$1&.\\d 1.1".toList := by
  have hne : "\\d.\\d".toList ≠ [] := by decide
  have h := replacement_eq_regexReplacement hne "$1&".toList Registry.standard
    "\\d.\\d.\\d 1.1".toList
  have hsize : 32 * Text.utf8Size "\\d.\\d".toList + 256 ≤ Regex.maxFootprint := by decide
  refine ⟨by decide, by decide, ?_⟩
  rw [← h.1 (h.2.1.2 hsize)]
  decide +kernel

end SearchLink.Template
