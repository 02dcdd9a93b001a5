import SearchLink.Proofs.Regex.ClassReading
import SearchLink.Proofs.Template.ShorthandClass

/-!
# `SearchLink.Proofs.Template.BracketClass`: shorthands among the members of a class

Inside of brackets a shorthand is written out as a class of its own, without regard to what stands
next to it. Behind a member, or with a hyphen behind it, such a class is read as one more member,
and the hyphen stands for itself (`reads_items`). With a hyphen in front of it, its opening bracket
is read as the end of a range. That range falls if it begins at a lower-case letter, and the
pattern is malformed. From a digit or a capital on it rises, and the class ends with the shorthand.

`bracketClass` says what a match with a class of these items keeps, as long as no shorthand is
joined to a character in front of it, and that nothing is changed if the first one that is follows
a lower-case letter. `bracketClass_fails` has a text for a letter of either case.
-/

set_option autoImplicit false

namespace SearchLink.Template

open SearchLink.Regex (ClassPart ClassState ClassUnion Reads Segment Small keepWhere)
open SearchLink.Unicode (CodeSet)

/-! ### Items of a class -/

/-- A letter or digit of ASCII. -/
abbrev Alphanum := { c : Char // c.isAlphanum = true }

/-- An item of a class in brackets. -/
inductive ClassItem where
  /-- A letter or digit. -/
  | char (c : Alphanum)
  /-- A range of letters or digits. -/
  | range (first last : Alphanum) (rises : first.1.toNat ≤ last.1.toNat)
  /-- A shorthand, with the characters to which hyphens join it. -/
  | shorthand (front : Option Alphanum) (s : Shorthand) (behind : Option Alphanum)

namespace Shorthand

/-- The ranges of the class that a shorthand is written out as. -/
def ranges (s : Shorthand) : Text := if s.word then "0-9A-Za-z_".toList else "0-9".toList

/-- A shorthand written out as a class. -/
def written (s : Shorthand) : Text :=
  '[' :: ((if s.negated then ['^'] else []) ++ s.ranges ++ [']'])

/-- What the reader makes of the written class. A union of several ranges is one level deeper. -/
def part (s : Shorthand) : ClassPart := ⟨s.set false, if s.word then 2 else 1⟩

end Shorthand

namespace ClassItem

/-- The text of an item, for a way to write shorthands. -/
def spell (write : Shorthand → Text) : ClassItem → Text
  | char c => [c.1]
  | range first last _ => [first.1, '-', last.1]
  | shorthand front s behind =>
    (front.elim [] fun c => [c.1, '-']) ++ write s ++ behind.elim [] fun c => ['-', c.1]

/-- The character to which a hyphen in front joins a shorthand. -/
def front : ClassItem → Option Alphanum
  | shorthand front _ _ => front
  | _ => none

/-- Whether a character belongs to an item. A hyphen that joins is a member. -/
def has (c : Char) : ClassItem → Bool
  | char d => c = d.1
  | range first last _ => first.1.toNat ≤ c.toNat && c.toNat ≤ last.1.toNat
  | shorthand front s behind =>
    s.has c || ((front.isSome || behind.isSome) && c = '-') || front.any (c = ·.1) ||
      behind.any (c = ·.1)

/-- The members that an item names. -/
def parts : ClassItem → List ClassPart
  | char c => [.ofChar c]
  | range first last _ => [.ofRange first last]
  | shorthand front s behind =>
    (front.elim [] fun c => [.ofChar c, .ofChar '-']) ++
      s.part :: behind.elim [] fun c => [.ofChar '-', .ofChar c]

end ClassItem

/-- A class of items, as it stands in a template. -/
def classSource (items : List ClassItem) : Text :=
  '[' :: (items.flatMap (ClassItem.spell Shorthand.source) ++ [']'])

/-! ### Members -/

theorem Alphanum.toNat_le (c : Alphanum) : c.1.toNat ≤ 122 := by
  have := Text.isAlphanum_iff_toNat.1 c.2
  omega

/-- Letters and digits are none of the marks of a pattern. -/
theorem Alphanum.notMem (c : Alphanum) {marks : Text}
    (hmarks : marks.all fun m => !m.isAlphanum) : c.1 ∉ marks := by
  intro hmem
  have := List.all_eq_true.1 hmarks c.1 hmem
  simp [c.2] at this

theorem Alphanum.ne_hyphen (c : Alphanum) : c.1 ≠ '-' := by
  have hmem : c.1 ∉ ['-'] := c.notMem (by decide)
  exact fun h => hmem (by simp [h])

/-- The parts of an item have the characters that belong to it. -/
theorem any_parts (item : ClassItem) (c : Char) :
    (item.parts.any fun part => part.chars.contains c) = item.has c := by
  have hchar : ∀ d, (ClassPart.ofChar d).chars.contains c = decide (c = d) :=
    CodeSet.contains_single c
  have hset : ∀ s : Shorthand, s.part.chars.contains c = s.has c := by
    intro s
    simp [Shorthand.part, Shorthand.contains_set, Shorthand.has]
  cases item with
  | char d => simp [ClassItem.parts, ClassItem.has, hchar]
  | range first last _ =>
    simp [ClassItem.parts, ClassItem.has, ClassPart.ofRange, CodeSet.contains, CodeSet.mem]
  | shorthand front s behind =>
    rw [Bool.eq_iff_iff]
    cases front <;> cases behind <;> simp [ClassItem.parts, ClassItem.has, hchar, hset] <;> grind

/-- The parts of an item are small. -/
theorem small_parts (item : ClassItem) : ∀ part ∈ item.parts, Small part.chars part.depth := by
  have hrange : ∀ {lo hi : Nat}, lo ≤ hi → lo ≤ 122 → Small [(lo, hi)] 0 := by
    intro lo hi hle hlow
    exact ⟨CodeSet.isNormal_cons.2 ⟨hle, by simp, .nil⟩, by simp; omega, by omega⟩
  have hchar : ∀ c : Alphanum, Small (ClassPart.ofChar c).chars (ClassPart.ofChar c).depth :=
    fun c => hrange (Nat.le_refl _) c.toNat_le
  have hhyphen : Small (ClassPart.ofChar '-').chars (ClassPart.ofChar '-').depth :=
    hrange (Nat.le_refl _) (by decide)
  -- There are four shorthands, and their sets are small enough to look at.
  have hpart : ∀ s : Shorthand, Small s.part.chars s.part.depth := by
    rintro ⟨word, negated⟩
    refine ⟨⟨?_, ?_⟩, ?_, ?_⟩ <;> revert word negated <;> decide +kernel
  cases item with
  | char c => exact List.forall_mem_singleton.2 (hchar c)
  | range first last rises => exact List.forall_mem_singleton.2 (hrange rises first.toNat_le)
  | shorthand front s behind =>
    cases front <;> cases behind <;> simp [ClassItem.parts, hchar, hhyphen, hpart]

/-! ### Reading -/

/-- Inside of brackets shorthands are written out, and nothing else is changed. -/
theorem narrowShorthands_spell (item : ClassItem) (r : Text) :
    narrowShorthands true (item.spell Shorthand.source ++ r)
      = item.spell Shorthand.written ++ narrowShorthands true r := by
  have hchar : ∀ (c : Alphanum) (r : Text),
      narrowShorthands true (c.1 :: r) = c.1 :: narrowShorthands true r :=
    fun c r => narrowShorthands_cons (c.notMem (by decide)) true r
  have hhyphen : ∀ r, narrowShorthands true ('-' :: r) = '-' :: narrowShorthands true r :=
    fun r => narrowShorthands_cons (by decide) true r
  have hwritten : ∀ (s : Shorthand) (r : Text),
      narrowShorthands true (s.source ++ r) = s.written ++ narrowShorthands true r := by
    rintro ⟨word, negated⟩ r
    cases word <;> cases negated <;> rfl
  cases item with
  | char c => exact hchar c r
  | range first last _ =>
    simp only [ClassItem.spell, List.cons_append, List.nil_append, hchar, hhyphen]
  | shorthand front s behind =>
    cases front <;> cases behind <;>
      simp only [ClassItem.spell, Option.elim_none, Option.elim_some, List.cons_append,
        List.nil_append, List.append_nil, List.append_assoc, hchar, hhyphen, hwritten]

/-- A class that is written out is read as one member. -/
theorem reads_written (s : Shorthand) (u : ClassUnion) (r : Text) :
    Reads ⟨u, [.opened {} false], s.written ++ r⟩ ⟨u.push s.part, [.opened {} false], r⟩ := by
  obtain ⟨word, negated⟩ := s
  have hopen : Reads ⟨u, [.opened {} false], (Shorthand.mk word negated).written ++ r⟩
      ⟨{}, [.opened u negated, .opened {} false],
        (Shorthand.mk word negated).ranges ++ ']' :: r⟩ := by
    rw [Shorthand.written, List.cons_append, List.append_assoc, List.append_assoc]
    cases word <;> exact Regex.reads_open (by decide) negated
  -- The ranges are read one by one, and the bracket behind them makes a member of them.
  cases word with
  | false =>
    exact (hopen.trans (Regex.reads_range (by decide) (by decide) (by decide))).trans
      Regex.reads_close
  | true =>
    exact ((((hopen.trans (Regex.reads_range (by decide) (by decide) (by decide))).trans
      (Regex.reads_range (by decide) (by decide) (by decide))).trans
      (Regex.reads_range (by decide) (by decide) (by decide))).trans
      (Regex.reads_char (by decide) (by decide))).trans Regex.reads_close

/-- An item begins with a character that has no meaning of its own at the start of a class. -/
theorem exists_spell_eq_cons (item : ClassItem) :
    ∃ c r, item.spell Shorthand.written = c :: r ∧ c ∉ ['^', '-', ']'] := by
  cases item with
  | char c => exact ⟨c.1, [], rfl, c.notMem (by decide)⟩
  | range first last _ => exact ⟨first.1, _, rfl, first.notMem (by decide)⟩
  | shorthand front s behind =>
    cases front with
    | none => exact ⟨'[', _, rfl, by decide⟩
    | some c => exact ⟨c.1, _, rfl, c.notMem (by decide)⟩

/-- An item in which nothing is joined in front of a shorthand is read as its parts, as long as no
hyphen follows. -/
theorem reads_item {item : ClassItem} (hfront : item.front = none) (u : ClassUnion) {d : Char}
    (hd : d ≠ '-') (r : Text) :
    Reads ⟨u, [.opened {} false], item.spell Shorthand.written ++ d :: r⟩
      ⟨item.parts.foldl ClassUnion.push u, [.opened {} false], d :: r⟩ := by
  cases item with
  | char c => exact Regex.reads_char (c.notMem (by decide)) hd
  | range first last rises =>
    exact Regex.reads_range (first.notMem (by decide)) (last.notMem (by decide)) rises
  | shorthand front s behind =>
    obtain rfl : front = none := hfront
    cases behind with
    | none =>
      simp only [ClassItem.spell, Option.elim_none, List.nil_append, List.append_nil]
      exact reads_written s u (d :: r)
    | some c =>
      -- The hyphen behind the class is a member, and the character after it is one, too.
      have hspell : (ClassItem.shorthand none s (some c)).spell Shorthand.written ++ d :: r
          = s.written ++ '-' :: c.1 :: d :: r := by
        simp [ClassItem.spell]
      rw [hspell]
      exact ((reads_written s u _).trans (Regex.reads_char (by decide) c.ne_hyphen)).trans
        (Regex.reads_char (c.notMem (by decide)) hd)

/-- So are items in a row, since each one begins with something else than a hyphen. -/
theorem reads_items {items : List ClassItem} (hfront : ∀ item ∈ items, item.front = none)
    (u : ClassUnion) {d : Char} (hd : d ≠ '-') (r : Text) :
    Reads ⟨u, [.opened {} false], items.flatMap (ClassItem.spell Shorthand.written) ++ d :: r⟩
      ⟨(items.flatMap ClassItem.parts).foldl ClassUnion.push u, [.opened {} false], d :: r⟩ := by
  induction items generalizing u with
  | nil => exact .refl _
  | cons item items ih =>
    obtain ⟨hitem, hitems⟩ := List.forall_mem_cons.1 hfront
    rw [List.flatMap_cons, List.flatMap_cons, List.foldl_append, List.append_assoc]
    refine Reads.trans ?_ (ih hitems (item.parts.foldl ClassUnion.push u))
    -- Behind the item stands what follows the class, or the first character of the next item.
    cases items with
    | nil => exact reads_item hitem u hd r
    | cons next more =>
      obtain ⟨c, w, hnext, hc⟩ := exists_spell_eq_cons next
      rw [List.flatMap_cons, hnext]
      exact reads_item hitem u (fun h => hc (by simp [h])) _

/-- A class of items is written out item by item. -/
theorem narrowShorthands_classSource (items : List ClassItem) :
    narrowShorthands false (classSource items)
      = '[' :: (items.flatMap (ClassItem.spell Shorthand.written) ++ [']']) := by
  have hitems : ∀ r, narrowShorthands true (items.flatMap (ClassItem.spell Shorthand.source) ++ r)
      = items.flatMap (ClassItem.spell Shorthand.written) ++ narrowShorthands true r := by
    intro r
    induction items with
    | nil => rfl
    | cons item items ih =>
      rw [List.flatMap_cons, List.append_assoc, narrowShorthands_spell, ih, List.flatMap_cons,
        List.append_assoc]
  exact congrArg ('[' :: ·) (hitems [']'])

/-! ### A class as a pattern -/

/-- A class in which nothing is joined in front of a shorthand compiles, and takes one character of
its items. -/
theorem compilePattern?_classSource {items : List ClassItem} (hne : items ≠ [])
    (hfront : ∀ item ∈ items, item.front = none) :
    ∃ S : CodeSet, compilePattern? (classSource items) ['g'] = some (Regex.ofSet S) ∧
      ∀ c, S.contains c = items.any fun item => item.has c := by
  let u := (items.flatMap ClassItem.parts).foldl ClassUnion.push {}
  have hsmall : Small u.chars u.depth := by
    refine Small.foldl (fun part hpart => ?_) ⟨.nil, by simp, Nat.zero_le _⟩
    obtain ⟨item, -, hmem⟩ := List.mem_flatMap.1 hpart
    exact small_parts item part hmem
  refine ⟨u.chars, ?_, fun c => ?_⟩
  · obtain ⟨item, more, rfl⟩ := List.exists_cons_of_ne_nil hne
    obtain ⟨c, w, hspell, hc⟩ := exists_spell_eq_cons item
    have hreads := reads_items hfront {} (d := ']') (by decide) []
    rw [compilePattern?, narrowShorthands_classSource]
    simp only [List.flatMap_cons, hspell, List.cons_append] at hreads ⊢
    exact Regex.compile?_of_reads hc hreads hsmall
  · simp only [u, Regex.contains_foldl_push, List.any_flatMap, any_parts]
    rfl

/-- A lower-case letter that is joined to a shorthand makes a range that falls, up to the bracket
with which the shorthand is written. -/
theorem compilePattern?_joined {items more : List ClassItem}
    (hfront : ∀ item ∈ items, item.front = none) {x : Alphanum} (hx : x.1.isLower = true)
    (s : Shorthand) (behind : Option Alphanum) :
    compilePattern? (classSource (items ++ .shorthand (some x) s behind :: more)) ['g'] = none := by
  obtain ⟨w, hw⟩ : ∃ w, (items ++ .shorthand (some x) s behind :: more).flatMap
      (ClassItem.spell Shorthand.written) ++ [']']
      = items.flatMap (ClassItem.spell Shorthand.written) ++ x.1 :: '-' :: '[' :: w := by
    simp [ClassItem.spell, Shorthand.written]
  -- The first item begins the class, whether something stands in front of the letter or not.
  obtain ⟨c, r, hbody, hc⟩ : ∃ c r, items.flatMap (ClassItem.spell Shorthand.written) ++
      x.1 :: '-' :: '[' :: w = c :: r ∧ c ∉ ['^', '-', ']'] := by
    cases items with
    | nil => exact ⟨x.1, _, rfl, x.notMem (by decide)⟩
    | cons item items =>
      obtain ⟨c, r, hspell, hc⟩ := exists_spell_eq_cons item
      exact ⟨c, _, by rw [List.flatMap_cons, hspell]; rfl, hc⟩
  have hreads := reads_items hfront {} x.ne_hyphen ('-' :: '[' :: w)
  have hfalls : ¬ x.1.toNat ≤ '['.toNat := by
    have hlower : 97 ≤ x.1.toNat := (Text.isLower_iff_toNat.1 hx).1
    have hbracket : '['.toNat = 91 := rfl
    omega
  rw [compilePattern?, narrowShorthands_classSource, hw, hbody]
  rw [hbody] at hreads
  refine Regex.compile?_eq_none_of_reads hc hreads ?_
  rw [Regex.classStep_range (x.notMem (by decide)) (by decide), if_neg hfalls]

/-! ### Matches -/

/-- **Shorthands among the members of a class.** Take a class of letters, digits, ranges and
shorthands, of which some may be joined by a hyphen to a letter or digit. If none is joined to one
in front of it, a match with the class takes one character of its items after the other; so it
keeps the characters that belong to them, and the whole text if there are none. If some are, and
the first of these is joined to a lower-case letter, every text is left as it is. -/
theorem bracketClass {items : List ClassItem} (hne : items ≠ []) (registry : Registry) (t : Text) :
    ((∀ item ∈ items, item.front = none) →
      (∃ re, compilePattern? (classSource items) ['g'] = some re ∧
        (re.segments t).1.map Segment.whole
          = (t.filter fun c => items.any fun item => item.has c).map fun c => [c]) ∧
      Modification.apply registry t (.regexMatch (classSource items) ['g'])
        = keepWhere (fun c => items.any fun item => item.has c) t) ∧
    ∀ plain x s behind more, items = plain ++ .shorthand (some x) s behind :: more →
      (∀ item ∈ plain, item.front = none) → x.1.isLower = true →
      Modification.apply registry t (.regexMatch (classSource items) ['g']) = t := by
  constructor
  · intro hfront
    obtain ⟨S, hcompile, hS⟩ := compilePattern?_classSource hne hfront
    have hfun : S.contains = fun c => items.any fun item => item.has c := funext hS
    refine ⟨⟨Regex.ofSet S, hcompile, ?_⟩, ?_⟩
    · rw [Regex.wholes_segments_ofSet, hfun]
    · simp only [Modification.apply, matchPattern, hcompile, Regex.keepMatches_ofSet, hfun]
  · rintro plain x s behind more rfl hplain hx
    simp only [Modification.apply, matchPattern, compilePattern?_joined hplain hx]

/-- Both halves: a class in which shorthands stand alone and with a letter behind them, and one in
which the hyphen stands in front. -/
theorem bracketClass_items :
    Modification.apply Registry.standard "x3-é_B".toList (.regexMatch "[A-C\\d-y]".toList ['g'])
        = "3-B".toList ∧
      Modification.apply Registry.standard "x3-é_B".toList (.regexMatch "[\\Wy-\\d]".toList ['g'])
        = "x3-é_B".toList := by
  let kept : List ClassItem :=
    [.range ⟨'A', by decide⟩ ⟨'C', by decide⟩ (by decide),
      .shorthand none ⟨false, false⟩ (some ⟨'y', by decide⟩)]
  let plain : List ClassItem := [.shorthand none ⟨true, true⟩ none]
  let y : Alphanum := ⟨'y', by decide⟩
  let refused : List ClassItem := plain ++ [.shorthand (some y) ⟨false, false⟩ none]
  have hne : kept ≠ [] := by simp [kept]
  have hne' : refused ≠ [] := by simp [refused]
  have hkept := (bracketClass hne Registry.standard "x3-é_B".toList).1
    (by simp [kept, ClassItem.front])
  have hrefused := (bracketClass hne' Registry.standard "x3-é_B".toList).2 plain y
    ⟨false, false⟩ none [] rfl (by simp [plain, ClassItem.front]) (by decide)
  exact ⟨hkept.2.trans (by decide), hrefused⟩

/-- With the hyphen in front a letter, the digits and the hyphen are not kept. From the small letter
on the range falls, and nothing is matched. From the capital on the class ends with the shorthand,
and its closing bracket is matched as a character. -/
theorem bracketClass_fails :
    let item (c : Char) (h : c.isAlphanum = true) : ClassItem :=
      .shorthand (some ⟨c, h⟩) ⟨false, false⟩ none
    (classSource [item 'a' (by decide)] = "[a-\\d]".toList ∧
      Modification.apply Registry.standard "a-1b".toList (.regexMatch "[a-\\d]".toList ['g'])
        = "a-1b".toList ∧
      keepWhere (item 'a' (by decide)).has "a-1b".toList = "a-1".toList) ∧
    classSource [item 'A' (by decide)] = "[A-\\d]".toList ∧
      Modification.apply Registry.standard "A1]".toList (.regexMatch "[A-\\d]".toList ['g'])
        = "1]".toList ∧
      keepWhere (item 'A' (by decide)).has "A1]".toList = "A1".toList := by
  decide +kernel

end SearchLink.Template
