import Mathlib.Data.List.Basic
import SearchLink.Proofs.Regex.SetMatch
import SearchLink.Proofs.Unicode.CodeSet
import SearchLink.Regex.Parser

/-!
# `SearchLink.Proofs.Regex.ClassReading`: reading a class in brackets, member by member

`classLoop` reads a class step by step. This module says what its steps do under plain flags, and
what follows for a pattern that is a class as a whole.

* `Reads` relates two states between which steps take up text. Since every step does, the fuel of
  `classLoop` never runs out (`Reads.classLoop`).
* `reads_char` and `reads_range` are the steps of a character and of a range.
* `classStep_range_eq_none`: a range that falls is an error, and so is the class around it.
* `Small` is the invariant of the union that is collected: ranges in normal form that begin among
  the characters of ASCII, and little depth. A class with such a union compiles
  (`compile?_of_readClass`).
-/

set_option autoImplicit false

namespace SearchLink.Regex

open SearchLink.Unicode (CodeSet)
open SearchLink.Unicode.CodeSet (IsNormal Proper)

/-! ### Steps -/

/-- Steps of the reader lead from one state to another, and each takes up text. -/
def Reads (s s' : ClassState) : Prop :=
  ∃ n, s'.rest.length + n ≤ s.rest.length ∧
    ∀ fuel, classLoop {} (fuel + n) s = classLoop {} fuel s'

theorem Reads.refl (s : ClassState) : Reads s s := ⟨0, Nat.le_refl _, fun _ => rfl⟩

theorem Reads.trans {s s' s'' : ClassState} (h : Reads s s') (h' : Reads s' s'') : Reads s s'' := by
  obtain ⟨n, hn, hsteps⟩ := h
  obtain ⟨m, hm, hsteps'⟩ := h'
  refine ⟨m + n, by omega, fun fuel => ?_⟩
  rw [← Nat.add_assoc, hsteps, hsteps']

/-- One step that goes on. -/
theorem Reads.of_classStep {s s' : ClassState} (h : classStep {} s = some (.goOn s'))
    (hshort : s'.rest.length < s.rest.length) : Reads s s' := by
  refine ⟨1, hshort, fun fuel => ?_⟩
  rw [classLoop, h]

/-- There is fuel for what follows. -/
theorem Reads.classLoop {s s' : ClassState} (h : Reads s s') :
    ∃ fuel, classLoop {} (s.rest.length + 1) s = classLoop {} (fuel + 1) s' := by
  obtain ⟨n, hn, hsteps⟩ := h
  refine ⟨s.rest.length - n, ?_⟩
  rw [← hsteps]
  congr 1
  omega

section
variable {u : ClassUnion} {frames : List ClassFrame} {r : Text}

/-- A character that does not begin an operation or a bracket begins a range. -/
theorem classStep_plain {c d : Char} (hc : c ∉ ['[', ']', '&', '~'])
    (hd : c = '-' → d ≠ '-') :
    classStep {} ⟨u, frames, c :: d :: r⟩
      = (readRange {} (c :: d :: r)).map fun part =>
          .goOn ⟨u.push ⟨part.1, 0⟩, frames, part.2⟩ := by
  simp only [List.mem_cons, List.not_mem_nil, or_false, not_or] at hc
  obtain ⟨hopen, hclose, hand, htilde⟩ := hc
  have hhyphen : ¬ (c = '-' ∧ d = '-') := fun h => hd h.1 h.2
  simp [classStep, Flags.skip, hopen, hclose, hand, htilde, hhyphen]

/-- The part that one character makes. -/
def ClassPart.ofChar (c : Char) : ClassPart := ⟨CodeSet.single c.toNat, 0⟩

/-- The part that a range between two characters makes. -/
def ClassPart.ofRange (a b : Char) : ClassPart := ⟨[(a.toNat, b.toNat)], 0⟩

/-- A character that no hyphen follows is a member. -/
theorem reads_char {c d : Char} (hc : c ∉ ['[', ']', '&', '~', '\\']) (hd : d ≠ '-') :
    Reads ⟨u, frames, c :: d :: r⟩ ⟨u.push (.ofChar c), frames, d :: r⟩ := by
  have hread : readRange {} (c :: d :: r) = some (CodeSet.single c.toNat, d :: r) := by
    have hescape : c ≠ '\\' := by rintro rfl; simp at hc
    simp [readRange, readMember, hescape, Flags.skip, hd, Flags.member?]
  refine .of_classStep ?_ (Nat.lt_succ_self _)
  rw [classStep_plain (fun h => hc (by simp_all)) fun _ => hd, hread]
  rfl

/-- Two characters with a hyphen between them are read as the ends of a range. -/
theorem classStep_range {a b : Char} (ha : a ∉ ['[', ']', '&', '~', '\\', '-'])
    (hb : b ∉ [']', '-', '\\']) :
    classStep {} ⟨u, frames, a :: '-' :: b :: r⟩
      = if a.toNat ≤ b.toNat then
          some (.goOn ⟨u.push (.ofRange a b), frames, r⟩)
        else none := by
  have hread : readRange {} (a :: '-' :: b :: r)
      = if a.toNat ≤ b.toNat then some ([(a.toNat, b.toNat)], r) else none := by
    have hescape : a ≠ '\\' := by rintro rfl; simp at ha
    simp only [List.mem_cons, List.not_mem_nil, or_false, not_or] at hb
    obtain ⟨hclose, hhyphen, hescape'⟩ := hb
    simp [readRange, readMember, hescape, hescape', Flags.skip, peekBehind, hclose, hhyphen,
      advance?, Flags.member?]
  rw [classStep_plain (fun h => ha (by simp_all)) (by rintro rfl; simp at ha), hread]
  split <;> rfl

/-- A range that rises is a member. -/
theorem reads_range {a b : Char} (ha : a ∉ ['[', ']', '&', '~', '\\', '-'])
    (hb : b ∉ [']', '-', '\\']) (hab : a.toNat ≤ b.toNat) :
    Reads ⟨u, frames, a :: '-' :: b :: r⟩ ⟨u.push (.ofRange a b), frames, r⟩ := by
  refine .of_classStep ?_ (by simp only [List.length_cons]; omega)
  rw [classStep_range ha hb, if_pos hab]

/-- A bracket opens a class inside of the class, unless the name of an ASCII class follows. The
class may be complemented. -/
theorem reads_open {c : Char} (hc : c ∉ ['^', '-', ']', ':']) (negated : Bool) :
    Reads ⟨u, frames, '[' :: ((if negated then ['^'] else []) ++ c :: r)⟩
      ⟨{}, .opened u negated :: frames, c :: r⟩ := by
  simp only [List.mem_cons, List.not_mem_nil, or_false, not_or] at hc
  obtain ⟨hcaret, hhyphen, hclose, hcolon⟩ := hc
  refine .of_classStep ?_ ?_
  · cases negated <;>
      simp [classStep, Flags.skip, readAsciiClass, Text.stripStart?, openBracket, advance?,
        readHyphens, hcaret, hhyphen, hclose, Ne.symm hcolon]
  · simp only [List.length_cons, List.length_append]
    omega

/-- A bracket that closes an inner class makes it a member of the class around it. -/
theorem reads_close {parent : ClassUnion} {negated : Bool} {frame : ClassFrame} :
    Reads ⟨u, .opened parent negated :: frame :: frames, ']' :: r⟩
      ⟨parent.push ⟨if negated then u.chars.complement else u.chars, u.toPart.depth + 1⟩,
        frame :: frames, r⟩ := by
  refine .of_classStep ?_ (Nat.lt_succ_self _)
  cases negated <;> rfl

end

/-! ### The union of the members -/

/-- What is collected of a class over ASCII and its complements: few ranges, and little depth. -/
structure Small (chars : CodeSet) (depth : Nat) : Prop where
  /-- The ranges rise with gaps between them. -/
  normal : IsNormal chars
  /-- Every range begins among the characters of ASCII. -/
  low : ∀ r ∈ chars, r.1 ≤ 127
  /-- Brackets, unions and operations do not nest deeply. -/
  shallow : depth ≤ 2

/-- A small part may be added. -/
theorem Small.push {u : ClassUnion} (hu : Small u.chars u.depth) {part : ClassPart}
    (hpart : Small part.chars part.depth) : Small (u.push part).chars (u.push part).depth where
  normal := hu.normal.union hpart.normal.proper
  low := CodeSet.forall_union (P := fun r => r.1 ≤ 127)
    (fun h _ => Nat.le_trans (Nat.min_le_left _ _) h) hu.low hpart.low
  shallow := Nat.max_le.2 ⟨hu.shallow, hpart.shallow⟩

/-- A union of small parts is small. -/
theorem Small.foldl {parts : List ClassPart} (hparts : ∀ part ∈ parts, Small part.chars part.depth)
    {u : ClassUnion} (hu : Small u.chars u.depth) :
    Small (parts.foldl ClassUnion.push u).chars (parts.foldl ClassUnion.push u).depth := by
  induction parts generalizing u with
  | nil => exact hu
  | cons part parts ih =>
    obtain ⟨hpart, hparts'⟩ := List.forall_mem_cons.1 hparts
    exact ih hparts' (hu.push hpart)

/-- The union has the members of its parts. -/
theorem contains_foldl_push (parts : List ClassPart) (u : ClassUnion) (c : Char) :
    (parts.foldl ClassUnion.push u).chars.contains c
      = (u.chars.contains c || parts.any fun part => part.chars.contains c) := by
  induction parts generalizing u with
  | nil => simp
  | cons part parts ih =>
    rw [List.foldl_cons, ih, List.any_cons, ← Bool.or_assoc]
    exact congrArg (· || _) (CodeSet.mem_union _ _ _)

/-! ### How large a set is -/

theorem byteRanges_le (lo hi : Nat) : byteRanges lo hi ≤ 10 := by
  have h₁ : utf8Length 0 = 1 := rfl
  have h₂ : utf8Length 0x80 = 2 := rfl
  have h₃ : utf8Length 0x800 = 3 := rfl
  have h₄ : utf8Length 0x10000 = 4 := rfl
  simp only [byteRanges, List.map_cons, List.map_nil, List.foldl_cons, List.foldl_nil, h₁, h₂, h₃,
    h₄]
  repeat' split
  all_goals omega

/-- Each range counts at most ten ranges of bytes. -/
theorem rangesFootprint_le (s : CodeSet) : rangesFootprint s ≤ 64 + 400 * s.length := by
  have hsum : ∀ (s : CodeSet) (total : Nat),
      (s.map fun r => byteRanges r.1 r.2).foldl (· + ·) total ≤ total + 10 * s.length := by
    intro s
    induction s with
    | nil => exact fun total => Nat.le_refl _
    | cons r s ih =>
      intro total
      have hrest := ih (total + byteRanges r.1 r.2)
      have hfirst := byteRanges_le r.1 r.2
      simp only [List.map_cons, List.foldl_cons, List.length_cons]
      omega
  have := hsum s 0
  unfold rangesFootprint
  split <;> omega

/-- The footprint of a set is bounded by the number of its ranges. -/
theorem setFootprint_le (s : CodeSet) : setFootprint s ≤ 64 + 400 * (s.length + 1) := by
  have hranges := rangesFootprint_le s
  unfold setFootprint
  split
  · -- A set of one character is counted by its bytes.
    rename_i lo hi
    have hlength : utf8Length lo ≤ 4 := by
      unfold utf8Length
      repeat' split
      all_goals omega
    rw [List.length_singleton] at hranges ⊢
    split <;> omega
  · omega

/-- A small set is within bounds. -/
theorem Small.fits {chars : CodeSet} {depth : Nat} (h : Small chars depth) :
    (Expr.set chars).fits = true := by
  -- Ranges that rise and begin below 128 are at most 128, far from the bound.
  have hlength := h.normal.length_le (fun _ _ => Nat.zero_le _) h.low
  have hsize := setFootprint_le chars
  have hfits : setFootprint chars + 256 ≤ maxFootprint := by
    rw [maxFootprint]
    omega
  exact decide_eq_true hfits

/-! ### Patterns -/

/-- At its end a pattern is read. -/
theorem parseLoop_of_rest_eq_nil {s : ParseState} (h : s.rest = []) (fuel : Nat) :
    parseLoop fuel s = some s := by
  have hskip : s.flags.skip s.rest = [] := by
    rw [h, Flags.skip]
    split <;> rfl
  cases fuel with
  | zero => simp [parseLoop, hskip]
  | succ n => simp [parseLoop, hskip]

/-- Where blanks mean themselves, an item begins with the next character. -/
theorem parseLoop_of_rest_eq_cons {s : ParseState} (hverbose : s.flags.verbose = false) {c : Char}
    {r : Text} (h : s.rest = c :: r) (fuel : Nat) :
    parseLoop (fuel + 1) s = (parseItem s c r).bind (parseLoop fuel) := by
  have hskip : s.flags.skip s.rest = c :: r := by
    rw [h, Flags.skip, hverbose]
    rfl
  rw [parseLoop, hskip]

/-- A pattern that is a class as a whole. -/
theorem parse?_of_readClass {r : Text} {part : ClassPart}
    (h : readClass {} ('[' :: r) = some (part, [])) (hdepth : part.depth ≤ maxDepth) :
    parse? {} ('[' :: r) = some (.set part.chars) := by
  let item : Item := { expr := .set part.chars, depth := part.depth }
  have hloop : parseLoop (r.length + 1) { flags := {}, rest := '[' :: r }
      = some { flags := {}, items := [item], rest := [] } := by
    have hitem : parseItem { flags := {}, rest := '[' :: r } '[' r
        = some { flags := {}, items := [item], rest := [] } := by
      simp [parseItem, h, ParseState.push, item]
    rw [parseLoop_of_rest_eq_cons rfl rfl, hitem]
    exact parseLoop_of_rest_eq_nil rfl _
  rw [parse?, List.length_cons, hloop]
  simp [ParseState.close, sequenceItem, choiceItem, maxItemDepth, item, hdepth, Expr.sequence,
    Expr.choice]

/-- A pattern that begins with a malformed class is malformed. -/
theorem parse?_eq_none_of_readClass {r : Text} (h : readClass {} ('[' :: r) = none) :
    parse? {} ('[' :: r) = none := by
  have hloop : parseLoop (r.length + 1) { flags := {}, rest := '[' :: r } = none := by
    have hitem : parseItem { flags := {}, rest := '[' :: r } '[' r = none := by
      simp [parseItem, h]
    rw [parseLoop_of_rest_eq_cons rfl rfl, hitem]
    rfl
  rw [parse?, List.length_cons, hloop]
  rfl

/-- A class whose first member is neither a hyphen nor a closing bracket, and that is not
complemented, is read from its first member on. -/
theorem readClass_eq {c : Char} {r : Text} (hc : c ∉ ['^', '-', ']']) :
    readClass {} ('[' :: c :: r)
      = classLoop {} ((c :: r).length + 1) ⟨{}, [.opened {} false], c :: r⟩ := by
  simp only [List.mem_cons, List.not_mem_nil, or_false, not_or] at hc
  obtain ⟨hcaret, hhyphen, hclose⟩ := hc
  have hopen : openBracket {} ('[' :: c :: r) = some (false, {}, c :: r) := by
    simp [openBracket, advance?, Flags.skip, readHyphens, hcaret, hhyphen, hclose]
  rw [readClass, hopen]
  rfl

/-- A class whose members are read and are small compiles, and takes one character of them. -/
theorem compile?_of_reads {c : Char} {r : Text} (hc : c ∉ ['^', '-', ']']) {u : ClassUnion}
    (hreads : Reads ⟨{}, [.opened {} false], c :: r⟩ ⟨u, [.opened {} false], [']']⟩)
    (hu : Small u.chars u.depth) : compile? {} ('[' :: c :: r) = some (ofSet u.chars) := by
  have hread : readClass {} ('[' :: c :: r) = some (⟨u.chars, u.toPart.depth + 1⟩, []) := by
    obtain ⟨fuel, hfuel⟩ := hreads.classLoop
    rw [readClass_eq hc, hfuel]
    rfl
  have hdepth : u.toPart.depth + 1 ≤ maxDepth := by
    have := hu.shallow
    simp only [ClassUnion.toPart, maxDepth]
    split <;> omega
  exact compile?_of_set (parse?_of_readClass hread hdepth) hu.fits

/-- A class in which the reader comes to an error does not compile. -/
theorem compile?_eq_none_of_reads {c : Char} {r : Text} (hc : c ∉ ['^', '-', ']'])
    {s : ClassState} (hreads : Reads ⟨{}, [.opened {} false], c :: r⟩ s)
    (hstep : classStep {} s = none) : compile? {} ('[' :: c :: r) = none := by
  -- The fuel does not run out on the way, so the error of the step is the result.
  have hread : readClass {} ('[' :: c :: r) = none := by
    obtain ⟨fuel, hfuel⟩ := hreads.classLoop
    rw [readClass_eq hc, hfuel, classLoop, hstep]
  rw [compile?, parse?_eq_none_of_readClass hread]
  rfl

end SearchLink.Regex
