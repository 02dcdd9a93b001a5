/-!
# `SearchLink.Unicode.CodeSet`: sets of code points

A set is a list of ranges, each given by its first and last code point. In *normal form*
the ranges rise and leave a gap between neighbours; every operation below except `ofHex`
brings its result to that form. Membership is a search through the ranges, so it is
meaningful for any list.

Union and complement are written out; intersection and difference follow from them. The
lemmas at the end say what each does to membership.
-/

set_option autoImplicit false

namespace SearchLink.Unicode

/-- A set of code points, as ranges `(first, last)` with both ends included. -/
abbrev CodeSet := List (Nat × Nat)

namespace CodeSet

/-- The largest code point. -/
def maxCode : Nat := 0x10FFFF

/-- Whether a code point lies in one of the ranges. -/
def mem (s : CodeSet) (n : Nat) : Bool := s.any fun r => r.1 ≤ n && n ≤ r.2

/-- Whether a character lies in one of the ranges. -/
def contains (s : CodeSet) (c : Char) : Bool := s.mem c.toNat

/-- The set with one code point. -/
def single (n : Nat) : CodeSet := [(n, n)]

/-- Adds a range, joining it with every range that it meets or touches. -/
def insert (lo hi : Nat) : CodeSet → CodeSet
  | [] => [(lo, hi)]
  | (a, b) :: r =>
    if hi + 1 < a then (lo, hi) :: (a, b) :: r
    else if b + 1 < lo then (a, b) :: insert lo hi r
    else insert (min lo a) (max hi b) r

/-- The code points of either set. -/
def union (s t : CodeSet) : CodeSet := t.foldl (fun acc r => insert r.1 r.2 acc) s

/-- The same set in normal form. -/
def normal (s : CodeSet) : CodeSet := union [] s

/-- The code points from `start` on that lie in none of the ranges of a set in normal
form. -/
def gapsFrom (start : Nat) : CodeSet → CodeSet
  | [] => if start ≤ maxCode then [(start, maxCode)] else []
  | (a, b) :: r =>
    if start < a then (start, a - 1) :: gapsFrom (b + 1) r else gapsFrom (b + 1) r

/-- The code points outside a set. -/
def complement (s : CodeSet) : CodeSet := gapsFrom 0 (normal s)

/-- The code points of both sets. -/
def inter (s t : CodeSet) : CodeSet := complement (union (complement s) (complement t))

/-- The code points of the first set that are not in the second. -/
def diff (s t : CodeSet) : CodeSet := inter s (complement t)

/-- The code points of exactly one of two sets. -/
def symmDiff (s t : CodeSet) : CodeSet := union (diff s t) (diff t s)

/-- The value of a hexadecimal numeral in lower-case digits. -/
def hexNumeral (digits : List Char) : Nat :=
  digits.foldl
    (fun n c => 16 * n + (if c.toNat < 97 then c.toNat - 48 else c.toNat - 87)) 0

/-- Reads a range such as `41-5a`, or a single code point such as `5f`. -/
def rangeOfHex (piece : List Char) : Nat × Nat :=
  match piece.splitOn '-' with
  | [a, b] => (hexNumeral a, hexNumeral b)
  | _ => (hexNumeral piece, hexNumeral piece)

/-- Reads a set from lines of hexadecimal ranges separated by blanks. -/
def ofHex (lines : List String) : CodeSet :=
  lines.flatMap fun line => (line.toList.splitOn ' ').map rangeOfHex

/-! ### Membership -/

theorem mem_cons (r : Nat × Nat) (s : CodeSet) (n : Nat) :
    mem (r :: s) n = (decide (r.1 ≤ n) && decide (n ≤ r.2) || mem s n) := rfl

/-- Ranges are joined only where no gap lies between them, so insertion adds the members of the
new range and no others. -/
theorem mem_insert (lo hi : Nat) (s : CodeSet) (n : Nat) :
    mem (insert lo hi s) n = (decide (lo ≤ n) && decide (n ≤ hi) || mem s n) := by
  induction s generalizing lo hi with
  | nil => simp [insert, mem]
  | cons r s ih =>
    obtain ⟨a, b⟩ := r
    simp only [insert]
    split
    · rfl
    · split
      · rw [mem_cons, ih, mem_cons]
        cases decide (a ≤ n) && decide (n ≤ b) <;> cases decide (lo ≤ n) && decide (n ≤ hi) <;>
          simp
      · rw [ih (min lo a) (max hi b), mem_cons, ← Bool.or_assoc]
        congr 1
        rw [Bool.eq_iff_iff]
        simp only [Bool.and_eq_true, Bool.or_eq_true, decide_eq_true_eq]
        omega

end CodeSet

end SearchLink.Unicode
