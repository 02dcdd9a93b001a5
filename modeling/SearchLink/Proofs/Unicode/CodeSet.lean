import Mathlib.Data.List.Basic
import SearchLink.Unicode.CodeSet

/-!
# `SearchLink.Proofs.Unicode.CodeSet`: what the operations on code sets do to membership

`insert` joins ranges and `gapsFrom` reads the gaps off a list of ranges, so each relies on
the form that the other operations leave behind. `IsNormal` is that form.

* `IsNormal.insert`, `IsNormal.union` and `IsNormal.normal`: ranges that rise with a gap between
  neighbours stay so, and `normal` brings any proper ranges to that form.
* `IsNormal.length_le`: such a set has no more ranges than there are code points to begin at.
* `mem_union`: a union has the members of both sets.
* `mem_complement`: a complement has exactly the code points that the set leaves out;
  `contains_complement` says it of characters, which are code points by nature.

Gaps are read from the ends of ranges, so a set that is complemented must not have an empty range
(`Proper`): behind `(20, 1)` the next gap would begin at 2, whatever stands in front. Insertion and
union need no such condition.
-/

set_option autoImplicit false

namespace SearchLink.Unicode.CodeSet

/-- No range of a set is empty. -/
def Proper (s : CodeSet) : Prop := ∀ r ∈ s, r.1 ≤ r.2

instance (s : CodeSet) : Decidable (Proper s) :=
  inferInstanceAs (Decidable (∀ r ∈ s, r.1 ≤ r.2))

theorem Proper.tail {r : Nat × Nat} {s : CodeSet} (h : Proper (r :: s)) : Proper s :=
  fun x hx => h x (List.mem_cons_of_mem _ hx)

/-- The ranges rise, and a gap lies between neighbours. -/
structure IsNormal (s : CodeSet) : Prop where
  /-- No range is empty. -/
  proper : Proper s
  /-- A range ends more than one code point before every later one begins. -/
  apart : s.Pairwise fun r r' => r.2 + 1 < r'.1

theorem IsNormal.nil : IsNormal [] := ⟨by simp [Proper], List.Pairwise.nil⟩

theorem IsNormal.tail {r : Nat × Nat} {s : CodeSet} (h : IsNormal (r :: s)) : IsNormal s :=
  ⟨h.proper.tail, (List.pairwise_cons.1 h.apart).2⟩

theorem isNormal_cons {r : Nat × Nat} {s : CodeSet} :
    IsNormal (r :: s) ↔ r.1 ≤ r.2 ∧ (∀ r' ∈ s, r.2 + 1 < r'.1) ∧ IsNormal s := by
  constructor
  · intro h
    exact ⟨h.proper r (List.mem_cons_self ..), (List.pairwise_cons.1 h.apart).1, h.tail⟩
  · rintro ⟨hr, hapart, hs⟩
    exact ⟨List.forall_mem_cons.2 ⟨hr, hs.proper⟩, List.pairwise_cons.2 ⟨hapart, hs.apart⟩⟩

/-! ### Adding ranges -/

/-- A property of ranges that a join of two of them inherits is kept by insertion. -/
theorem forall_insert {P : Nat × Nat → Prop}
    (join : ∀ {a b c d : Nat}, P (a, b) → P (c, d) → P (min a c, max b d))
    {lo hi : Nat} (h : P (lo, hi)) {s : CodeSet} (hs : ∀ r ∈ s, P r) :
    ∀ r ∈ insert lo hi s, P r := by
  induction s generalizing lo hi with
  | nil => simpa [insert] using h
  | cons r s ih =>
    obtain ⟨hr, hs'⟩ := List.forall_mem_cons.1 hs
    simp only [insert]
    split
    · exact List.forall_mem_cons.2 ⟨h, hs⟩
    · split
      · exact List.forall_mem_cons.2 ⟨hr, ih h hs'⟩
      · exact ih (join h hr) hs'

/-- Every range of an insertion begins where the new range or an old one does. -/
theorem lower_bound_insert {lo hi bound : Nat} {s : CodeSet} (hlo : bound ≤ lo)
    (hs : ∀ r ∈ s, bound ≤ r.1) : ∀ r ∈ insert lo hi s, bound ≤ r.1 :=
  forall_insert (P := fun r => bound ≤ r.1) (fun h₁ h₂ => Nat.le_min.2 ⟨h₁, h₂⟩) hlo hs

/-- The same of a union. -/
theorem forall_union {P : Nat × Nat → Prop}
    (join : ∀ {a b c d : Nat}, P (a, b) → P (c, d) → P (min a c, max b d))
    {s t : CodeSet} (hs : ∀ r ∈ s, P r) (ht : ∀ r ∈ t, P r) : ∀ r ∈ union s t, P r := by
  induction t generalizing s with
  | nil => exact hs
  | cons r t ih =>
    obtain ⟨hr, ht'⟩ := List.forall_mem_cons.1 ht
    exact ih (forall_insert join hr hs) ht'

/-- Insertion keeps the normal form. -/
theorem IsNormal.insert {lo hi : Nat} (h : lo ≤ hi) {s : CodeSet} (hs : IsNormal s) :
    IsNormal (insert lo hi s) := by
  induction s generalizing lo hi with
  | nil => exact isNormal_cons.2 ⟨h, by simp, .nil⟩
  | cons r s ih =>
    obtain ⟨a, b⟩ := r
    obtain ⟨hab, hapart, hs'⟩ := isNormal_cons.1 hs
    simp only [CodeSet.insert]
    split
    · rename_i hbefore
      refine isNormal_cons.2 ⟨h, fun r hr => ?_, hs⟩
      obtain rfl | hr := List.mem_cons.1 hr
      · exact hbefore
      · have := hapart r hr
        dsimp only at this ⊢
        omega
    · split
      · rename_i hbehind
        have hlo : b + 2 ≤ lo := by omega
        exact isNormal_cons.2 ⟨hab, lower_bound_insert hlo fun r hr => hapart r hr, ih h hs'⟩
      · exact ih (by omega) hs'

/-- A union of a set in normal form with proper ranges is in normal form. -/
theorem IsNormal.union {s t : CodeSet} (hs : IsNormal s) (ht : Proper t) :
    IsNormal (union s t) := by
  induction t generalizing s with
  | nil => exact hs
  | cons r t ih => exact ih (hs.insert (ht r (List.mem_cons_self ..))) ht.tail

/-- The members of a union are the members of both sets. -/
theorem mem_union (s t : CodeSet) (n : Nat) : mem (union s t) n = (mem s n || mem t n) := by
  induction t generalizing s with
  | nil => simp [union, mem]
  | cons r t ih =>
    calc mem (union s (r :: t)) n
        = (mem (CodeSet.insert r.1 r.2 s) n || mem t n) := ih _
      _ = (mem s n || mem (r :: t) n) := by
        rw [mem_insert, mem_cons]
        cases mem s n <;> cases mem t n <;> simp

/-- Proper ranges are brought to normal form. -/
theorem IsNormal.normal {s : CodeSet} (hs : Proper s) : IsNormal (normal s) :=
  IsNormal.nil.union hs

/-- Normal form keeps the members. -/
theorem mem_normal (s : CodeSet) (n : Nat) : mem (normal s) n = mem s n := by
  rw [CodeSet.normal, mem_union]
  simp [mem]

/-- Ranges in normal form begin at different code points, so there are no more of them than there
are code points to begin at. -/
theorem IsNormal.length_le {s : CodeSet} (hs : IsNormal s) {start bound : Nat}
    (hstart : ∀ r ∈ s, start ≤ r.1) (hbound : ∀ r ∈ s, r.1 ≤ bound) :
    s.length ≤ bound + 1 - start := by
  induction s generalizing start with
  | nil => exact Nat.zero_le _
  | cons r s ih =>
    obtain ⟨hr, hapart, hs'⟩ := isNormal_cons.1 hs
    obtain ⟨hfirst, hbound'⟩ := List.forall_mem_cons.1 hbound
    have hlater : ∀ r' ∈ s, r.1 + 1 ≤ r'.1 := fun r' hr' => by
      have := hapart r' hr'
      omega
    have hrest := ih hs' hlater hbound'
    have := hstart r (List.mem_cons_self ..)
    rw [List.length_cons]
    omega

/-! ### Leaving ranges out -/

/-- Nothing below the beginnings of all ranges is a member. -/
theorem mem_eq_false_of_lt {s : CodeSet} {n : Nat} (h : ∀ r ∈ s, n < r.1) : mem s n = false := by
  rw [mem, List.any_eq_false]
  intro r hr
  have := h r hr
  simp only [Bool.and_eq_true, decide_eq_true_eq, not_and]
  omega

/-- The gaps of a set in normal form from `start` on hold what is not a member, if no range
begins before `start`. -/
theorem mem_gapsFrom {s : CodeSet} (hs : IsNormal s) {start : Nat}
    (hstart : ∀ r ∈ s, start ≤ r.1) {n : Nat} (hn : n ≤ maxCode) :
    mem (gapsFrom start s) n = true ↔ start ≤ n ∧ mem s n = false := by
  induction s generalizing start with
  | nil =>
    simp only [gapsFrom, mem, List.any_nil, and_true]
    split
    · simp [hn]
    · simp only [List.any_nil, Bool.false_eq_true, false_iff]
      omega
  | cons r s ih =>
    obtain ⟨a, b⟩ := r
    obtain ⟨hab, hapart, hs'⟩ := isNormal_cons.1 hs
    have ha : start ≤ a := hstart (a, b) (List.mem_cons_self ..)
    have hrest : mem (gapsFrom (b + 1) s) n = true ↔ b + 1 ≤ n ∧ mem s n = false :=
      ih hs' fun r hr => Nat.le_of_lt (hapart r hr)
    -- Up to the end of the first range no later one has members.
    have hlow : n ≤ b → mem s n = false := fun h => mem_eq_false_of_lt fun r hr =>
      Nat.lt_of_le_of_lt (Nat.le_succ_of_le h) (hapart r hr)
    simp only [mem_cons, Bool.or_eq_false_iff, Bool.and_eq_false_iff, decide_eq_false_iff_not]
    simp only [gapsFrom]
    dsimp only at hab
    split
    · simp only [mem_cons, Bool.or_eq_true, Bool.and_eq_true, decide_eq_true_eq, hrest]
      constructor
      · rintro (⟨hfrom, hto⟩ | ⟨hbehind, hs⟩)
        · exact ⟨hfrom, .inl (by omega), hlow (by omega)⟩
        · exact ⟨by omega, .inr (by omega), hs⟩
      · rintro ⟨hfrom, hout | hout, hs⟩
        · exact .inl ⟨hfrom, by omega⟩
        · exact .inr ⟨by omega, hs⟩
    · rw [hrest]
      constructor
      · rintro ⟨hbehind, hs⟩
        exact ⟨by omega, .inr (by omega), hs⟩
      · rintro ⟨hfrom, hout | hout, hs⟩
        · omega
        · exact ⟨by omega, hs⟩

/-- The complement of a set has exactly the code points that the set leaves out. -/
theorem mem_complement {s : CodeSet} (hs : Proper s) {n : Nat} (hn : n ≤ maxCode) :
    mem (complement s) n = !mem s n := by
  have hstart : ∀ r ∈ normal s, 0 ≤ r.1 := fun _ _ => Nat.zero_le _
  rw [complement, Bool.eq_iff_iff, mem_gapsFrom (IsNormal.normal hs) hstart hn, mem_normal]
  simp

/-! ### Characters -/

/-- Every character is a code point. -/
theorem toNat_le_maxCode (c : Char) : c.toNat ≤ maxCode := by
  have := c.valid
  simp only [UInt32.isValidChar, Nat.isValidChar] at this
  change c.val.toNat ≤ 0x10FFFF
  omega

/-- A set with one code point has the character with this code point and no other. -/
theorem contains_single (c d : Char) : contains (single d.toNat) c = decide (c = d) := by
  have hiff : c = d ↔ d.toNat ≤ c.toNat ∧ c.toNat ≤ d.toNat :=
    ⟨fun h => by simp [h], fun h => Char.toNat_inj.1 (Nat.le_antisymm h.2 h.1)⟩
  simp [contains, mem, single, hiff]

/-- Ranges one after the other have the members of both sets. -/
theorem contains_append (s t : CodeSet) (c : Char) :
    contains (s ++ t) c = (contains s c || contains t c) := List.any_append

theorem contains_complement {s : CodeSet} (hs : Proper s) (c : Char) :
    contains (complement s) c = !contains s c := mem_complement hs (toNat_le_maxCode c)

end SearchLink.Unicode.CodeSet
