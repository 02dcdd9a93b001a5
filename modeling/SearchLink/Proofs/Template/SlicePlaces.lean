import SearchLink.Proofs.Text.ByteRange
import SearchLink.Template.Slice

/-!
# `SearchLink.Proofs.Template.SlicePlaces`: which characters a slice holds

A bound stands for a place in the text: `boundPlace` counts from the end for a negative bound
and moves the result into the text. `slice_eq_charactersAt` says that a slice holds the
characters from the place of its first bound up to that of its second one, and
`exists_sliceBytes?_eq` that it also lies between two byte offsets, so that no character is cut.

The bounds are words of 64 bits, and `slice` counts in integers. `sliceWords?` counts in
words and gives up as soon as a result is none. For a text whose length is a word that never
happens (`sliceWords?_eq`): what is added to a length is negative, and what is subtracted from
a place of the text is another one.

`slice_places` puts this together with what the two slices at one bound have in common.
-/

set_option autoImplicit false

namespace SearchLink.Template

/-! ### Places -/

/-- The place that a bound stands for in a text of `n` characters. -/
def boundPlace (n bound : Int) : Int := if bound < 0 then max (n + bound) 0 else min bound n

/-- The place of one end of a slice of `n` characters, which is `absent` without a bound. -/
def endPlace (n absent : Int) (bound : Option Int64) : Int :=
  bound.elim absent fun b => boundPlace n b.toInt

/-- The characters of a text from one place up to another, where the first character is at
place 0. -/
def charactersAt (t : Text) (first last : Int) : Text :=
  (t.zipIdx.filter fun c => first ≤ c.2 ∧ c.2 < last).map Prod.fst

/-- How many characters stand in front of one end of a slice. -/
def endIndex (n absent : Nat) (bound : Option Int64) : Nat :=
  (bound.map (resolveBound n)).getD absent

/-- The number of characters in front of a place is the place. -/
theorem endIndex_eq (n absent : Nat) (bound : Option Int64) :
    (endIndex n absent bound : Int) = endPlace n absent bound := by
  cases bound with
  | none => rfl
  | some b =>
    change (resolveBound n b : Int) = boundPlace n b.toInt
    unfold resolveBound boundPlace
    split <;> omega

/-- No bound leaves the text. -/
theorem resolveBound_le (n : Nat) (bound : Int64) : resolveBound n bound ≤ n := by
  unfold resolveBound
  split <;> omega

theorem endIndex_le {n absent : Nat} (h : absent ≤ n) (bound : Option Int64) :
    endIndex n absent bound ≤ n := by
  cases bound with
  | none => exact h
  | some b => exact resolveBound_le n b

/-! ### The characters of a slice -/

/-- A slice by the number of characters in front of its two ends. -/
theorem slice_eq (t : Text) (start stop : Option Int64) :
    slice t start stop
      = (t.drop (endIndex t.length 0 start)).take
          (endIndex t.length t.length stop - endIndex t.length 0 start) := rfl

/-- Characters numbered from `k` on: those from one number up to another are the front that
the second one allows, without the part that the first one excludes. -/
theorem map_filter_zipIdx (t : Text) (k first last : Nat) :
    ((t.zipIdx k).filter fun c => (first : Int) ≤ c.2 ∧ (c.2 : Int) < last).map Prod.fst
      = (t.take (last - k)).drop (first - k) := by
  induction t generalizing k with
  | nil => simp
  | cons c t ih =>
    rw [List.zipIdx_cons]
    by_cases hlast : k < last
    · have htake : last - k = (last - (k + 1)) + 1 := by omega
      rw [htake, List.take_succ_cons]
      by_cases hfirst : first ≤ k
      · have hdrop : first - k = 0 := by omega
        have hdrop' : first - (k + 1) = 0 := by omega
        rw [List.filter_cons_of_pos (by simp; omega), List.map_cons, ih, hdrop, hdrop',
          List.drop_zero, List.drop_zero]
      · have hdrop : first - k = (first - (k + 1)) + 1 := by omega
        rw [List.filter_cons_of_neg (by simp; omega), ih, hdrop, List.drop_succ_cons]
    · -- From `last` on nothing is kept.
      have htake : last - k = 0 := by omega
      have htake' : last - (k + 1) = 0 := by omega
      rw [List.filter_cons_of_neg (by simp; omega), ih, htake, htake', List.take_zero,
        List.take_zero, List.drop_nil, List.drop_nil]

/-- A slice holds the characters between the places of its bounds. -/
theorem slice_eq_charactersAt (t : Text) (start stop : Option Int64) :
    slice t start stop
      = charactersAt t (endPlace t.length 0 start) (endPlace t.length t.length stop) := by
  have hstart : (endIndex t.length 0 start : Int) = endPlace t.length 0 start := endIndex_eq _ _ _
  have hstop : (endIndex t.length t.length stop : Int) = endPlace t.length t.length stop :=
    endIndex_eq _ _ _
  rw [slice_eq, ← hstart, ← hstop, charactersAt, map_filter_zipIdx, Nat.sub_zero, Nat.sub_zero,
    List.drop_take]

/-- A slice lies between two byte offsets, neither of them inside a character. -/
theorem exists_sliceBytes?_eq (t : Text) (start stop : Option Int64) :
    ∃ a b, Text.sliceBytes? t a b = some (slice t start stop) := by
  let first := endIndex t.length 0 start
  let count := endIndex t.length t.length stop - first
  have hcut : t = t.take first ++ (t.drop first).take count ++ (t.drop first).drop count := by
    rw [List.append_assoc, List.take_append_drop, List.take_append_drop]
  exact ⟨_, _, Text.sliceBytes?_eq_some_iff.2 ⟨_, _, hcut, rfl, rfl⟩⟩

/-- Without bounds a slice is the text. -/
theorem slice_none (t : Text) : slice t none none = t := List.take_of_length_le (Nat.le_refl _)

/-- Up to a bound and from it on is the whole text. -/
theorem slice_append_slice (t : Text) (bound : Int64) :
    slice t none (some bound) ++ slice t (some bound) none = t := by
  let place := resolveBound t.length bound
  have hfront : slice t none (some bound) = t.take place := rfl
  have hback : slice t (some bound) none = t.drop place := by
    change (t.drop place).take (t.length - place) = t.drop place
    exact List.take_of_length_le (List.length_drop ▸ Nat.le_refl _)
  rw [hfront, hback, List.take_append_drop]

/-! ### Counting in words -/

/-- The signed word of 64 bits for an integer, if there is one. -/
def word? (i : Int) : Option Int64 :=
  if -0x8000000000000000 ≤ i ∧ i < 0x8000000000000000 then some (Int64.ofInt i) else none

/-- The place that a bound stands for, counted in words. -/
def wordPlace? (n bound : Int64) : Option Int64 :=
  if bound < 0 then (word? (n.toInt + bound.toInt)).map fun place => if place < 0 then 0 else place
  else some (if n < bound then n else bound)

/-- A slice, counted in words. There is none where a length, a sum or a difference is no
word. -/
def sliceWords? (t : Text) (start stop : Option Int64) : Option Text := do
  let n ← word? t.length
  let first ← start.elim (some 0) (wordPlace? n)
  let last ← stop.elim (some n) (wordPlace? n)
  if last ≤ first then some []
  else
    let count ← word? (last.toInt - first.toInt)
    some ((t.drop first.toNatClampNeg).take count.toNatClampNeg)

/-- An integer that fits has its word. -/
theorem exists_word? {i : Int} (hlow : -0x8000000000000000 ≤ i) (hhigh : i < 0x8000000000000000) :
    ∃ w, word? i = some w ∧ w.toInt = i :=
  ⟨_, if_pos ⟨hlow, hhigh⟩, Int64.toInt_ofInt_of_le hlow hhigh⟩

/-- The sum of a length and a negative bound is a word, so the place of a bound is found. -/
theorem exists_wordPlace? {n : Int64} {length : Nat} (hn : n.toInt = length) (bound : Int64) :
    ∃ place, wordPlace? n bound = some place ∧ place.toInt = resolveBound length bound := by
  have hlow := bound.le_toInt
  have hhigh := n.toInt_lt
  have hneg : bound < 0 ↔ bound.toInt < 0 := Int64.lt_iff_toInt_lt
  have hlt : n < bound ↔ n.toInt < bound.toInt := Int64.lt_iff_toInt_lt
  rw [wordPlace?, resolveBound]
  by_cases hbound : bound.toInt < 0
  · obtain ⟨sum, hsum, hvalue⟩ := exists_word? (i := n.toInt + bound.toInt) (by omega) (by omega)
    have hsign : sum < 0 ↔ sum.toInt < 0 := Int64.lt_iff_toInt_lt
    refine ⟨if sum < 0 then 0 else sum, by rw [if_pos (hneg.2 hbound), hsum, Option.map_some], ?_⟩
    rw [if_pos hbound, apply_ite Int64.toInt]
    simp only [hsign, Int64.toInt_zero]
    split <;> omega
  · refine ⟨if n < bound then n else bound, if_neg (fun h => hbound (hneg.1 h)), ?_⟩
    rw [if_neg hbound, apply_ite Int64.toInt]
    simp only [hlt]
    split <;> omega

/-- One end of a slice is found. -/
theorem exists_wordEnd? {n absent : Int64} {length index : Nat} (hn : n.toInt = length)
    (habsent : absent.toInt = index) (bound : Option Int64) :
    ∃ place, bound.elim (some absent) (wordPlace? n) = some place ∧
      place.toInt = endIndex length index bound := by
  cases bound with
  | none => exact ⟨absent, rfl, habsent⟩
  | some b => exact exists_wordPlace? hn b

/-- Counting in words comes to the same, and no intermediate result fails to be a word, as
long as the length of the text is one. -/
theorem sliceWords?_eq {t : Text} (ht : (t.length : Int) ≤ Int64.maxValue.toInt)
    (start stop : Option Int64) : sliceWords? t start stop = some (slice t start stop) := by
  have hmax : Int64.maxValue.toInt = 0x7FFFFFFFFFFFFFFF := rfl
  obtain ⟨n, hn, hlength⟩ := exists_word? (i := t.length) (by omega) (by omega)
  have hzero : (0 : Int64).toInt = (0 : Nat) := rfl
  obtain ⟨first, hfirst, hfirstValue⟩ := exists_wordEnd? hlength hzero start
  obtain ⟨last, hlast, hlastValue⟩ := exists_wordEnd? hlength hlength stop
  -- Both ends lie in the text, so their difference fits as the length does.
  have hfirstLe : endIndex t.length 0 start ≤ t.length := endIndex_le (Nat.zero_le _) start
  have hlastLe : endIndex t.length t.length stop ≤ t.length := endIndex_le (Nat.le_refl _) stop
  obtain ⟨count, hcount, hcountValue⟩ := exists_word? (i := last.toInt - first.toInt)
    (by omega) (by omega)
  have hempty : last ≤ first ↔ endIndex t.length t.length stop ≤ endIndex t.length 0 start := by
    rw [Int64.le_iff_toInt_le, hfirstValue, hlastValue, Int.ofNat_le]
  have hdrop : first.toNatClampNeg = endIndex t.length 0 start := by
    rw [← Int64.toNat_toInt, hfirstValue, Int.toNat_natCast]
  have htake : count.toNatClampNeg
      = endIndex t.length t.length stop - endIndex t.length 0 start := by
    rw [← Int64.toNat_toInt, hcountValue]
    omega
  simp only [sliceWords?, hn, hfirst, hlast, hcount, Option.bind_eq_bind, Option.bind_some, hempty]
  rw [slice_eq]
  split
  · rename_i hnone
    rw [Nat.sub_eq_zero_of_le hnone, List.take_zero]
  · rw [hdrop, htake]

/-! ### The rule -/

/-- **The places of a slice.** A slice holds the characters of the text from the place of its
first bound up to the place of its second one, in order; an absent bound is the start or the end
of the text. It is cut out between two characters. In words of 64 bits the same slice is found
without a sum or a difference that is no word, for every text whose length is a word. The slices
up to a bound and from it on make up the text, and without bounds a slice is the text. -/
theorem slice_places (t : Text) (start stop : Option Int64) :
    slice t start stop
        = charactersAt t (endPlace t.length 0 start) (endPlace t.length t.length stop) ∧
      (∃ a b, Text.sliceBytes? t a b = some (slice t start stop)) ∧
      ((t.length : Int) ≤ Int64.maxValue.toInt →
        sliceWords? t start stop = some (slice t start stop)) ∧
      (∀ bound, slice t none (some bound) ++ slice t (some bound) none = t) ∧
      slice t none none = t :=
  ⟨slice_eq_charactersAt t start stop, exists_sliceBytes?_eq t start stop,
    fun ht => sliceWords?_eq ht start stop, slice_append_slice t, slice_none t⟩

/-- The least and the largest bound cut nothing off, a bound from the end counts characters and
not bytes, and a slice that would end before it starts is empty. -/
theorem slice_places_extremes :
    let t := "aé😀b".toList
    sliceWords? t (some Int64.minValue) (some Int64.maxValue) = some t ∧
      sliceWords? t (some (-3)) (some (-1)) = some "é😀".toList ∧
      sliceWords? t (some 2) (some (-3)) = some [] := by
  intro t
  have hlength : (t.length : Int) ≤ Int64.maxValue.toInt := by decide
  have hwords (start stop : Option Int64) :
      sliceWords? t start stop = some (slice t start stop) :=
    (slice_places t start stop).2.2.1 hlength
  refine ⟨(hwords _ _).trans ?_, (hwords _ _).trans ?_, (hwords _ _).trans ?_⟩ <;> decide

end SearchLink.Template
