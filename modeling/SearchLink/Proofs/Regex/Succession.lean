import SearchLink.Proofs.Regex.MatchPlaces

/-!
# `SearchLink.Proofs.Regex.Succession`: the matches in a text, one after the other

`matchesFrom` goes from match to match and is given fuel for that. `Program.Successive` says the
same without fuel: each match is the next one behind the match before, and behind the last one
there is no further match.

* `successive_matches`: one step for each place of the text is enough to find all of them. A match
  stops behind the one before, since an empty match right behind a match does not count
  (`isPlace_next?`).
* `joined_segments`: the matches and the gaps between them, put together again, are the text.
-/

set_option autoImplicit false

namespace SearchLink.Regex

/-! ### Cursors -/

theorem Cursor.index_advance {count : Nat} {here : Cursor} (h : count ≤ here.rest.length) :
    (here.advance count).index = here.index + count := by
  induction count generalizing here with
  | zero => rfl
  | succ n ih =>
    obtain ⟨before, index, rest⟩ := here
    cases rest with
    | nil => simp at h
    | cons c r =>
      have hr : n ≤ r.length := by simpa using h
      show (Cursor.advance n ⟨some c, index + 1, r⟩).index = index + (n + 1)
      calc (Cursor.advance n ⟨some c, index + 1, r⟩).index
          = index + 1 + n := ih hr
        _ = index + (n + 1) := by omega

theorem Cursor.rest_advance (count : Nat) (here : Cursor) :
    (here.advance count).rest = here.rest.drop count := by
  induction count generalizing here with
  | zero => rfl
  | succ n ih =>
    obtain ⟨before, index, rest⟩ := here
    cases rest with
    | nil => rfl
    | cons c r => exact ih _

/-! ### From match to match -/

@[simp] theorem Slots.start_cons (start : Nat) (more : Slots) :
    Slots.start (some start :: more) = start := rfl

@[simp] theorem Slots.stop_cons (start : Option Nat) (stop : Nat) (more : Slots) :
    Slots.stop (start :: some stop :: more) = stop := rfl

/-- Matches from a cursor on, each of them the next one behind the match before, and none behind
the last one. -/
inductive Program.Successive (p : Program) : Cursor → Option Nat → List Slots → Prop where
  /-- There is no further match. -/
  | stop {here : Cursor} {last : Option Nat} (h : p.next? here last = none) :
    Successive p here last []
  /-- There is a match, and others follow it. -/
  | next {here : Cursor} {last : Option Nat} {slots : Slots} {more : List Slots}
    (h : p.next? here last = some slots)
    (hmore : Successive p (here.advance (slots.stop - here.index)) (some slots.stop) more) :
    Successive p here last (slots :: more)

/-- The next match is a place behind the cursor. Where a match has just stopped, the next one stops
further on. -/
theorem isPlace_next? {p : Program} (hp : p.Framed) {here : Cursor} {last : Option Nat}
    {slots : Slots} (h : p.next? here last = some slots) :
    slots.IsPlace here.index (here.index + here.rest.length) ∧
      (last = some here.index → here.index < slots.stop) := by
  unfold Program.next? at h
  split at h
  · simp at h
  · rename_i found hfound
    have hplace := isPlace_search hp hfound
    split at h
    · split at h
      · simp at h
      · -- The empty match does not count, and the search has begun one character further on.
        rename_i c r hrest
        have hplace' := isPlace_search hp h
        rw [Cursor.rest_advance, Cursor.index_advance (by rw [hrest]; simp)] at hplace'
        obtain ⟨first, last', more, rfl, hfirst, hle, hstop⟩ := hplace'
        rw [hrest] at hstop ⊢
        simp only [List.drop_succ_cons, List.drop_zero, List.length_cons] at hstop ⊢
        refine ⟨⟨first, last', more, rfl, by omega, hle, by omega⟩, fun _ => ?_⟩
        rw [Slots.stop_cons]
        omega
    · rename_i hcounts
      obtain rfl := Option.some.inj h
      refine ⟨hplace, ?_⟩
      rintro rfl
      obtain ⟨first, last', more, rfl, hfirst, hle, -⟩ := hplace
      -- The match is not empty, or else it does not stop where the last one did.
      have hne : ¬ (first = last' ∧ here.index = last') := by
        rintro ⟨rfl, rfl⟩
        simp at hcounts
      rw [Slots.stop_cons]
      omega

/-- With enough fuel no match is missed. One step is needed for each place behind the cursor, and
one more as long as there has been no match. -/
theorem successive_matchesFrom {p : Program} (hp : p.Framed) {fuel : Nat} {here : Cursor}
    {last : Option Nat}
    (hfuel : here.rest.length < fuel ∨ last = some here.index ∧ here.rest.length ≤ fuel) :
    p.Successive here last (p.matchesFrom fuel here last) := by
  induction fuel generalizing here last with
  | zero =>
    -- Nothing is left of the text, and a match would have to stop further on.
    obtain ⟨hlast, hrest⟩ := hfuel.resolve_left (Nat.not_lt_zero _)
    refine .stop (Option.eq_none_iff_forall_ne_some.2 fun slots hslots => ?_)
    obtain ⟨⟨first, stop, more, rfl, -, -, hstop⟩, hbehind⟩ := isPlace_next? hp hslots
    have hlater := hbehind hlast
    rw [Slots.stop_cons] at hlater
    omega
  | succ fuel ih =>
    rw [Program.matchesFrom]
    split
    · rename_i hnone
      exact .stop hnone
    · rename_i slots hslots
      refine .next hslots (ih (.inr ?_))
      obtain ⟨⟨first, stop, more, rfl, hfirst, hle, hstop⟩, hbehind⟩ := isPlace_next? hp hslots
      rw [Slots.stop_cons] at hbehind ⊢
      rw [Cursor.index_advance (by omega), Cursor.rest_advance, List.length_drop]
      refine ⟨congrArg some (by omega), ?_⟩
      -- From now on there has been a match, so one step less is needed.
      rcases hfuel with hfuel | ⟨hlast, hfuel⟩
      · omega
      · have hlater := hbehind hlast
        omega

/-- The matches in a text are all there are. -/
theorem successive_matches {p : Program} (hp : p.Framed) (t : Text) :
    p.Successive (Cursor.ofText t) none (p.matches t) :=
  successive_matchesFrom hp (.inl (Nat.lt_succ_self _))

/-- Cursor and last match decide which matches follow. -/
theorem Program.Successive.unique {p : Program} {here : Cursor} {last : Option Nat}
    {matches₁ matches₂ : List Slots} (h₁ : p.Successive here last matches₁)
    (h₂ : p.Successive here last matches₂) : matches₁ = matches₂ := by
  induction h₁ generalizing matches₂ with
  | stop hnone =>
    cases h₂ with
    | stop => rfl
    | next hsome => simp [hnone] at hsome
  | next hsome _ ih =>
    cases h₂ with
    | stop hnone => simp [hsome] at hnone
    | next hsome' hmore' =>
      obtain rfl := Option.some.inj (hsome.symm.trans hsome')
      rw [ih hmore']

/-! ### Gaps and matches -/

/-- The text between two places and what follows it. -/
theorem between_append_drop (t : Text) {start stop : Nat} (h : start ≤ stop) :
    between t start stop ++ t.drop stop = t.drop start := by
  obtain ⟨n, rfl⟩ := Nat.exists_eq_add_of_le h
  rw [between, Nat.add_sub_cancel_left, ← List.drop_drop, List.take_append_drop]

/-- Segments with what stands behind them, put together to a text. -/
def joined (parts : List Segment × Text) : Text :=
  (parts.1.flatMap fun s => s.gap ++ s.whole) ++ parts.2

/-- Successive matches rise, so gaps and matches are the text from the first gap on. -/
theorem joined_segmentsFrom {p : Program} (hp : p.Framed) {here : Cursor} {last : Option Nat}
    {found : List Slots} (h : p.Successive here last found) (t : Text) {start : Nat}
    (hstart : start ≤ here.index) : joined (segmentsFrom t start found) = t.drop start := by
  induction h generalizing start with
  | stop => rfl
  | @next here last slots more hnext _ ih =>
    obtain ⟨⟨first, stop, rest, rfl, hfirst, hle, hstop⟩, -⟩ := isPlace_next? hp hnext
    have hbehind : stop ≤ (here.advance (stop - here.index)).index := by
      rw [Cursor.index_advance (by omega)]
      omega
    have hmore := ih hbehind
    calc joined (segmentsFrom t start ((some first :: some stop :: rest) :: more))
        = between t start first ++
            (between t first stop ++ joined (segmentsFrom t stop more)) := by
          simp [segmentsFrom, joined, Segment.whole, groupTexts]
      _ = t.drop start := by
          rw [hmore, between_append_drop t hle, between_append_drop t (by omega)]

/-- The segments of a text are the text, cut. -/
theorem joined_segments {re : Regex} (hp : re.program.Framed) (t : Text) :
    joined (re.segments t) = t :=
  joined_segmentsFrom hp (successive_matches hp t) t (Nat.le_refl 0)

end SearchLink.Regex
