import SearchLink.Proofs.Loop
import SearchLink.Proofs.Template.Placement
import SearchLink.Proofs.Template.TokenText

/-!
# `SearchLink.Proofs.Template.SpliceLoop`: filling in a template by a cursor

`planFrom` goes from rest to rest of a template. Here the same is done with a cursor: a byte
offset into the whole template, up to which it is done. `spliceTurn` is one round. It locates a
token of each active name from the cursor on, chooses the nearest one, retires names by comparing
offsets, copies the bytes up to the token, writes the text for it and sets the cursor behind it.
A round that cuts the template inside a character or past its end faults.

The cursor is always the end of some front of the template, and with the front put aside a round
is the round of `planFrom`: the nearest token is the same (`nearestFrom?_eq`), and the same names
stay active (`isKept_eq_staysActive`). So no round faults, and the loop writes what
`substituteAll` gives (`spliceTurn_sound`). A token begins with a brace, so there are no more
tokens than braces, and no more rounds than braces and one.
-/

set_option autoImplicit false

namespace SearchLink.Template

/-! ### One round -/

/-- How far a template is filled in. -/
structure Splice where
  /-- The byte up to which it is done. -/
  cursor : Nat
  /-- The names that are still looked for. -/
  active : List Active
  /-- What has been written. -/
  written : Text
  deriving Repr, DecidableEq

/-- The occurrence of a name that is located from the cursor on, with the name's index. -/
def candidate? (template : Text) (cursor : Nat) (a : Active) : Option (Nat × Occurrence) :=
  (locate? template a.name cursor).map fun k => (a.index, k)

/-- The candidate to keep: a new one only where it starts in front of the best so far. -/
def nearer (best : Option (Nat × Occurrence)) :
    Option (Nat × Occurrence) → Option (Nat × Occurrence)
  | none => best
  | some new =>
    match best with
    | none => some new
    | some old => if new.2.span.start < old.2.span.start then some new else some old

/-- The nearest occurrence of the active names from the cursor on. -/
def nearestFrom? (template : Text) (cursor : Nat) (active : List Active) :
    Option (Nat × Occurrence) :=
  (active.map (candidate? template cursor)).foldl nearer none

/-- Whether a name is looked for further on, in a round that fills in the token at byte `start`:
not if it does not open any more, or opens in front of that token without a chain. -/
def isKept (template : Text) (cursor start : Nat) (a : Active) : Bool :=
  (locate? template a.name cursor).isSome ||
    (findOffset? template a.name cursor).any fun offset => start ≤ offset

/-- One round: the nearest token is filled in, or the rest of the template is copied. -/
def spliceTurn (registry : Registry) (template : Text) (texts : List Text) (encode : Bool)
    (s : Splice) : Turn Splice Text :=
  match nearestFrom? template s.cursor s.active with
  | none =>
    match template.dropBytes? s.cursor with
    | none => .fault
    | some rest => .done (s.written ++ rest)
  | some (i, k) =>
    match template.sliceBytes? s.cursor k.span.start, texts[i]? with
    | some literal, some t =>
      .next
        { cursor := k.span.stop
          active := s.active.filter (isKept template s.cursor k.span.start)
          written := s.written ++ literal ++ render registry encode k.chain t }
    | _, _ => .fault

/-! ### The nearest token -/

/-- Of three candidates it does not matter which two are compared first. -/
instance : Std.Associative nearer where
  assoc a b c := by
    cases a <;> cases b <;> cases c <;> simp only [nearer]
    · split <;> rfl
    · rename_i a b c
      by_cases hba : b.2.span.start < a.2.span.start <;>
        by_cases hcb : c.2.span.start < b.2.span.start <;>
        by_cases hca : c.2.span.start < a.2.span.start <;>
        simp only [hba, hcb, hca, if_true, if_false]
      all_goals omega

/-- The first name offers its candidate, against the best one of the others. -/
theorem nearestFrom?_cons (template : Text) (cursor : Nat) (a : Active) (as : List Active) :
    nearestFrom? template cursor (a :: as)
      = nearer (candidate? template cursor a) (nearestFrom? template cursor as) := by
  have hnone : nearer none (candidate? template cursor a)
      = nearer (candidate? template cursor a) none := by
    cases candidate? template cursor a <;> rfl
  rw [nearestFrom?, List.map_cons, List.foldl_cons, hnone, List.foldl_assoc, nearestFrom?]

/-- A token of the rest, where it stands behind a front. -/
def Token.behind (front t : Text) (k : Token) : Occurrence :=
  { span := ⟨front.utf8Size + k.before.utf8Size, (front ++ t).utf8Size - k.rest.utf8Size⟩
    chain := k.chain }

/-- What is located behind a front is the first token of the rest. -/
theorem locate?_append (front t name : Text) :
    locate? (front ++ t) name front.utf8Size = (firstToken? name t).map (Token.behind front t) := by
  simp only [locate?, Text.dropBytes?_append, Option.bind_eq_bind, Option.bind_some]
  cases firstToken? name t <;> rfl

/-- The offset that is found behind a front is that of the first opening of the rest. -/
theorem findOffset?_append (front t name : Text) :
    findOffset? (front ++ t) name front.utf8Size
      = (findOpening? name t).map fun o => front.utf8Size + o.before.utf8Size := by
  simp only [findOffset?, Text.dropBytes?_append, Option.bind_eq_bind, Option.bind_some]
  cases findOpening? name t <;> rfl

/-- Tokens start in the order in which they stand in the rest. -/
theorem start_lt_iff (front : Text) {t : Text} {k k' : Token} {name name' : Text}
    (h : firstToken? name t = some k) (h' : firstToken? name' t = some k') :
    (k.behind front t).span.start < (k'.behind front t).span.start ↔
      k.before.length < k'.before.length := by
  obtain ⟨token, ht, -⟩ := firstToken?_split h
  obtain ⟨token', ht', -⟩ := firstToken?_split h'
  have hcut : k.before ++ (token ++ k.rest) = k'.before ++ (token' ++ k'.rest) := by
    rw [← List.append_assoc, ← List.append_assoc, ← ht, ← ht']
  rw [← Text.utf8Size_lt_iff hcut]
  exact Nat.add_lt_add_iff_left

/-- The nearest occurrence behind a front is the nearest token of the rest. -/
theorem nearestFrom?_eq (front t : Text) (active : List Active) :
    nearestFrom? (front ++ t) front.utf8Size active
      = (nearestToken? t active).map fun best => (best.1, best.2.behind front t) := by
  induction active with
  | nil => rfl
  | cons a as ih =>
    rw [nearestFrom?_cons, ih, candidate?, locate?_append, nearestToken?]
    cases hfirst : firstToken? a.name t with
    | none => cases nearestToken? t as <;> rfl
    | some k =>
      cases hbest : nearestToken? t as with
      | none => rfl
      | some best =>
        obtain ⟨b, -, -, hbfirst⟩ := exists_of_nearestToken? hbest
        simp only [Option.map_some, nearer, start_lt_iff front hbfirst hfirst]
        split <;> rfl

/-! ### Names that stay -/

/-- With the front put aside, the names that are kept are those that stay active. -/
theorem isKept_eq_staysActive (front : Text) {t before r : Text} (ht : t = before ++ r) :
    isKept (front ++ t) front.utf8Size (front ++ before).utf8Size = staysActive t before := by
  funext a
  rw [isKept, locate?_append, Option.isSome_map, findOffset?_append, staysActive, firstToken?]
  cases ho : findOpening? a.name t with
  | none => rfl
  | some o =>
    obtain ⟨word, hsplit, -⟩ := findOpening?_split ho
    have hcut : o.before ++ (word ++ o.after) = before ++ r := by
      rw [← List.append_assoc, ← hsplit, ht]
    -- The opening lies in front of the token in bytes exactly if it does in characters.
    have hle : (front ++ before).utf8Size ≤ front.utf8Size + o.before.utf8Size ↔
        before.length ≤ o.before.length := by
      rw [Text.utf8Size_append, Nat.add_le_add_iff_left, ← Nat.not_lt, ← Nat.not_lt,
        Text.utf8Size_lt_iff hcut]
    cases hchain : readChain o.after <;> simp [hchain, hle]

/-! ### The loop -/

/-- The nearest token begins with a brace. -/
theorem exists_braced_of_nearestToken? {t : Text} {active : List Active} {i : Nat} {k : Token}
    (h : nearestToken? t active = some (i, k)) :
    ∃ inner, t = k.before ++ ('{' :: inner) ++ k.rest := by
  obtain ⟨a, -, -, hfirst⟩ := exists_of_nearestToken? h
  simp only [firstToken?, Option.bind_eq_bind, Option.bind_eq_some_iff, Prod.exists] at hfirst
  obtain ⟨o, ho, chain, rest, hchain, hk⟩ := hfirst
  obtain rfl := Option.some.inj hk
  obtain ⟨token, ht, htoken⟩ := exists_tokenText_of_findOpening? ho hchain
  obtain ⟨inner, rfl⟩ := htoken.eq_braces
  exact ⟨inner ++ ['}'], ht⟩

/-- Where the nearest token stands behind a front. -/
theorem span_behind (front : Text) {t token : Text} {k : Token}
    (ht : t = k.before ++ token ++ k.rest) :
    (k.behind front t).span
      = ⟨(front ++ k.before).utf8Size, (front ++ k.before ++ token).utf8Size⟩ := by
  rw [Token.behind, ← stop_of_round front ht, Text.utf8Size_append front t,
    Text.utf8Size_append front k.before]
  have hle : k.rest.utf8Size ≤ t.utf8Size := by
    rw [ht, Text.utf8Size_append _ k.rest]
    exact Nat.le_add_left _ _
  rw [Nat.add_sub_assoc hle]

/-- A chosen token lies between the cursor and the end of the template. It is not empty, and both
of its ends are cuts between two characters. -/
structure Chosen (template : Text) (cursor : Nat) (span : Span) : Prop where
  cursor_le : cursor ≤ span.start
  start_lt : span.start < span.stop
  stop_le : span.stop ≤ template.utf8Size
  start_boundary : template.IsBoundary span.start
  stop_boundary : template.IsBoundary span.stop

/-- The token that a round chooses from a cut between two characters on. -/
theorem chosen_of_nearestFrom? {template : Text} {cursor : Nat} {active : List Active} {i : Nat}
    {k : Occurrence} (hcursor : template.IsBoundary cursor)
    (h : nearestFrom? template cursor active = some (i, k)) : Chosen template cursor k.span := by
  obtain ⟨front, t, rfl, rfl⟩ := hcursor
  rw [nearestFrom?_eq] at h
  obtain ⟨⟨j, token⟩, hbest, hk⟩ := Option.map_eq_some_iff.1 h
  obtain ⟨-, rfl⟩ := Prod.mk.inj hk
  obtain ⟨inner, ht⟩ := exists_braced_of_nearestToken? hbest
  have hcut := Text.append_cut front ht
  have hstart : (front ++ t).IsBoundary (front ++ token.before).utf8Size :=
    Text.isBoundary_of_append (by rw [hcut, List.append_assoc (front ++ token.before)])
  have hstop : (front ++ t).IsBoundary (front ++ token.before ++ '{' :: inner).utf8Size :=
    Text.isBoundary_of_append hcut
  rw [span_behind front ht]
  refine ⟨?_, ?_, hstop.le_utf8Size, hstart, hstop⟩
  · rw [Text.utf8Size_append]
    exact Nat.le_add_right _ _
  · -- The brace alone takes up a byte.
    have hbrace : 0 < Char.utf8Size '{' := Char.utf8Size_pos _
    simp only [Text.utf8Size_append (front ++ token.before), Text.utf8Size]
    omega

section
variable (registry : Registry) (texts : List Text) (encode : Bool)

/-- The states of the loop: the template can be cut at the cursor, and there is a text for each
active name. -/
def Splice.Valid (template : Text) (s : Splice) : Prop :=
  template.IsBoundary s.cursor ∧ ∀ a ∈ s.active, a.index < texts.length

/-- The braces behind the cursor. -/
def Splice.left (template : Text) (s : Splice) : Nat := (template.behind s.cursor).count '{'

/-- What the loop is going to write: what is written, and the pieces of the rest. -/
def Splice.value (template : Text) (s : Splice) : Text :=
  s.written ++
    (planFrom (template.behind s.cursor) s.active).flatMap (fillPiece registry encode texts)

/-- One round of the loop is one round of the plan. -/
theorem spliceTurn_sound (template : Text) :
    Loop.Sound (spliceTurn registry template texts encode) (Splice.Valid texts template)
      (Splice.left template) (Splice.value registry texts encode template) := by
  rintro ⟨cursor, active, written⟩ ⟨⟨front, t, rfl, rfl⟩, htexts⟩
  unfold spliceTurn
  simp only [nearestFrom?_eq, Text.dropBytes?_append]
  cases hbest : nearestToken? t active with
  | none =>
    -- The last round copies what is behind the cursor, and that is all the plan has left.
    simp only [Option.map_none, Loop.SoundTurn, Splice.value, Text.behind_append,
      planFrom_of_nearestToken?_eq_none hbest, List.flatMap_cons, List.flatMap_nil, fillPiece,
      List.append_nil]
  | some best =>
    obtain ⟨i, k⟩ := best
    obtain ⟨inner, ht⟩ := exists_braced_of_nearestToken? hbest
    obtain ⟨a, ha, rfl, -⟩ := exists_of_nearestToken? hbest
    have hcut := Text.append_cut front ht
    -- The bytes copied, the text behind the token and the names that are kept are the plan's.
    have hslice : (front ++ t).sliceBytes? front.utf8Size (front ++ k.before).utf8Size
        = some k.before := by
      rw [hcut, List.append_assoc (front ++ k.before)]
      exact Text.sliceBytes?_append front k.before _
    have hrest : (front ++ t).behind (front ++ k.before ++ '{' :: inner).utf8Size = k.rest :=
      Text.behind_of_append hcut
    have hkept : isKept (front ++ t) front.utf8Size (front ++ k.before).utf8Size
        = staysActive t k.before :=
      isKept_eq_staysActive front (by rw [ht, List.append_assoc])
    simp only [Option.map_some, span_behind front ht, hslice, hkept,
      List.getElem?_eq_getElem (htexts a ha), Loop.SoundTurn]
    refine ⟨⟨Text.isBoundary_of_append hcut, ?_⟩, ?_, ?_⟩
    · exact fun b hb => htexts b (List.mem_filter.1 hb).1
    · -- The brace of the token is not behind it any more.
      simp only [Splice.left, hrest, Text.behind_append]
      rw [ht]
      simp only [List.count_append, List.count_cons_self]
      omega
    · simp only [Splice.value, hrest, Text.behind_append, planFrom_of_nearestToken? hbest,
        List.flatMap_cons, fillPiece, Token.behind, List.getD_eq_getElem?_getD,
        List.getElem?_eq_getElem (htexts a ha), Option.getD_some]
      simp only [List.append_assoc]

end

/-- Where the loop starts: nothing is done, and all names are looked for. -/
def Splice.start (names : List Text) : Splice := ⟨0, allActive names, []⟩

/-- At the start there is a text for each name. -/
theorem Splice.start_valid (template : Text) (values : List (Text × Text)) :
    Splice.Valid (values.map fun v => Text.trimSelection v.2) template
      (.start (values.map Prod.fst)) := by
  refine ⟨⟨[], template, rfl, rfl⟩, fun a ha => ?_⟩
  obtain ⟨hlt, -⟩ := List.getElem?_eq_some_iff.1 (getElem?_of_mem_allActive ha)
  simpa using hlt

end SearchLink.Template
