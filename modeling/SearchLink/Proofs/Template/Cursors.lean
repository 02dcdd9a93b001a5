import SearchLink.Proofs.Template.ChainScan
import SearchLink.Proofs.Template.LintWalk
import SearchLink.Proofs.Template.SpliceLoop

/-!
# `SearchLink.Proofs.Template.Cursors`: cursors stay inside the template

Three loops go through a template by byte offsets: the one that fills it in (`spliceTurn`), the
one that reads the chain of a token (`scanTurn`) and the one that looks for a malformed token
(`lintTurn`, here). For any template and any names, `cursors_stay_inside` says of all three that
their offsets are cuts between two characters, that no turn looks anywhere else, and that they
end, with what the library's functions by recursion on the text give.

The linter takes its cursor from two places. Behind a well-formed token it is the end of the
span. At an opening that a longer name shadows it is one byte further on, and that is a cut
because only a brace is the same letter as the brace (`eq_brace_of_sameLetter`), and a brace takes
up one byte.
-/

set_option autoImplicit false

namespace SearchLink.Template

/-! ### The linter -/

/-- Whether a token of a longer known name is located at an offset. -/
def isShadowedAt (known : List Text) (name template : Text) (start : Nat) : Bool :=
  known.any fun other =>
    name.utf8Size < other.utf8Size &&
      Text.startsWith (Unicode.asciiLower name) (Unicode.asciiLower other) &&
      (locate? template other start).any fun k => k.span.start = start

/-- One turn: the linter goes on behind the next token of the name, or behind its brace where the
name is shadowed. -/
def lintTurn (known : List Text) (name template : Text) (cursor : Nat) :
    Turn Nat (Option Nat) :=
  match findOffset? template name cursor with
  | none => .done none
  | some start =>
    match locate? template name start with
    | some k => .next k.span.stop
    | none =>
      if isShadowedAt known name template start then .next (start + 1) else .done (some start)

/-- With the front put aside, a name is shadowed where the rest begins. -/
theorem isShadowedAt_append (known : List Text) (name front t : Text) :
    isShadowedAt known name (front ++ t) front.utf8Size = isShadowed known name t := by
  unfold isShadowedAt isShadowed
  congr 1
  funext other
  congr 1
  rw [locate?_append]
  cases hfirst : firstToken? other t with
  | none => rfl
  | some k =>
    -- The token starts where the rest begins if nothing stands in front of it.
    simp only [Option.map_some, Option.any_some, Token.behind, Nat.add_eq_left,
      Text.utf8Size_eq_zero_iff]
    cases k.before <;> rfl

/-- An opening begins with the brace itself. -/
theorem exists_brace_of_findOpening? {name t : Text} {o : Opening}
    (h : findOpening? name t = some o) : ∃ r, t = o.before ++ '{' :: r := by
  obtain ⟨word, ht, hword⟩ := findOpening?_split h
  cases hword with
  | @cons c _ word _ hsame _ =>
    obtain rfl := eq_brace_of_sameLetter hsame
    exact ⟨word ++ o.after, by rw [ht, List.append_assoc, List.cons_append]⟩

/-- A turn over a part of the rest with a brace in it is sound if the walk goes on behind it. -/
theorem soundTurn_lint {known : List Text} {name front t part rest : Text} (ht : t = part ++ rest)
    (hbrace : '{' ∈ part)
    (hwalk : firstMalformedFrom known name t front.utf8Size
      = firstMalformedFrom known name rest (front ++ part).utf8Size) :
    Loop.SoundTurn (front ++ t).IsBoundary (fun cursor => ((front ++ t).behind cursor).count '{')
      (fun cursor => firstMalformedFrom known name ((front ++ t).behind cursor) cursor)
      front.utf8Size (.next (front ++ part).utf8Size) := by
  have hcut : front ++ t = (front ++ part) ++ rest := by rw [ht, List.append_assoc]
  have hrest : (front ++ t).behind (front ++ part).utf8Size = rest := Text.behind_of_append hcut
  have hcount : 0 < part.count '{' := List.count_pos_iff.2 hbrace
  refine ⟨Text.isBoundary_of_append hcut, ?_, ?_⟩
  · dsimp only
    rw [hrest, Text.behind_append, ht, List.count_append]
    omega
  · simp only [hrest, Text.behind_append, hwalk]

/-- Every turn of the linter is sound. What is left are the braces behind the cursor. -/
theorem lintTurn_sound (known : List Text) (name template : Text) :
    Loop.Sound (lintTurn known name template) template.IsBoundary
      (fun cursor => (template.behind cursor).count '{')
      (fun cursor => firstMalformedFrom known name (template.behind cursor) cursor) := by
  rintro cursor ⟨front, t, rfl, rfl⟩
  rw [lintTurn, findOffset?_append]
  cases ho : findOpening? name t with
  | none =>
    simp only [Option.map_none, Loop.SoundTurn, Text.behind_append, firstMalformedFrom_of_none ho]
  | some o =>
    simp only [Option.map_some, ← Text.utf8Size_append, locate?_at_opening front ho]
    obtain ⟨r, hopening⟩ := exists_brace_of_findOpening? ho
    cases hchain : readChain o.after with
    | some p =>
      -- The turn goes on behind the token that opens here.
      obtain ⟨chain, rest⟩ := p
      obtain ⟨token, ht, htoken⟩ := exists_tokenText_of_findOpening? ho hchain
      obtain ⟨inner, hinner⟩ := htoken.eq_braces
      have hstop : (front ++ t).utf8Size - rest.utf8Size = (front ++ o.before ++ token).utf8Size :=
        congrArg Span.stop (span_behind front (k := ⟨o.before, chain, rest⟩) ht)
      rw [Option.map_some, hstop, List.append_assoc]
      refine soundTurn_lint ht (by simp [hinner]) ?_
      rw [firstMalformedFrom_of_readChain ho hchain,
        stop_of_round front (k := ⟨o.before, chain, rest⟩) ht, List.append_assoc]
    | none =>
      -- The turn goes on behind the brace of the opening, or ends at it.
      have hdrop : t.drop o.before.length = '{' :: r := by rw [hopening, List.drop_left]
      have hshadow : isShadowedAt known name (front ++ t) (front ++ o.before).utf8Size
          = isShadowed known name (t.drop o.before.length) := by
        rw [← isShadowedAt_append known name (front ++ o.before), hdrop, List.append_assoc,
          ← hopening]
      rw [Option.map_none, hshadow]
      dsimp only
      split
      · rename_i hshadowed
        have hnext : (front ++ o.before).utf8Size + 1
            = (front ++ (o.before ++ ['{'])).utf8Size := by
          rw [← List.append_assoc, Text.utf8Size_append (front ++ o.before)]
          rfl
        have hrest : t.drop (o.before.length + 1) = r := by
          rw [← List.drop_drop, hdrop, List.drop_one, List.tail_cons]
        rw [hnext]
        refine soundTurn_lint (by rw [hopening, List.append_assoc, List.singleton_append])
          (by simp) ?_
        rw [firstMalformedFrom_of_malformed ho hchain, if_pos hshadowed, hrest, ← hnext,
          Text.utf8Size_append]
      · rename_i hclear
        simp only [Loop.SoundTurn, Text.behind_append]
        rw [firstMalformedFrom_of_malformed ho hchain, if_neg hclear, Text.utf8Size_append]

/-! ### The chain of a token -/

/-- Where a name stands first, its token is what the machine reads behind the name. -/
theorem locate?_eq_of_firstOpensAt {template name : Text} {start s a : Nat}
    (h : FirstOpensAt template name start s a) :
    template.IsBoundary a ∧
      locate? template name start
        = (Scan.value template (.start a)).map fun p => ⟨⟨s, p.1⟩, p.2⟩ := by
  obtain ⟨front, t, word, o, rfl, rfl, ho, ht, -, rfl, rfl⟩ := firstOpensAt_iff.1 h
  have hcut : front ++ t = (front ++ o.before ++ word) ++ o.after := Text.append_cut front ht
  have hpos : front.utf8Size + o.before.utf8Size + word.utf8Size
      = (front ++ o.before ++ word).utf8Size := by
    simp only [Text.utf8Size_append]
  have hrest : (front ++ t).behind (front ++ o.before ++ word).utf8Size = o.after :=
    Text.behind_of_append hcut
  rw [hpos]
  refine ⟨Text.isBoundary_of_append hcut, ?_⟩
  simp only [locate?_append, firstToken?, ho, Scan.value, Scan.start, readOn, hrest,
    Option.bind_eq_bind, Option.bind_some]
  cases readChain o.after <;> rfl

/-! ### All loops -/

/-- Of two cuts the one with fewer places of a character behind it is further on. -/
theorem lt_of_count_behind_lt {t : Text} {c : Char} {m n : Nat} (hm : t.IsBoundary m)
    (hn : t.IsBoundary n) (h : (t.behind n).count c < (t.behind m).count c) : m < n := by
  by_contra hle
  obtain ⟨between, hbehind, -⟩ := Text.behind_eq_append hn hm (Nat.le_of_not_lt hle)
  rw [hbehind, List.count_append] at h
  omega

section
variable (template : Text)

/-- From each of its states the loop goes on with a cursor further on, behind a token that lies
between the two, or it ends. -/
structure Splice.Advances (turn : Splice → Turn Splice Text) (s : Splice) : Prop where
  boundary : template.IsBoundary s.cursor
  ne_fault : turn s ≠ .fault
  chosen : ∀ i k, nearestFrom? template s.cursor s.active = some (i, k) →
    Chosen template s.cursor k.span
  lt_of_next : ∀ s', turn s = .next s' → s.cursor < s'.cursor

/-- The machine stands between two characters. It goes on further in the template, or where it is
if it stands behind an opening brace. -/
structure Scan.Advances (s : Scan) : Prop where
  boundary : template.IsBoundary s.pos
  le_size : s.pos ≤ template.utf8Size
  ne_fault : scanTurn template s ≠ .fault
  lt_of_next : ∀ s', scanTurn template s = .next s' →
    s.pos < s'.pos ∨ s.reading = .braces ∧ s'.pos = s.pos

/-- The linter goes on from one cut between two characters to another one further on. -/
structure LintAdvances (turn : Nat → Turn Nat (Option Nat)) (cursor : Nat) : Prop where
  boundary : template.IsBoundary cursor
  ne_fault : turn cursor ≠ .fault
  of_next : ∀ cursor', turn cursor = .next cursor' → cursor < cursor' ∧ template.IsBoundary cursor'

variable {template}

/-- Every round of the loop that fills in a template advances. -/
theorem Splice.advances {registry : Registry} {texts : List Text} {encode : Bool} {s : Splice}
    (h : s.Valid texts template) :
    s.Advances template (spliceTurn registry template texts encode) := by
  have hsound := spliceTurn_sound registry texts encode template
  refine ⟨h.1, hsound.ne_fault h, fun i k hk => chosen_of_nearestFrom? h.1 hk, fun s' hnext => ?_⟩
  have hnext' := hsound.inv_of_next h hnext
  exact lt_of_count_behind_lt h.1 hnext'.1 (hsound.left_lt_of_next h hnext)

/-- Every turn of the machine advances. -/
theorem Scan.advances {s : Scan} (h : template.IsBoundary s.pos) : s.Advances template := by
  have hsound := scanTurn_sound template
  refine ⟨h, h.le_utf8Size, hsound.ne_fault h, fun s' hnext => ?_⟩
  have hnext' : template.IsBoundary s'.pos := hsound.inv_of_next h hnext
  have hless := hsound.left_lt_of_next h hnext
  simp only [Scan.left] at hless
  by_cases hlt : s.pos < s'.pos
  · exact .inl hlt
  · -- The rest is no shorter, so what is less is the turn without a character.
    obtain ⟨between, hbehind, hsize⟩ := Text.behind_eq_append hnext' h (Nat.le_of_not_lt hlt)
    have hidle := s.reading.idle_le
    rw [hbehind, List.length_append] at hless
    have hnil : between = [] := List.eq_nil_of_length_eq_zero (by omega)
    subst hnil
    refine .inr ⟨?_, hsize⟩
    have hbraces : 0 < s.reading.idle := by
      simp only [List.length_nil] at hless
      omega
    cases hreading : s.reading <;> simp_all [Reading.idle]

/-- Every turn of the linter advances. -/
theorem lintAdvances {known : List Text} {name : Text} {cursor : Nat}
    (h : template.IsBoundary cursor) :
    LintAdvances template (lintTurn known name template) cursor := by
  have hsound := lintTurn_sound known name template
  refine ⟨h, hsound.ne_fault h, fun cursor' hnext => ?_⟩
  have hnext' := hsound.inv_of_next h hnext
  exact ⟨lt_of_count_behind_lt h hnext' (hsound.left_lt_of_next h hnext), hnext'⟩

end

/-- **Cursors stay inside the template, and all three loops end.** Take any template and any
names. In every round of the loop that fills in the template the cursor is a cut between two
characters, the token that is chosen lies between the cursor and the end of the template, and the
next cursor is further on. No round faults, and there are no more rounds than braces and one. The
same holds of the machine behind the name of a token, which may take one turn behind each opening
brace without a character, and of the linter, for any name and any names that it knows. Each loop
ends with what the library gives for the template. -/
theorem cursors_stay_inside (registry : Registry) (template : Text) (values : List (Text × Text))
    (encode : Bool) :
    (let texts := values.map fun v => Text.trimSelection v.2
      let turn := spliceTurn registry template texts encode
      let start := Splice.start (values.map Prod.fst)
      (∀ s, Loop.Reaches turn start s → s.Advances template turn) ∧
      ∃ n ≤ template.count '{' + 1,
        Loop.Ends turn start n (substituteAll registry template values encode)) ∧
    (∀ name offset s a, FirstOpensAt template name offset s a →
      (∀ scan, Loop.Reaches (scanTurn template) (.start a) scan → scan.Advances template) ∧
      ∃ n ≤ 2 * (template.behind a).length + 1, ∃ result,
        Loop.Ends (scanTurn template) (.start a) n result ∧
        locate? template name offset = result.map fun p => ⟨⟨s, p.1⟩, p.2⟩) ∧
    ∀ known name,
      (∀ cursor, Loop.Reaches (lintTurn known name template) 0 cursor →
        LintAdvances template (lintTurn known name template) cursor) ∧
      ∃ n ≤ template.count '{' + 1,
        Loop.Ends (lintTurn known name template) 0 n
          (firstMalformedFrom known name template 0) := by
  have hstart : template.IsBoundary 0 := ⟨[], template, rfl, rfl⟩
  refine ⟨?_, ?_, ?_⟩
  · intro texts turn start
    have hsound := spliceTurn_sound registry texts encode template
    have hvalid := Splice.start_valid template values
    have hends := hsound.ends hvalid
    simp only [Splice.left, Splice.value, Splice.start, Text.behind_zero, List.nil_append] at hends
    exact ⟨fun s hs => Splice.advances (hsound.inv_of_reaches hvalid hs), hends⟩
  · intro name offset s a hopens
    have hsound := scanTurn_sound template
    obtain ⟨ha, hlocate⟩ := locate?_eq_of_firstOpensAt hopens
    obtain ⟨n, hn, hends⟩ := hsound.ends (s := .start a) ha
    exact ⟨fun scan hscan => Scan.advances (hsound.inv_of_reaches (s := .start a) ha hscan),
      n, hn, _, hends, hlocate⟩
  · intro known name
    have hsound := lintTurn_sound known name template
    have hends := hsound.ends hstart
    simp only [Text.behind_zero] at hends
    exact ⟨fun cursor hcursor => lintAdvances (hsound.inv_of_reaches hstart hcursor), hends⟩

/-- The names `k`, the empty one and `{k` in `é{{k}{K}`, where the last letter is the sign of the
kelvin. The third name takes the token at byte 2, the first one that at byte 6, and the empty name
has none. The linter goes on from byte 2, where the third name shadows the empty one, to byte 3,
between the two braces. -/
theorem cursors_stay_inside_nested :
    let template : Text := "é\x7b\x7bk\x7d\x7b\u212a\x7d".toList
    let names : List Text := [['k'], [], ['{', 'k']]
    (∃ n ≤ 4, Loop.Ends (spliceTurn .standard template [['v'], ['w'], ['u']] false) (.start names) n
      "éuv".toList) ∧
    FirstOpensAt template ['k'] 6 6 10 ∧
    (∃ n ≤ 3, Loop.Ends (scanTurn template) (.start 10) n (some (11, []))) ∧
    lintTurn names [] template 0 = .next 3 ∧ 0 < 3 ∧ template.IsBoundary 3 := by
  intro template names
  obtain ⟨⟨-, hsplice⟩, hscan, hlint⟩ :=
    cursors_stay_inside .standard template (names.zip [['v'], ['w'], ['u']]) false
  have hfilled : substituteAll .standard template (names.zip [['v'], ['w'], ['u']]) false
      = "éuv".toList := by
    decide +kernel
  have hopens : FirstOpensAt template ['k'] 6 6 10 :=
    firstOpensAt_iff.2 ⟨"é\x7b\x7bk\x7d".toList, "\x7b\u212a\x7d".toList, "\x7b\u212a".toList,
      ⟨[], ['}']⟩, rfl, rfl, by decide +kernel, rfl,
      .cons (by decide +kernel) (.cons (by decide +kernel) .nil), rfl, rfl⟩
  have hnext : lintTurn names [] template 0 = .next 3 := by decide +kernel
  have hlocate : locate? template ['k'] 6 = some ⟨⟨6, 11⟩, []⟩ := by decide +kernel
  rw [hfilled] at hsplice
  refine ⟨hsplice, hopens, ?_, hnext, ((hlint names []).1 0 .refl).of_next 3 hnext⟩
  obtain ⟨-, n, hn, result, hends, hresult⟩ := hscan ['k'] 6 6 10 hopens
  rw [hlocate] at hresult
  obtain ⟨⟨stop, chain⟩, rfl, hk⟩ := Option.map_eq_some_iff.1 hresult.symm
  simp only [Occurrence.mk.injEq, Span.mk.injEq, true_and] at hk
  obtain ⟨rfl, rfl⟩ := hk
  exact ⟨n, hn, hends⟩

end SearchLink.Template
