import SearchLink.Proofs.Regex.Succession
import SearchLink.Proofs.Template.TargetReading

/-!
# `SearchLink.Proofs.Template.MatchCut`: one cut of a text for all modifications with a pattern

A pattern that compiles cuts a text into gaps and matches. Keeping the matches and replacing them
use the same cut, whatever the target, so that what stands outside of the matches stays.

* `framed_of_compilePattern?`: the programs that are run are those that `isPlace_search` is about.
* `targetReading_wholeMatch`: the target `$&` has one part, the whole match.
* `match_and_replacement_share_cut` puts this together with `joined_segments`.
-/

set_option autoImplicit false

namespace SearchLink.Template

open SearchLink.Regex (Cursor Segment segmentsFrom)

/-- A compiled pattern runs the program of its expression. -/
theorem framed_of_compilePattern? {source flags : Text} {re : Regex}
    (h : compilePattern? source flags = some re) : re.program.Framed := by
  obtain ⟨f, -, hcompile⟩ := Option.bind_eq_some_iff.1 h
  obtain ⟨e, -, hfits⟩ := Option.bind_eq_some_iff.1 hcompile
  split at hfits
  · obtain rfl := Option.some.inj hfits
    exact e.framed_program
  · simp at hfits

/-- The target `$&` is read as the whole match. -/
theorem targetReading_wholeMatch (groups : Nat) (named : Bool) :
    TargetReading groups named ['$', '&'] [.whole] :=
  .reference .whole .nil

/-- **One cut for matches and replacements.** For a pattern that compiles, every text is cut into
gaps and matches in one way, so that each match is the next one behind the match before. Put
together again they are the text. A replacement keeps the gaps and puts in, for each match, what
the parts of its target say. Keeping the matches leaves them alone, or the text where there are
none. So the target `$&` changes nothing, and an empty target leaves the gaps. -/
theorem match_and_replacement_share_cut {source flags : Text} {re : Regex}
    (hre : compilePattern? source flags = some re) (t : Text) :
    ∃ (segments : List Segment) (tail : Text),
      (∃ found, re.program.Successive (Cursor.ofText t) none found ∧
        (∀ found', re.program.Successive (Cursor.ofText t) none found' → found' = found) ∧
        segmentsFrom t 0 found = (segments, tail)) ∧
      (segments.flatMap fun s => s.gap ++ s.whole) ++ tail = t ∧
      (∀ target, ∃ parts, TargetReading re.groupCount re.hasNamedGroup target parts ∧
        ∀ registry, Modification.apply registry t (.regexReplacement source flags target)
          = (segments.flatMap fun s => s.gap ++ parts.flatMap (TargetPart.inserted re s)) ++
              tail) ∧
      (∀ registry, Modification.apply registry t (.regexMatch source flags)
        = if segments = [] then t else segments.flatMap Segment.whole) ∧
      (∀ registry, Modification.apply registry t (.regexReplacement source flags ['$', '&']) = t) ∧
      ∀ registry, Modification.apply registry t (.regexReplacement source flags [])
        = segments.flatMap Segment.gap ++ tail := by
  have hframed := framed_of_compilePattern? hre
  have hjoined : ((re.segments t).1.flatMap fun s => s.gap ++ s.whole) ++ (re.segments t).2 = t :=
    Regex.joined_segments hframed t
  have hfound := Regex.successive_matches hframed t
  refine ⟨(re.segments t).1, (re.segments t).2,
    ⟨re.program.matches t, hfound, fun _ h => h.unique hfound, rfl⟩, hjoined, fun target => ?_,
    fun registry => ?_, fun registry => ?_, fun registry => ?_⟩
  · obtain ⟨parts, hparts⟩ := exists_targetReading re.groupCount re.hasNamedGroup target
    exact ⟨parts, hparts, fun registry => apply_regexReplacement hre hparts registry t⟩
  · simp only [Modification.apply, matchPattern, hre, Regex.keepMatches, List.isEmpty_iff]
  -- The targets `$&` and the empty one are cases of the third clause.
  · have hwhole : ∀ s, [TargetPart.whole].flatMap (TargetPart.inserted re s) = s.whole :=
      fun s => List.flatMap_singleton _ _
    rw [apply_regexReplacement hre (targetReading_wholeMatch _ _)]
    simp only [hwhole, hjoined]
  · rw [apply_regexReplacement hre .nil]
    simp only [List.flatMap_nil, List.append_nil]

/-- Empty matches count where no match has just stopped: in front of the first character and at the
end, but not behind the two letters. -/
theorem match_and_replacement_share_cut_of_star :
    let t := "éaab".toList
    ∃ re segments tail parts, compilePattern? "a*".toList ['g'] = some re ∧
      (segments.flatMap fun s => s.gap ++ s.whole) ++ tail = t ∧
      (if segments = [] then t else segments.flatMap Segment.whole) = "aa".toList ∧
      segments.flatMap Segment.gap ++ tail = "éb".toList ∧
      TargetReading re.groupCount re.hasNamedGroup "<$&>".toList parts ∧
      (segments.flatMap fun s => s.gap ++ parts.flatMap (TargetPart.inserted re s)) ++ tail
        = "<>é<aa>b<>".toList := by
  intro t
  obtain ⟨re, hre⟩ : ∃ re, compilePattern? "a*".toList ['g'] = some re :=
    Option.isSome_iff_exists.1 (by decide +kernel)
  obtain ⟨segments, tail, -, hjoined, hreplace, hkeep, -, hgaps⟩ :=
    match_and_replacement_share_cut hre t
  obtain ⟨parts, hparts, hmarked⟩ := hreplace "<$&>".toList
  refine ⟨re, segments, tail, parts, hre, hjoined, ?_, ?_, hparts, ?_⟩
  · rw [← hkeep Registry.standard]
    decide +kernel
  · rw [← hgaps Registry.standard]
    decide +kernel
  · rw [← hmarked Registry.standard]
    decide +kernel

end SearchLink.Template
