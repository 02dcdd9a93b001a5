import SearchLink.Template.Apply

/-!
# `SearchLink.Proofs.Template.PatternFlags`: what the flags of a pattern say

Flags are read letter by letter, and a letter that is unknown or has come before ends the
reading. `addFlag?_eq_some_iff` is one step of the reader and `readFlagsFrom?_eq_some_iff` a whole
run: it succeeds on known letters without repetition and on nothing else. What it has read then
depends on which of `i`, `m` and `s` are among them (`addLetters`), and not on their order or on
the other letters.

`pattern_flags` says what this means for the two modifications with a pattern. A refusal leaves
the text alone, however late in the flags its reason stands.
-/

set_option autoImplicit false

namespace SearchLink.Template

/-- The letters that are flags. -/
def flagLetters : Text := ['g', 'i', 'm', 's', 'u', 'd', 'v']

/-- Flags, and what some letters say beyond them. -/
def addLetters (flags : Regex.Flags) (letters : Text) : Regex.Flags :=
  { flags with
    caseInsensitive := flags.caseInsensitive || letters.contains 'i'
    multiLine := flags.multiLine || letters.contains 'm'
    dotAll := flags.dotAll || letters.contains 's' }

/-! ### Reading flags -/

section
variable {flags read : Regex.Flags} {c : Char} {seen letters : Text}

/-- No letters say nothing. -/
theorem addLetters_nil (flags : Regex.Flags) : addLetters flags [] = flags := by
  simp [addLetters]

/-- Letters can be added one by one. -/
theorem addLetters_cons (flags : Regex.Flags) (c : Char) (letters : Text) :
    addLetters (addLetters flags [c]) letters = addLetters flags (c :: letters) := by
  simp [addLetters, Bool.or_assoc]

/-- One step of the reader takes a letter that is a flag. -/
theorem addFlag?_eq_some_iff :
    addFlag? flags c = some read ↔ c ∈ flagLetters ∧ read = addLetters flags [c] := by
  by_cases hc : c ∈ flagLetters
  · simp only [flagLetters, List.mem_cons, List.not_mem_nil, or_false] at hc
    rcases hc with rfl | rfl | rfl | rfl | rfl | rfl | rfl <;>
      simp [addFlag?, addLetters, flagLetters] <;> exact eq_comm
  · have hother := hc
    simp only [flagLetters, List.mem_cons, List.not_mem_nil, or_false, not_or] at hother
    simp [addFlag?, hc, hother]

/-- The letters behind one that has been seen are fresh if they were and do not repeat it. -/
theorem forall_notMem_append_singleton :
    (∀ d ∈ letters, d ∉ seen ++ [c]) ↔ c ∉ letters ∧ ∀ d ∈ letters, d ∉ seen := by
  simp only [List.mem_append, List.mem_singleton, not_or]
  constructor
  · intro h
    exact ⟨fun hc => (h c hc).2 rfl, fun d hd => (h d hd).1⟩
  · rintro ⟨hc, h⟩ d hd
    refine ⟨h d hd, ?_⟩
    rintro rfl
    exact hc hd

/-- A run of the reader takes known letters, each once and none of those in front. -/
theorem readFlagsFrom?_eq_some_iff :
    readFlagsFrom? seen flags letters = some read ↔
      (letters.Nodup ∧ (∀ c ∈ letters, c ∉ seen) ∧ ∀ c ∈ letters, c ∈ flagLetters) ∧
        read = addLetters flags letters := by
  induction letters generalizing seen flags with
  | nil => simp [readFlagsFrom?, addLetters_nil, eq_comm]
  | cons c letters ih =>
    rw [readFlagsFrom?]
    by_cases hseen : c ∈ seen
    · simp [hseen]
    · -- The step for `c` first, then the run behind it, for which `c` has been seen too.
      simp only [List.contains_eq_mem, hseen, decide_false, Bool.false_eq_true, if_false,
        Option.bind_eq_some_iff, addFlag?_eq_some_iff, ih, forall_notMem_append_singleton,
        List.nodup_cons, List.forall_mem_cons, not_false_eq_true, true_and]
      constructor
      · rintro ⟨_, ⟨hc, rfl⟩, ⟨hnodup, ⟨hnot, hfresh⟩, hknown⟩, hread⟩
        exact ⟨⟨⟨hnot, hnodup⟩, hfresh, hc, hknown⟩, hread.trans (addLetters_cons _ _ _)⟩
      · rintro ⟨⟨⟨hnot, hnodup⟩, hfresh, hc, hknown⟩, hread⟩
        exact ⟨_, ⟨hc, rfl⟩, ⟨hnodup, ⟨hnot, hfresh⟩, hknown⟩,
          hread.trans (addLetters_cons _ _ _).symm⟩

/-- Known letters without repetition are read. -/
theorem readFlags?_of_known (hnodup : letters.Nodup) (hknown : ∀ c ∈ letters, c ∈ flagLetters) :
    readFlags? letters = some (addLetters {} letters) :=
  readFlagsFrom?_eq_some_iff.2 ⟨⟨hnodup, fun _ _ => List.not_mem_nil, hknown⟩, rfl⟩

/-- All other texts are refused. -/
theorem readFlags?_eq_none (h : ¬ letters.Nodup ∨ ∃ c ∈ letters, c ∉ flagLetters) :
    readFlags? letters = none := by
  rw [Option.eq_none_iff_forall_not_mem]
  intro read hread
  obtain ⟨⟨hnodup, -, hknown⟩, -⟩ := readFlagsFrom?_eq_some_iff.1 hread
  rcases h with h | ⟨c, hc, hunknown⟩
  · exact h hnodup
  · exact hunknown (hknown c hc)

end

/-! ### Patterns with flags -/

/-- Without repetition and unknown letters the flags of a pattern are the three that say
something. -/
theorem compilePattern?_of_known {source letters : Text} (hnodup : letters.Nodup)
    (hknown : ∀ c ∈ letters, c ∈ flagLetters) :
    compilePattern? source letters
      = Regex.compile?
          { caseInsensitive := letters.contains 'i'
            multiLine := letters.contains 'm'
            dotAll := letters.contains 's' }
          (narrowShorthands false source) := by
  rw [compilePattern?, readFlags?_of_known hnodup hknown, Option.bind_some]
  rfl

/-- **The flags of a pattern.** A repeated or unknown letter among them makes both modifications
with a pattern leave the text as it is, whatever the source. All other flags compile the source
with the options that `i`, `m` and `s` stand for, so that two texts of flags which agree on these
three letters mean the same to both modifications. -/
theorem pattern_flags (registry : Registry) (source target t : Text) :
    (∀ flags : Text, (¬ flags.Nodup ∨ ∃ c ∈ flags, c ∉ flagLetters) →
      Modification.apply registry t (.regexReplacement source flags target) = t ∧
        Modification.apply registry t (.regexMatch source flags) = t) ∧
    (∀ flags : Text, flags.Nodup → (∀ c ∈ flags, c ∈ flagLetters) →
      compilePattern? source flags
        = Regex.compile?
            { caseInsensitive := flags.contains 'i'
              multiLine := flags.contains 'm'
              dotAll := flags.contains 's' }
            (narrowShorthands false source)) ∧
    ∀ flags flags' : Text, flags.Nodup → (∀ c ∈ flags, c ∈ flagLetters) →
      flags'.Nodup → (∀ c ∈ flags', c ∈ flagLetters) →
      (∀ c ∈ ['i', 'm', 's'], c ∈ flags ↔ c ∈ flags') →
      Modification.apply registry t (.regexReplacement source flags target)
          = Modification.apply registry t (.regexReplacement source flags' target) ∧
        Modification.apply registry t (.regexMatch source flags)
          = Modification.apply registry t (.regexMatch source flags') := by
  refine ⟨fun flags hrefused => ?_, fun flags => compilePattern?_of_known,
    fun flags flags' hnodup hknown hnodup' hknown' hsame => ?_⟩
  · have hnone : compilePattern? source flags = none := by
      rw [compilePattern?, readFlags?_eq_none hrefused, Option.bind_none]
    simp only [Modification.apply, replacePattern, matchPattern, hnone, and_self]
  · have hpattern : compilePattern? source flags = compilePattern? source flags' := by
      rw [compilePattern?_of_known hnodup hknown, compilePattern?_of_known hnodup' hknown']
      simp [hsame]
    simp only [Modification.apply, replacePattern, matchPattern, hpattern, and_self]

/-- A repetition at the end undoes what the letters in front have said, and an order is as good as
another. -/
theorem pattern_flags_orders :
    Modification.apply Registry.standard "aAb".toList (.regexMatch ['a'] "igi".toList)
        = "aAb".toList ∧
      Modification.apply Registry.standard "aAb".toList (.regexMatch ['a'] "vigs".toList)
        = "aA".toList ∧
      Modification.apply Registry.standard "aAb".toList (.regexMatch ['a'] "sdi".toList)
        = "aA".toList := by
  obtain ⟨hrefused, -, hsame⟩ := pattern_flags Registry.standard ['a'] [] "aAb".toList
  have hrepeated := (hrefused "igi".toList (.inl (by decide))).2
  have hequal := (hsame "vigs".toList "sdi".toList (by decide) (by simp [flagLetters])
    (by decide) (by simp [flagLetters]) (by simp)).2
  have hmatch : Modification.apply Registry.standard "aAb".toList
      (.regexMatch ['a'] "sdi".toList) = "aA".toList := by decide +kernel
  exact ⟨hrepeated, hequal.trans hmatch, hmatch⟩

end SearchLink.Template
