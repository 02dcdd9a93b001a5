import SearchLink.Proofs.Template.LiteralPattern
import SearchLink.Proofs.Template.PatternFlags
import SearchLink.Proofs.Template.SlicePlaces

/-!
# `SearchLink.Proofs.Template.ChainSteps`: which steps of a chain count

A chain hands a text from step to step. A step can be written in a template and still have no
effect on any text: its pattern does not compile, its function is not registered, it looks for
the empty text, or its slice has no bounds. `Ineffective` lists these four reasons, and `Refused`
says of the first one what is wrong with a pattern: its flags, or its source under them.

* `refused_iff`: these are the patterns that do not compile.
* `Ineffective.apply_eq`: an ineffective step gives back every text.
* `Chain.apply_filter` and `Chain.stages_filter`: steps that give back every text can be left out
  of a chain. The result stays, and so does the text that each of the other steps is given.

`ineffective_steps_isolated` puts this together.
-/

set_option autoImplicit false

namespace SearchLink.Template

/-! ### Chains of steps -/

/-- The steps of a chain, each with the text that it is given. -/
def Chain.stages (registry : Registry) : Chain → Text → List (Modification × Text)
  | [], _ => []
  | m :: chain, t => (m, t) :: Chain.stages registry chain (m.apply registry t)

section
variable {registry : Registry} {chain : Chain} {keep : Modification → Bool}

/-- The first step changes the text for all the others. -/
theorem Chain.apply_cons (m : Modification) (chain : Chain) (t : Text) :
    Chain.apply registry (m :: chain) t = Chain.apply registry chain (m.apply registry t) := rfl

/-- Of two chains in a row the second one works on the result of the first. -/
theorem Chain.apply_append (chain more : Chain) (t : Text) :
    Chain.apply registry (chain ++ more) t
      = Chain.apply registry more (Chain.apply registry chain t) := List.foldl_append

/-- Steps that give back every text can be left out without a change of the result. -/
theorem Chain.apply_filter
    (h : ∀ m ∈ chain, keep m = false → ∀ t, m.apply registry t = t) (t : Text) :
    Chain.apply registry (chain.filter keep) t = Chain.apply registry chain t := by
  -- A step that is left out hands on its own text, so the others begin with the same text.
  induction chain generalizing t with
  | nil => rfl
  | cons m chain ih =>
    obtain ⟨hm, hchain⟩ := List.forall_mem_cons.1 h
    rw [Chain.apply_cons]
    cases hkeep : keep m with
    | true => rw [List.filter_cons_of_pos hkeep, Chain.apply_cons, ih hchain]
    | false => rw [List.filter_cons_of_neg (by simp [hkeep]), hm hkeep, ih hchain]

/-- The other steps are given the same texts without them. -/
theorem Chain.stages_filter
    (h : ∀ m ∈ chain, keep m = false → ∀ t, m.apply registry t = t) (t : Text) :
    Chain.stages registry (chain.filter keep) t
      = (Chain.stages registry chain t).filter fun stage => keep stage.1 := by
  induction chain generalizing t with
  | nil => rfl
  | cons m chain ih =>
    obtain ⟨hm, hchain⟩ := List.forall_mem_cons.1 h
    cases hkeep : keep m with
    | true => simp only [Chain.stages, List.filter_cons, hkeep, if_true, ih hchain]
    | false =>
      simp only [Chain.stages, List.filter_cons, hkeep, Bool.false_eq_true, if_false, hm hkeep,
        ih hchain]

end

/-! ### Steps without effect -/

/-- What is wrong with a pattern that does not compile. -/
inductive Refused (source flags : Text) : Prop
  /-- A flag comes twice. -/
  | repeatedFlag (h : ¬ flags.Nodup)
  /-- A letter is no flag. -/
  | unknownFlag {c : Char} (hc : c ∈ flags) (h : c ∉ flagLetters)
  /-- The source does not compile under the options that its flags stand for. -/
  | source (h : Regex.compile? (addLetters {} flags) (narrowShorthands false source) = none)

/-- These are the patterns that do not compile. -/
theorem refused_iff {source flags : Text} :
    Refused source flags ↔ compilePattern? source flags = none := by
  constructor
  · intro h
    cases h with
    | repeatedFlag h => rw [compilePattern?, readFlags?_eq_none (.inl h), Option.bind_none]
    | unknownFlag hc h =>
      rw [compilePattern?, readFlags?_eq_none (.inr ⟨_, hc, h⟩), Option.bind_none]
    | source h =>
      -- Flags that are refused decide the matter before the source is looked at.
      cases hread : readFlags? flags with
      | none => rw [compilePattern?, hread, Option.bind_none]
      | some read =>
        obtain ⟨-, rfl⟩ := readFlagsFrom?_eq_some_iff.1 hread
        rw [compilePattern?, hread, Option.bind_some, h]
  · intro h
    -- Flags without either fault are read, and then the fault is in the source.
    by_cases hnodup : flags.Nodup
    · by_cases hknown : ∀ c ∈ flags, c ∈ flagLetters
      · rw [compilePattern?, readFlags?_of_known hnodup hknown] at h
        exact .source h
      · obtain ⟨c, hunknown⟩ := Classical.not_forall.1 hknown
        obtain ⟨hc, hnot⟩ := Classical.not_imp.1 hunknown
        exact .unknownFlag hc hnot
    · exact .repeatedFlag hnodup

/-- A modification that has no effect on any text. -/
inductive Ineffective (registry : Registry) : Modification → Prop
  /-- The pattern to be replaced does not compile. -/
  | regexReplacement {source flags : Text} (target : Text) (h : Refused source flags) :
    Ineffective registry (.regexReplacement source flags target)
  /-- The pattern to be kept does not compile. -/
  | regexMatch {source flags : Text} (h : Refused source flags) :
    Ineffective registry (.regexMatch source flags)
  /-- The registry does not know the function. -/
  | function {name : Text} (h : registry.get? name = none) : Ineffective registry (.function name)
  /-- The empty text is looked for. -/
  | replacement (target : Text) : Ineffective registry (.replacement [] target)
  /-- The slice goes from end to end. -/
  | slice : Ineffective registry (.slice none none)

/-- Whether a modification has no effect, as a test. -/
def Modification.isIneffective (registry : Registry) : Modification → Bool
  | .regexReplacement source flags _ => (compilePattern? source flags).isNone
  | .regexMatch source flags => (compilePattern? source flags).isNone
  | .function name => (registry.get? name).isNone
  | .replacement source _ => source.isEmpty
  | .slice start stop => start.isNone && stop.isNone

/-- The test finds them all. -/
theorem isIneffective_iff {registry : Registry} {m : Modification} :
    m.isIneffective registry = true ↔ Ineffective registry m := by
  constructor
  · intro h
    cases m with
    | slice start stop =>
      simp only [Modification.isIneffective, Bool.and_eq_true, Option.isNone_iff_eq_none] at h
      obtain ⟨rfl, rfl⟩ := h
      exact .slice
    | replacement source target =>
      obtain rfl := List.isEmpty_iff.1 h
      exact .replacement target
    | regexReplacement source flags target =>
      exact .regexReplacement target (refused_iff.2 (Option.isNone_iff_eq_none.1 h))
    | regexMatch source flags =>
      exact .regexMatch (refused_iff.2 (Option.isNone_iff_eq_none.1 h))
    | function name => exact .function (Option.isNone_iff_eq_none.1 h)
  · intro h
    cases h with
    | regexReplacement target h => exact Option.isNone_iff_eq_none.2 (refused_iff.1 h)
    | regexMatch h => exact Option.isNone_iff_eq_none.2 (refused_iff.1 h)
    | function h => exact Option.isNone_iff_eq_none.2 h
    | replacement target => rfl
    | slice => rfl

instance (registry : Registry) : DecidablePred (Ineffective registry) :=
  fun _ => decidable_of_iff _ isIneffective_iff

/-- An ineffective modification gives back every text. -/
theorem Ineffective.apply_eq {registry : Registry} {m : Modification}
    (h : Ineffective registry m) (t : Text) : m.apply registry t = t := by
  cases h with
  | regexReplacement target h =>
    simp only [Modification.apply, replacePattern, refused_iff.1 h]
  | regexMatch h => simp only [Modification.apply, matchPattern, refused_iff.1 h]
  | function h => simp only [Modification.apply, Registry.apply, h]
  | replacement target => exact replaceAll_nil target t
  | slice => exact slice_none t

/-! ### Isolation -/

/-- **A step without effect stays without consequences.** Left out of a chain, all such steps
together make no difference to the result, nor to the text that any of the other steps is given,
whatever the registry and the text. And a chain in front of another one has an effect on it
through its result alone. -/
theorem ineffective_steps_isolated (registry : Registry) (chain : Chain) (t : Text) :
    let kept : Chain := chain.filter fun m => ¬ Ineffective registry m
    kept.apply registry t = chain.apply registry t ∧
      kept.stages registry t
        = (chain.stages registry t).filter (fun stage => ¬ Ineffective registry stage.1) ∧
      ∀ more : Chain, Chain.apply registry (chain ++ more) t
        = more.apply registry (chain.apply registry t) := by
  have hsame : ∀ m ∈ chain, decide (¬ Ineffective registry m) = false →
      ∀ t, m.apply registry t = t := by
    intro m _ hm
    have hineffective : Ineffective registry m := by simpa using hm
    exact hineffective.apply_eq
  exact ⟨Chain.apply_filter hsame t, Chain.stages_filter hsame t,
    fun more => Chain.apply_append chain more t⟩

/-- Between two steps that count, a pattern that is not closed, a repeated flag, a name that is
not registered, an empty source and a slice without bounds are passed over. -/
example :
    let chain : Chain := [.function "upperCase".toList, .regexReplacement ['('] ['g'] ['x'],
      .regexMatch ['a'] ['i', 'i'], .function "reverse".toList, .replacement [] ['-'],
      .slice none none, .slice (some 1) none]
    chain.stages Registry.standard "a b".toList
        |>.filter (fun stage => ¬ Ineffective Registry.standard stage.1)
      = [(.function "upperCase".toList, "a b".toList), (.slice (some 1) none, "A B".toList)] := by
  decide +kernel

end SearchLink.Template
