import SearchLink.Proofs.Template.ChainSteps
import SearchLink.Proofs.Unicode.LowerCase

/-!
# `SearchLink.Proofs.Template.RegistryRun`: what a registry finds after a run of registrations

A registry is made by registering functions one after the other, the standard ones first.
`latest?` says what should be found there without looking at the registry: of all functions that
have been registered, the last one whose name has a property.

* `get?_register`: one registration changes what is found for its own name alone.
* `get?_foldl_register`: after a run, the last function with the name is found, or else what the
  registry found before.

A registration takes the name of the function as it is, and a look-up turns its own name to lower
case. So it finds the last function whose name is this lower-case form (`get?_afterRun`). That is
the last one whose name is the same up to case, unless that one has a capital in its name
(`latest?_lower_eq_iff`). `registry_lookup` is the whole, and `registry_lookup_capital` shows what
becomes of a function with a capital.
-/

set_option autoImplicit false

namespace SearchLink.Template

open SearchLink.Unicode (asciiLower asciiLower_asciiLower)

/-- Texts are the same up to the case of ASCII letters when their lower-case forms are. -/
theorem sameAsciiLetters_iff {s t : Text} :
    sameAsciiLetters s t = true ↔ asciiLower s = asciiLower t := decide_eq_true_iff

/-- The last of some functions whose name has a property. -/
def latest? (p : Text → Bool) (fs : List TextFunction) : Option TextFunction :=
  fs.reverse.find? fun f => p f.name

/-- What a function that has been found does to a text. If none has, the text stays. -/
def perform (found : Option TextFunction) (t : Text) : Text := found.elim t fun f => f.apply t

namespace Registry

/-- The functions that a registry begins with, in the order in which they are registered. -/
def standardFunctions : List TextFunction :=
  [lowercase, uppercase, encodeUriComponent, disableUriEncoding]

/-- The registry after a run of registrations. -/
def afterRun (calls : List TextFunction) : Registry := calls.foldl register standard

section
variable (registry : Registry) (name : Text)

/-- One registration changes what is found for its own name alone. -/
theorem get?_register (f : TextFunction) :
    (registry.register f).get? name
      = if f.name = asciiLower name then some f else registry.get? name := by
  simp only [get?, register, List.find?_cons]
  split
  · rename_i h
    rw [if_pos (of_decide_eq_true h)]
  · rename_i h
    have hne : f.name ≠ asciiLower name := of_decide_eq_false h
    rw [if_neg hne, List.find?_filter]
    -- Whoever goes by the name asked for is not taken away.
    congr 1
    funext g
    by_cases hg : g.name = asciiLower name
    · simp [hg, hne.symm]
    · simp [hg]

/-- After a run, the last function with the name is found, or else what was found before. -/
theorem get?_foldl_register (calls : List TextFunction) :
    (calls.foldl register registry).get? name
      = (latest? (· = asciiLower name) calls).or (registry.get? name) := by
  -- The first call makes a registry, and what the later calls do not hide is found in that one.
  induction calls generalizing registry with
  | nil => rfl
  | cons f calls ih =>
    rw [List.foldl_cons, ih, get?_register, latest?, latest?, List.reverse_cons,
      List.find?_append, Option.or_assoc]
    congr 1
    by_cases h : f.name = asciiLower name <;> simp [h]

/-- What is found transforms the text, and a missing function leaves it alone. -/
theorem apply_eq_perform (t : Text) : registry.apply name t = perform (registry.get? name) t := by
  rw [apply]
  cases registry.get? name <;> rfl

end

/-- After a run, the last function with the name is found, the standard ones counted first. -/
theorem get?_afterRun (calls : List TextFunction) (name : Text) :
    (afterRun calls).get? name
      = latest? (· = asciiLower name) (standardFunctions ++ calls) := by
  have hrun : afterRun calls = (standardFunctions ++ calls).foldl register [] := by
    rw [List.foldl_append]
    rfl
  rw [hrun, get?_foldl_register]
  exact Option.or_none

end Registry

/-! ### Names up to case -/

/-- The last function whose name is the same up to case is the last one whose name is the
lower-case form, if its own name is in lower case, and not otherwise. -/
theorem latest?_lower_eq_iff (fs : List TextFunction) (name : Text) :
    latest? (· = asciiLower name) fs = latest? (sameAsciiLetters name) fs ↔
      ∀ f ∈ latest? (sameAsciiLetters name) fs, asciiLower f.name = f.name := by
  constructor
  · intro h f hf
    rw [← h] at hf
    have hname := List.find?_some hf
    rw [decide_eq_true_iff] at hname
    rw [hname, asciiLower_asciiLower]
  · intro h
    -- The lower-case form is the same name up to case.
    have hsame : ∀ f : TextFunction, sameAsciiLetters name f.name = false →
        f.name ≠ asciiLower name := by
      intro f hf hname
      rw [← Bool.not_eq_true, sameAsciiLetters_iff, hname, asciiLower_asciiLower] at hf
      exact hf rfl
    cases hfound : latest? (sameAsciiLetters name) fs with
    | none =>
      refine List.find?_eq_none.2 fun f hf => ?_
      have hnot := List.find?_eq_none.1 hfound f hf
      simpa using hsame f (Bool.eq_false_iff.2 hnot)
    | some f =>
      obtain ⟨hf, front, back, hsplit, hfront⟩ := List.find?_eq_some_iff_append.1 hfound
      have hname : f.name = asciiLower name :=
        (h f hfound).symm.trans (sameAsciiLetters_iff.1 hf).symm
      refine List.find?_eq_some_iff_append.2 ⟨decide_eq_true hname, front, back, hsplit, ?_⟩
      intro g hg
      simpa using hsame g (by simpa using hfront g hg)

/-- **What a registry finds after a run of registrations**, for a name in any case.

* If all functions have been registered under names in lower case, it is the last one whose name
  is the same up to the case of ASCII letters, the standard functions counted first.
* In general it is the last one whose name is the lower-case form. The two are the same exactly if
  the last one up to case is in lower case, or if there is none.
* What is found is what the name does to a text, alone and as a step of any chain. Where nothing
  is found, the text stays as it is. -/
theorem registry_lookup (calls : List TextFunction) (name : Text) :
    let registry := Registry.afterRun calls
    let known := Registry.standardFunctions ++ calls
    let found := registry.get? name
    ((∀ f ∈ calls, asciiLower f.name = f.name) → found = latest? (sameAsciiLetters name) known) ∧
    (found = latest? (sameAsciiLetters name) known ↔
      ∀ f ∈ latest? (sameAsciiLetters name) known, asciiLower f.name = f.name) ∧
    found = latest? (· = asciiLower name) known ∧
    (∀ t, registry.apply name t = perform found t) ∧
    ∀ (front back : Chain) (t : Text) (encode : Bool),
      let result := back.apply registry (perform found (front.apply registry t))
      render registry encode (front ++ .function name :: back) t
        = if encode && !Chain.disablesEncoding (front ++ .function name :: back) then
            Text.encodeComponent result
          else result := by
  intro registry known found
  have hfound : found = latest? (· = asciiLower name) known := Registry.get?_afterRun calls name
  have hiff : found = latest? (sameAsciiLetters name) known ↔
      ∀ f ∈ latest? (sameAsciiLetters name) known, asciiLower f.name = f.name := by
    rw [hfound]
    exact latest?_lower_eq_iff known name
  refine ⟨fun hcalls => hiff.2 fun f hf => ?_, hiff, hfound,
    Registry.apply_eq_perform registry name, fun front back t encode => ?_⟩
  · -- The standard names are in lower case as well, so all names of the run are.
    have hstandard : ∀ f ∈ Registry.standardFunctions, asciiLower f.name = f.name := by
      simp only [Registry.standardFunctions, List.forall_mem_cons]
      decide
    have hmem : f ∈ known := List.mem_reverse.1 (List.mem_of_find?_eq_some hf)
    rcases List.mem_append.1 hmem with hmem | hmem
    · exact hstandard f hmem
    · exact hcalls f hmem
  · have hchain : Chain.apply registry (front ++ .function name :: back) t
        = back.apply registry (perform found (front.apply registry t)) := by
      rw [Chain.apply_append, Chain.apply_cons, Modification.apply, Registry.apply_eq_perform]
    rw [render, hchain]

/-- A name can be registered again, also one of the standard names, and is then found in every
spelling. -/
theorem registry_lookup_twice :
    let reverse : TextFunction := ⟨"reverse".toList, List.reverse⟩
    let double : TextFunction := ⟨"reverse".toList, fun t => t ++ t⟩
    let calls := [reverse, ⟨"uppercase".toList, List.reverse⟩, double]
    (∀ f ∈ calls, asciiLower f.name = f.name) ∧
      (Registry.afterRun calls).get? "ReVerse".toList = some double ∧
      (Registry.afterRun calls).apply "REVERSE".toList "ab".toList = "abab".toList ∧
      render (Registry.afterRun calls) true
          [.function "UpperCase".toList, .function "Reverse".toList, .slice (some 1) none]
          "a b".toList
        = "%20ab%20a".toList := by
  intro reverse double calls
  have hlower : ∀ f ∈ calls, asciiLower f.name = f.name := by
    simp only [calls, List.forall_mem_cons]
    decide
  have hfound : ∀ name, sameAsciiLetters name "reverse".toList = true →
      (Registry.afterRun calls).get? name = some double := by
    intro name hname
    rw [(registry_lookup calls name).1 hlower]
    exact List.find?_cons_of_pos hname
  refine ⟨hlower, hfound _ (by decide), ?_, ?_⟩
  · rw [(registry_lookup calls "REVERSE".toList).2.2.2.1, hfound _ (by decide)]
    rfl
  · have hrender := (registry_lookup calls "Reverse".toList).2.2.2.2
      [.function "UpperCase".toList] [.slice (some 1) none] "a b".toList true
    rw [hfound _ (by decide)] at hrender
    refine hrender.trans ?_
    decide +kernel

/-- A function with a capital in its name is not found, not even under this name, and one whose
name is a standard name up to case does not take its place. -/
theorem registry_lookup_capital :
    let reverse : TextFunction := ⟨"Reverse".toList, List.reverse⟩
    let upper : TextFunction := ⟨"UPPERCASE".toList, List.reverse⟩
    ((Registry.afterRun [reverse]).get? "Reverse".toList = none ∧
      latest? (sameAsciiLetters "Reverse".toList) (Registry.standardFunctions ++ [reverse])
        = some reverse) ∧
    (Registry.afterRun [upper]).get? "uppercase".toList = some Registry.uppercase ∧
      latest? (sameAsciiLetters "uppercase".toList) (Registry.standardFunctions ++ [upper])
        = some upper := by
  refine ⟨⟨?_, ?_⟩, ?_, ?_⟩
  · rfl
  · rfl
  · rfl
  · rfl

end SearchLink.Template
