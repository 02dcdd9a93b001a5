import SearchLink.Proofs.Template.PlanStep

/-!
# `SearchLink.Proofs.Template.Scanner`: substitution in one pass

The textbook way to fill in a template walks over its characters once. `scan` is that walk.
At each character it asks which active entries open there. If none does, the character is
copied. If some of them have a well-formed token, the first such entry is rendered and the
walk goes on behind the token, with the same entries. Otherwise all entries that open there
are retired and the character is copied.

`substituteAll` does not work like that. It draws up a plan in rounds with look-ahead and
fills in the values afterwards. `substituteAll_eq_scan` says that both give the same text,
whatever the template, the entries, the registry and the flag.

The proof goes by the length of the rest of the template. `PlanStep` says what a plan is at
its first character, and `fillPieces` carries that over to the text.
-/

set_option autoImplicit false

namespace SearchLink.Template

/-- Walks over a template once. The entries are the variables that are still active, as
names and raw texts in their order. -/
def scan (registry : Registry) (encode : Bool) : List (Text × Text) → Text → Text
  | _, [] => []
  | active, c :: r =>
    let here := active.filter fun entry => opensHere entry.1 (c :: r)
    if here.isEmpty then c :: scan registry encode active r
    else
      match _found : firstHere? Prod.fst (c :: r) here with
      | some (entry, chain, rest) =>
        render registry encode chain (Text.trimSelection entry.2) ++
          scan registry encode active rest
      | none => c :: scan registry encode (active.filter fun e => !opensHere e.1 (c :: r)) r
termination_by _ t => t.length
decreasing_by
  · simp
  · exact tokenHere?_length (mem_of_firstHere? _found).2
  · simp

section
variable (registry : Registry) (encode : Bool)

/-- Where some entry has a token at the start, the walk renders the first such entry. -/
theorem scan_of_firstHere? {active : List (Text × Text)} {c : Char} {r rest : Text}
    {entry : Text × Text} {chain : Chain}
    (h : firstHere? Prod.fst (c :: r) active = some (entry, chain, rest)) :
    scan registry encode active (c :: r)
      = render registry encode chain (Text.trimSelection entry.2) ++
          scan registry encode active rest := by
  have hhere := firstHere?_filter_opensHere Prod.fst (c :: r) active
  rw [h] at hhere
  have hsome : (active.filter fun entry => opensHere entry.1 (c :: r)).isEmpty = false := by
    cases hfilter : active.filter fun entry => opensHere entry.1 (c :: r) with
    | nil =>
      rw [hfilter] at hhere
      simp [firstHere?] at hhere
    | cons _ _ => rfl
  rw [scan]
  simp only [hsome, Bool.false_eq_true, if_false]
  split
  · rename_i entry' chain' rest' hfound
    rw [hhere] at hfound
    simp only [Option.some.injEq, Prod.mk.injEq] at hfound
    obtain ⟨rfl, rfl, rfl⟩ := hfound
    rfl
  · rename_i hfound
    rw [hhere] at hfound
    simp at hfound

/-- Where no entry has a token at the start, the walk copies the character and goes on
without the entries that open there. -/
theorem scan_cons {active : List (Text × Text)} {c : Char} {r : Text}
    (h : firstHere? Prod.fst (c :: r) active = none) :
    scan registry encode active (c :: r)
      = c :: scan registry encode (active.filter fun e => !opensHere e.1 (c :: r)) r := by
  have hhere := firstHere?_filter_opensHere Prod.fst (c :: r) active
  rw [h] at hhere
  rw [scan]
  split
  · -- Nothing opens here, so nothing is retired.
    rename_i hempty
    have hkeep : (active.filter fun e => !opensHere e.1 (c :: r)) = active := by
      rw [List.isEmpty_iff, List.filter_eq_nil_iff] at hempty
      exact List.filter_eq_self.2 fun e he => by simpa using hempty e he
    rw [hkeep]
  · split
    · rename_i hfound
      rw [hhere] at hfound
      simp at hfound
    · rfl

/-! ### The two agree -/

/-- The text of a plan, given the raw texts of the variables. -/
def fillPieces (raws : List Text) (pieces : List Piece) : Text :=
  pieces.flatMap (fillPiece registry encode (raws.map Text.trimSelection))

/-- A character in front of a plan stands in front of its text. -/
theorem fillPieces_consLiteral (raws : List Text) (c : Char) (pieces : List Piece) :
    fillPieces registry encode raws (consLiteral c pieces)
      = c :: fillPieces registry encode raws pieces := by
  match pieces with
  | [] => rfl
  | .literal _ :: _ => rfl
  | .value _ _ :: _ => rfl

/-- The entry of the walk for an active name of a plan. -/
def entryOf (raws : List Text) (a : Active) : Text × Text := (a.name, raws.getD a.index [])

/-- The text of a plan is what the walk gives for the same names. -/
theorem fillPieces_planFrom (raws : List Text) (t : Text) (active : List Active) :
    fillPieces registry encode raws (planFrom t active)
      = scan registry encode (active.map (entryOf raws)) t := by
  -- Both sides go on behind a token or behind one character, so the rest gets shorter.
  induction hn : t.length using Nat.strongRecOn generalizing t active with
  | _ n ih =>
    subst hn
    cases t with
    | nil =>
      rw [planFrom_nil, scan]
      rfl
    | cons c r =>
      -- The walk finds what the plan finds, with the raw text in place of the index.
      have hentries := firstHere?_map Prod.fst (c :: r) (entryOf raws) active
      cases hfound : firstHere? Active.name (c :: r) active with
      | some found =>
        obtain ⟨a, chain, rest⟩ := found
        have hlen : rest.length < (c :: r).length :=
          tokenHere?_length (mem_of_firstHere? hfound).2
        have hentry : firstHere? Prod.fst (c :: r) (active.map (entryOf raws))
            = some (entryOf raws a, chain, rest) := by
          rw [hentries]
          exact congrArg (Option.map _) hfound
        rw [planFrom_of_firstHere? hfound, scan_of_firstHere? registry encode hentry,
          ← ih rest.length hlen rest active rfl]
        simp only [fillPieces, List.flatMap_cons, fillPiece, List.nil_append, getD_map_trim,
          entryOf]
      | none =>
        have hentry : firstHere? Prod.fst (c :: r) (active.map (entryOf raws)) = none := by
          rw [hentries]
          exact congrArg (Option.map _) hfound
        rw [planFrom_cons (firstHere?_eq_none_iff.1 hfound), scan_cons registry encode hentry,
          fillPieces_consLiteral, ih r.length (by simp) r _ rfl, List.filter_map]
        rfl

/-- The entries of the walk for the names of a list are the list itself. -/
theorem map_entryOf_allActive (values : List (Text × Text)) :
    (allActive (values.map Prod.fst)).map (entryOf (values.map Prod.snd)) = values := by
  refine List.ext_getElem? fun i => ?_
  simp only [allActive, List.map_map, List.getElem?_map, List.getElem?_zipIdx]
  cases hvalue : values[i]? with
  | none => rfl
  | some value => simp [entryOf, hvalue]

/-- The text of the plan for a list of variables is what the walk gives for the list. -/
theorem fillPieces_plan (template : Text) (values : List (Text × Text)) :
    fillPieces registry encode (values.map Prod.snd) (plan template (values.map Prod.fst))
      = scan registry encode values template := by
  rw [plan, fillPieces_planFrom, map_entryOf_allActive]

/-- A template is filled in with the text of its plan. -/
theorem substituteAll_eq_fillPieces (template : Text) (values : List (Text × Text)) :
    substituteAll registry template values encode
      = fillPieces registry encode (values.map Prod.snd)
          (plan template (values.map Prod.fst)) := by
  simp only [substituteAll, fillPieces, List.map_map]
  rfl

/-- **Substitution is the one-pass walk.** For every template, list of variables, registry
and flag, what the planned rounds produce is what one walk over the characters produces. -/
theorem substituteAll_eq_scan (template : Text) (values : List (Text × Text)) :
    substituteAll registry template values encode = scan registry encode values template := by
  have hfill := fillPieces_planFrom registry encode (values.map Prod.snd) template
    (allActive (values.map Prod.fst))
  rw [map_entryOf_allActive] at hfill
  rw [← hfill]
  simp only [substituteAll, plan, fillPieces, List.map_map]
  rfl

end

end SearchLink.Template
