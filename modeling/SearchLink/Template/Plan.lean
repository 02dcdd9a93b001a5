import SearchLink.Template.Token

/-!
# `SearchLink.Template.Plan`: where values go

Given the names of some variables, a template splits into literal pieces and places for
values. The plan depends on the template and the names alone, so no value can ever be
scanned for tokens, and none can move another's place.

The plan is drawn up in rounds over the rest of the template. A round takes the nearest
well-formed token among the names that are still active; of two at the same place the
earlier name in the list wins. A name is retired, and the rest of its tokens stay as
written, when it does not occur any more or when its first occurrence is malformed and
lies in front of that token. A malformed occurrence at or behind the token is looked at
again in the next round: it may stand inside the token, or be the beginning of a longer
name.
-/

set_option autoImplicit false

namespace SearchLink.Template

/-- A name that is still looked for, with its index in the list of variables. -/
structure Active where
  /-- Index in the list of variables. -/
  index : Nat
  /-- The variable's name. -/
  name : Text
  deriving Repr, DecidableEq

/-- A piece of a template. -/
inductive Piece where
  /-- Text that is copied. -/
  | literal (t : Text)
  /-- A place for the value with this index, modified by a chain. -/
  | value (index : Nat) (chain : Chain)
  deriving Repr, DecidableEq

/-- The nearest well-formed token among the names, with the index of its name. -/
def nearestToken? (t : Text) : List Active → Option (Nat × Token)
  | [] => none
  | a :: as =>
    match firstToken? a.name t, nearestToken? t as with
    | none, best => best
    | some k, none => some (a.index, k)
    | some k, some best =>
      if best.2.before.length < k.before.length then some best else some (a.index, k)

/-- Whether a name stays active in a round whose token stands behind `before`: its first
occurrence is well-formed, or does not lie in front of the token. -/
def staysActive (t before : Text) (a : Active) : Bool :=
  match findOpening? a.name t with
  | none => false
  | some opening =>
    (readChain opening.after).isSome || before.length ≤ opening.before.length

theorem nearestToken?_length {t : Text} {as : List Active} {i : Nat} {k : Token}
    (h : nearestToken? t as = some (i, k)) : k.rest.length < t.length := by
  induction as generalizing i k with
  | nil => simp [nearestToken?] at h
  | cons a as ih =>
    simp only [nearestToken?] at h
    split at h
    · exact ih h
    · rename_i k' hk' _
      simp only [Option.some.injEq, Prod.mk.injEq] at h
      obtain ⟨-, rfl⟩ := h
      exact firstToken?_length hk'
    · rename_i k' best hk' hbest
      split at h
      · obtain rfl := Option.some.inj h
        exact ih hbest
      · simp only [Option.some.injEq, Prod.mk.injEq] at h
        obtain ⟨-, rfl⟩ := h
        exact firstToken?_length hk'

/-- The pieces of the rest of a template for the names that are still active. -/
def planFrom (t : Text) (active : List Active) : List Piece :=
  match _best : nearestToken? t active with
  | none => [.literal t]
  | some (i, k) =>
    .literal k.before :: .value i k.chain ::
      planFrom k.rest (active.filter (staysActive t k.before))
termination_by t.length
decreasing_by exact nearestToken?_length _best

/-- The variables of a list, all active. -/
def allActive (names : List Text) : List Active :=
  names.zipIdx.map fun entry => ⟨entry.2, entry.1⟩

/-- The pieces of a template for a list of variables. -/
def plan (template : Text) (names : List Text) : List Piece :=
  planFrom template (allActive names)

end SearchLink.Template
